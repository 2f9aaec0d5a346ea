import StackLang.Token

/-! # Syntax trees

* `Expression`, `Statement`, `Definition` — what programs are made of.
* `Module` — the definitions of a source text, in order. -/

namespace StackLang

/-- Expressions. -/
inductive Expression where
  /-- A number. -/
  | number (value : Float)
  /-- A quoted text. -/
  | text (contents : List Char)
  /-- A name. -/
  | name (spelling : String)
  /-- Two operands joined by a sign; the dot selects a field. -/
  | binary (left : Expression) (infixSign : Operator) (right : Expression)
  /-- A call with its arguments. -/
  | call (callee : Expression) (arguments : List Expression)
  deriving Repr, Inhabited

/-- Statements. -/
inductive Statement where
  /-- `let` binds a name to the value of an expression, to the end of the enclosing block. -/
  | binding (name : String) (initializer : Expression)
  /-- `return` leaves the function, with a value or without one. -/
  | returning (value : Option Expression)
  /-- An expression whose value is dropped. -/
  | expression (evaluated : Expression)
  /-- `do … end` groups statements and limits the names they bind. -/
  | block (statements : List Statement)
  deriving Repr, Inhabited

/-- The definition of a function. -/
structure Definition where
  /-- The name of the function. -/
  name : String
  /-- The names of its parameters. -/
  parameters : List String
  /-- The statements that a call runs. -/
  body : List Statement
  deriving Repr, Inhabited

/-- The definitions of a source text, in order. -/
abbrev Module := List Definition

end StackLang
