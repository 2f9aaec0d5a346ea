import StackLang.Numeral.Written
import StackLang.Symbol

/-! # Values

* `FunctionRef` — a reference to a global function.
* `Value` — what programs compute with: numbers and references to functions.
* `Value.shown` — the text of a value. -/

namespace StackLang

/-- A reference to the function in a slot of the table of globals. Which function that is shows only
when it is called. -/
structure FunctionRef where
  /-- The slot of the global. -/
  slot : Nat
  /-- The name by which the reference was made. -/
  name : Symbol
  deriving DecidableEq, Repr

/-- Values. -/
inductive Value where
  /-- A number. -/
  | number (value : Float)
  /-- A reference to a function. -/
  | function (reference : FunctionRef)
  deriving DecidableEq, Repr

namespace Value

/-- The text of a value. -/
def shown : Value → List Char
  | .number value => Numeral.written value
  | .function reference => "<fn ".toList ++ reference.name.name.toList ++ ['>']

/-- The text of a value as a string. -/
def toText (value : Value) : String :=
  String.ofList value.shown

end Value

end StackLang
