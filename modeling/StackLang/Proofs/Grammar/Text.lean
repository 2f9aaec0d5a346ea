import StackLang.Parse.Definition

/-! # The grammar of programs

Which token kinds spell which syntax tree, said without the parser. Statements need no separator, so
the raw rules would let one text stand for several trees: `f (x)` is a call and not two statements.
Two conditions on the next token decide: an expression goes on as long as it can, and a `return`
without a value stands before a terminator or the word `end`.

* `SpellsExpression` — expressions, in four tiers: sums, products, fields and calls, operands.
* `SpellsStatement`, `SpellsBody` — statements before a next token, and bodies with their `end`.
* `SpellsDefinition`, `SpellsModule` — definitions, and whole texts.
* `Reads` — the items of a text start with tokens of the given kinds.
* `tokensOf` — a text whose tokens are of the given kinds. -/

namespace StackLang.Grammar

/-! ## Expressions -/

/-- The tier whose operands an operator joins. -/
def tierOf : Operator → Nat
  | .plus | .minus => 0
  | .star | .slash => 1
  | .dot => 2

mutual

/-- The kinds spell an expression of a tier: 0 for sums, 1 for products, 2 for fields and calls, and
3 for operands. -/
inductive SpellsExpression : Nat → List TokenKind → Expression → Prop
  /-- A number. -/
  | number (value : Float) : SpellsExpression 3 [.number value] (.number value)
  /-- A quoted text. -/
  | text (contents : List Char) : SpellsExpression 3 [.text contents] (.text contents)
  /-- A name. -/
  | name (spelling : String) : SpellsExpression 3 [.identifier spelling] (.name spelling)
  /-- Any expression in parentheses. -/
  | parenthesized {inside : List TokenKind} {inner : Expression}
      (h : SpellsExpression 0 inside inner) :
      SpellsExpression 3 (.delimiter .openParen :: (inside ++ [.delimiter .closeParen])) inner
  /-- Operators associate to the left: the right operand is of the next tier. -/
  | operation {tier : Nat} {sign : Operator} {first second : List TokenKind}
      {left right : Expression} (htier : tierOf sign = tier)
      (hleft : SpellsExpression tier first left)
      (hright : SpellsExpression (tier + 1) second right) :
      SpellsExpression tier (first ++ .operator sign :: second) (.binary left sign right)
  /-- A call without arguments. -/
  | emptyCall {first : List TokenKind} {callee : Expression}
      (hcallee : SpellsExpression 2 first callee) :
      SpellsExpression 2 (first ++ [.delimiter .openParen, .delimiter .closeParen])
        (.call callee [])
  /-- A call with arguments. -/
  | call {first inside : List TokenKind} {callee : Expression} {arguments : List Expression}
      (hcallee : SpellsExpression 2 first callee) (harguments : SpellsArguments inside arguments) :
      SpellsExpression 2 (first ++ .delimiter .openParen :: inside) (.call callee arguments)
  /-- What belongs to the next tier belongs to this one. -/
  | raise {tier : Nat} {kinds : List TokenKind} {expression : Expression}
      (h : SpellsExpression (tier + 1) kinds expression) : SpellsExpression tier kinds expression

/-- The kinds spell one argument or more, with the closing parenthesis. -/
inductive SpellsArguments : List TokenKind → List Expression → Prop
  /-- The last argument. -/
  | last {kinds : List TokenKind} {argument : Expression}
      (h : SpellsExpression 0 kinds argument) :
      SpellsArguments (kinds ++ [.delimiter .closeParen]) [argument]
  /-- An argument before others. -/
  | more {kinds behind : List TokenKind} {argument : Expression} {others : List Expression}
      (h : SpellsExpression 0 kinds argument) (hothers : SpellsArguments behind others) :
      SpellsArguments (kinds ++ .delimiter .comma :: behind) (argument :: others)

end

/-- The token could go on with an expression: it is an operator or an opening parenthesis. -/
def Continues (next : TokenKind) : Prop :=
  next = .delimiter .openParen ∨ ∃ sign, next = .operator sign

/-! ## Statements -/

mutual

/-- The kinds spell a statement before the next token. -/
inductive SpellsStatement : List TokenKind → TokenKind → Statement → Prop
  /-- `let name = initializer` -/
  | binding {kinds : List TokenKind} {next : TokenKind} {initializer : Expression} (name : String)
      (h : SpellsExpression 0 kinds initializer) (hnext : ¬ Continues next) :
      SpellsStatement (.keyword .letWord :: .identifier name :: .delimiter .equals :: kinds) next
        (.binding name initializer)
  /-- `return ;` -/
  | returningTerminated (next : TokenKind) :
      SpellsStatement [.keyword .returnWord, .delimiter .terminator] next (.returning none)
  /-- `return`, before the word `end` -/
  | returning : SpellsStatement [.keyword .returnWord] (.keyword .endWord) (.returning none)
  /-- `return value` -/
  | returningValue {kinds : List TokenKind} {next : TokenKind} {value : Expression}
      (h : SpellsExpression 0 kinds value) (hnext : ¬ Continues next) :
      SpellsStatement (.keyword .returnWord :: kinds) next (.returning (some value))
  /-- `do body end` -/
  | block {kinds : List TokenKind} {body : List Statement} (next : TokenKind)
      (h : SpellsBody kinds body) :
      SpellsStatement (.keyword .doWord :: kinds) next (.block body)
  /-- An expression. -/
  | expression {kinds : List TokenKind} {next : TokenKind} {evaluated : Expression}
      (h : SpellsExpression 0 kinds evaluated) (hnext : ¬ Continues next) :
      SpellsStatement kinds next (.expression evaluated)

/-- The kinds spell the statements of a body, with the word `end`. -/
inductive SpellsBody : List TokenKind → List Statement → Prop
  /-- The word `end`. -/
  | close : SpellsBody [.keyword .endWord] []
  /-- A terminator adds no statement. -/
  | terminator {kinds : List TokenKind} {body : List Statement} (h : SpellsBody kinds body) :
      SpellsBody (.delimiter .terminator :: kinds) body
  /-- A statement before what follows it. -/
  | statement {first kinds : List TokenKind} {next : TokenKind} {statement : Statement}
      {body : List Statement} (hfirst : SpellsStatement first next statement)
      (h : SpellsBody (next :: kinds) body) :
      SpellsBody (first ++ next :: kinds) (statement :: body)

end

/-! ## Definitions -/

/-- The kinds spell one parameter or more. -/
inductive SpellsParameters : List TokenKind → List String → Prop
  /-- The last parameter. -/
  | last (name : String) : SpellsParameters [.identifier name] [name]
  /-- A parameter before others. -/
  | more {kinds : List TokenKind} {others : List String} (name : String)
      (h : SpellsParameters kinds others) :
      SpellsParameters (.identifier name :: .delimiter .comma :: kinds) (name :: others)

/-- The kinds spell a definition. -/
inductive SpellsDefinition : List TokenKind → Definition → Prop
  /-- `defun name() = body end` -/
  | plain {kinds : List TokenKind} {body : List Statement} (name : String)
      (h : SpellsBody kinds body) :
      SpellsDefinition (.keyword .defunWord :: .identifier name :: .delimiter .openParen
        :: .delimiter .closeParen :: .delimiter .equals :: kinds) ⟨name, [], body⟩
  /-- `defun name(parameters) = body end` -/
  | parametric {inside kinds : List TokenKind} {parameters : List String} {body : List Statement}
      (name : String) (hparameters : SpellsParameters inside parameters)
      (h : SpellsBody kinds body) :
      SpellsDefinition (.keyword .defunWord :: .identifier name :: .delimiter .openParen
        :: (inside ++ .delimiter .closeParen :: .delimiter .equals :: kinds))
        ⟨name, parameters, body⟩

/-- The kinds spell a whole text. -/
inductive SpellsModule : List TokenKind → Module → Prop
  /-- The end of the text. -/
  | nil : SpellsModule [] []
  /-- A terminator adds no definition. -/
  | terminator {kinds : List TokenKind} {definitions : Module}
      (h : SpellsModule kinds definitions) :
      SpellsModule (.delimiter .terminator :: kinds) definitions
  /-- A definition before others. -/
  | definition {first kinds : List TokenKind} {found : Definition} {definitions : Module}
      (hfirst : SpellsDefinition first found) (h : SpellsModule kinds definitions) :
      SpellsModule (first ++ kinds) (found :: definitions)

/-! ## Reading the items of a text -/

/-- The items start with tokens of the given kinds, and the rest lies behind these. -/
def Reads : List TokenKind → List Item → List Item → Prop
  | [], items, rest => items = rest
  | kind :: kinds, items, rest =>
      ∃ token behind, items = .ok token :: behind ∧ token.kind = kind ∧ Reads kinds behind rest

@[simp] theorem reads_nil {items rest : List Item} : Reads [] items rest ↔ items = rest := Iff.rfl

/-- A token is read before the others. -/
theorem Reads.cons {kind : TokenKind} {kinds : List TokenKind} {token : Token}
    {behind rest : List Item} (hkind : token.kind = kind) (h : Reads kinds behind rest) :
    Reads (kind :: kinds) (.ok token :: behind) rest :=
  ⟨token, behind, rfl, hkind, h⟩

/-- A token is read alone. -/
theorem Reads.single {kind : TokenKind} {token : Token} {rest : List Item}
    (hkind : token.kind = kind) : Reads [kind] (.ok token :: rest) rest :=
  .cons hkind (reads_nil.mpr rfl)

/-- Kinds are read one after the other. -/
theorem reads_append {first second : List TokenKind} {items rest : List Item} :
    Reads (first ++ second) items rest
      ↔ ∃ middle, Reads first items middle ∧ Reads second middle rest := by
  induction first generalizing items with
  | nil => simp
  | cons kind kinds ih =>
      constructor
      · rintro ⟨token, behind, hitems, hkind, hreads⟩
        obtain ⟨middle, hfirst, hsecond⟩ := ih.mp hreads
        exact ⟨middle, ⟨token, behind, hitems, hkind, hfirst⟩, hsecond⟩
      · rintro ⟨middle, ⟨token, behind, hitems, hkind, hfirst⟩, hsecond⟩
        exact ⟨token, behind, hitems, hkind, ih.mpr ⟨middle, hfirst, hsecond⟩⟩

/-- The first kind is read before the others. -/
theorem reads_cons {kind : TokenKind} {kinds : List TokenKind} {items rest : List Item} :
    Reads (kind :: kinds) items rest
      ↔ ∃ middle, Reads [kind] items middle ∧ Reads kinds middle rest := by
  rw [← List.singleton_append, reads_append]

/-- What was read and what lies behind it make up the items. -/
theorem Reads.length_eq {kinds : List TokenKind} {items rest : List Item}
    (h : Reads kinds items rest) : items.length = kinds.length + rest.length := by
  induction kinds generalizing items with
  | nil => rw [reads_nil.mp h, List.length_nil, Nat.zero_add]
  | cons kind kinds ih =>
      obtain ⟨token, behind, rfl, -, hreads⟩ := h
      rw [List.length_cons, List.length_cons, ih hreads]
      omega

/-- Items that are as many start with tokens of the same kinds. -/
theorem Reads.kinds_eq {first second : List TokenKind} {items rest : List Item}
    (hfirst : Reads first items rest) (hsecond : Reads second items rest) : first = second := by
  induction first generalizing second items with
  | nil =>
      have hlength := hsecond.length_eq
      rw [reads_nil.mp hfirst] at hlength
      exact (List.length_eq_zero_iff.mp (by omega)).symm
  | cons kind kinds ih =>
      have hlength := hfirst.length_eq
      obtain ⟨token, behind, rfl, rfl, hkinds⟩ := hfirst
      match second with
      | [] =>
          rw [← reads_nil.mp hsecond] at hlength
          simp only [List.length_cons] at hlength
          omega
      | other :: others =>
          obtain ⟨_, _, hitems, hkind, hothers⟩ := hsecond
          cases hitems
          rw [hkind, ih hkinds hothers]

/-- Items are read to their end if all of them are tokens, of these kinds. -/
theorem reads_end_iff {kinds : List TokenKind} {items : List Item} :
    Reads kinds items [] ↔ items.map Item.content = kinds.map .ok := by
  induction kinds generalizing items with
  | nil => simp
  | cons kind kinds ih =>
      constructor
      · rintro ⟨token, behind, rfl, rfl, hreads⟩
        rw [List.map_cons, List.map_cons, ih.mp hreads]
        rfl
      · intro hmap
        match items with
        | [] => cases hmap
        | .error error :: rest => cases hmap
        | .ok token :: rest =>
            rw [List.map_cons, List.map_cons, List.cons.injEq] at hmap
            exact ⟨token, rest, rfl, Except.ok.inj hmap.1, ih.mpr hmap.2⟩

/-- Tokens of the given kinds, all of them at one place. -/
def tokensOf (kinds : List TokenKind) : List Item :=
  kinds.map fun kind => .ok ⟨kind, .point .start⟩

/-- Such tokens are read before what lies behind them. -/
theorem reads_tokensOf_append (kinds : List TokenKind) (rest : List Item) :
    Reads kinds (tokensOf kinds ++ rest) rest := by
  induction kinds with
  | nil => rfl
  | cons kind kinds ih => exact .cons rfl ih

end StackLang.Grammar
