import StackLang.Compile.Statement

/-! # The code of a program, by its parts

The compiler as a relation between a part of a program and its code, with one rule for each kind of
part, so that facts about code are proved along these rules.

* `ExpressionCode`, `ExpressionsCode` — the code of expressions.
* `StatementCode`, `StatementsCode` — the code of statements.
* `expressionCode`, `statementsCode` — what is compiled is related.
* `FunctionCode` — the unit of a definition. -/

namespace StackLang.Compile

open Bytecode (CodeUnit Instruction Pool)

mutual

/-- In a scope an expression has the code, which turns the first pool into the second. -/
inductive ExpressionCode (environment : Environment) (scope : Scope) :
    Pool → Expression → List Instruction → Pool → Prop
  /-- A number is a further constant. -/
  | number {pool : Pool} (value : Float) (hroom : pool.size < Bytecode.capacity) :
      ExpressionCode environment scope pool (.number value)
        [.constant (UInt8.ofNat pool.size)] (pool.push (.number value))
  /-- A local is loaded from its slot. -/
  | localName {pool : Pool} {spelling : String} {slot : Nat}
      (hslot : scope.slot? spelling = some slot) :
      ExpressionCode environment scope pool (.name spelling) [.loadLocal (UInt8.ofNat slot)] pool
  /-- A reference to a global is a further constant. -/
  | globalName {pool : Pool} {spelling : String} {reference : FunctionRef}
      (hlocal : scope.slot? spelling = none)
      (hreference : environment.reference? spelling = some reference)
      (hroom : pool.size < Bytecode.capacity) :
      ExpressionCode environment scope pool (.name spelling)
        [.loadGlobal (UInt8.ofNat pool.size)] (pool.push (.function reference))
  /-- The operands come before the operation. -/
  | binary {pool middle extended : Pool} {left right : Expression} {sign : Operator}
      {first second : List Instruction} {instruction : Instruction}
      (hsign : arithmetic? sign = some instruction)
      (hleft : ExpressionCode environment scope pool left first middle)
      (hright : ExpressionCode environment scope middle right second extended) :
      ExpressionCode environment scope pool (.binary left sign right)
        (first ++ second ++ [instruction]) extended
  /-- The arguments come before the callee, and this before the call. -/
  | call {pool middle extended : Pool} {callee : Expression} {arguments : List Expression}
      {operands called : List Instruction} (hcount : arguments.length ≤ maxArguments)
      (harguments : ExpressionsCode environment scope pool arguments operands middle)
      (hcallee : ExpressionCode environment scope middle callee called extended) :
      ExpressionCode environment scope pool (.call callee arguments)
        (operands ++ called ++ [.call (UInt8.ofNat arguments.length)]) extended

/-- In a scope several expressions have the code. -/
inductive ExpressionsCode (environment : Environment) (scope : Scope) :
    Pool → List Expression → List Instruction → Pool → Prop
  /-- No expression has no code. -/
  | nil {pool : Pool} : ExpressionsCode environment scope pool [] [] pool
  /-- The expressions come in order. -/
  | cons {pool middle extended : Pool} {first : Expression} {others : List Expression}
      {head tail : List Instruction}
      (hfirst : ExpressionCode environment scope pool first head middle)
      (hothers : ExpressionsCode environment scope middle others tail extended) :
      ExpressionsCode environment scope pool (first :: others) (head ++ tail) extended

end

mutual

/-- A statement has the code, which turns the first scope and pool into the second ones. -/
inductive StatementCode (environment : Environment) :
    Scope → Pool → Statement → List Instruction → Scope → Pool → Prop
  /-- The value of the initializer becomes a local. -/
  | binding {scope : Scope} {pool extended : Pool} {initializer : Expression}
      {code : List Instruction} (name : String) (hroom : scope.length < Bytecode.capacity)
      (h : ExpressionCode environment scope pool initializer code extended) :
      StatementCode environment scope pool (.binding name initializer) code (name :: scope) extended
  /-- `return` -/
  | returningVoid {scope : Scope} {pool : Pool} :
      StatementCode environment scope pool (.returning none) [.returnVoid] scope pool
  /-- `return value` -/
  | returningValue {scope : Scope} {pool extended : Pool} {value : Expression}
      {code : List Instruction} (h : ExpressionCode environment scope pool value code extended) :
      StatementCode environment scope pool (.returning (some value)) (code ++ [.returnValue]) scope
        extended
  /-- The value is dropped. -/
  | expression {scope : Scope} {pool extended : Pool} {evaluated : Expression}
      {code : List Instruction}
      (h : ExpressionCode environment scope pool evaluated code extended) :
      StatementCode environment scope pool (.expression evaluated) (code ++ [.pop]) scope extended
  /-- What a block binds is dropped at its end. -/
  | block {scope inner : Scope} {pool extended : Pool} {inside : List Statement}
      {code : List Instruction}
      (h : StatementsCode environment scope pool inside code inner extended) :
      StatementCode environment scope pool (.block inside)
        (code ++ drops (inner.length - scope.length)) scope extended

/-- Several statements have the code. -/
inductive StatementsCode (environment : Environment) :
    Scope → Pool → List Statement → List Instruction → Scope → Pool → Prop
  /-- No statement has no code. -/
  | nil {scope : Scope} {pool : Pool} : StatementsCode environment scope pool [] [] scope pool
  /-- The statements come in order. -/
  | cons {scope middle inner : Scope} {pool between extended : Pool} {first : Statement}
      {others : List Statement} {head tail : List Instruction}
      (hfirst : StatementCode environment scope pool first head middle between)
      (hothers : StatementsCode environment middle between others tail inner extended) :
      StatementsCode environment scope pool (first :: others) (head ++ tail) inner extended

end

variable {environment : Environment}

/-! ## What is compiled is related -/

/-- A byte holds the number of the arguments of a call, and that of the parameters of a function. -/
theorem toNat_ofNat_of_le_maxArguments {count : Nat} (h : count ≤ maxArguments) :
    (UInt8.ofNat count).toNat = count :=
  UInt8.toNat_ofNat_of_lt' (Nat.lt_succ_of_le h)

theorem bind_eq_ok {ε α β : Type} {first : Except ε α} {next : α → Except ε β} {value : β}
    (h : first >>= next = .ok value) : ∃ middle, first = .ok middle ∧ next middle = .ok value := by
  cases first with
  | error _ => cases h
  | ok middle => exact ⟨middle, rfl, h⟩

/-- A constant gets the next index. -/
theorem constantLoad_eq_ok {load : UInt8 → Instruction} {value : Value} {pool extended : Pool}
    {code : List Instruction} (h : constantLoad load value pool = .ok (code, extended)) :
    pool.size < Bytecode.capacity ∧ code = [load (UInt8.ofNat pool.size)]
      ∧ extended = pool.push value := by
  rw [constantLoad, Pool.add?] at h
  by_cases hroom : pool.size < Bytecode.capacity
  · rw [if_pos hroom] at h
    cases h
    exact ⟨hroom, rfl, rfl⟩
  · rw [if_neg hroom] at h
    cases h

theorem nameCode {scope : Scope} {pool extended : Pool} {spelling : String}
    {code : List Instruction}
    (h : nameLoad environment scope spelling pool = .ok (code, extended)) :
    ExpressionCode environment scope pool (.name spelling) code extended := by
  rw [nameLoad] at h
  cases hslot : scope.slot? spelling with
  | some slot =>
      rw [hslot] at h
      cases h
      exact .localName hslot
  | none =>
      rw [hslot] at h
      cases hreference : environment.reference? spelling with
      | none =>
          rw [hreference] at h
          cases h
      | some reference =>
          rw [hreference] at h
          obtain ⟨hroom, rfl, rfl⟩ := constantLoad_eq_ok h
          exact .globalName hslot hreference hroom

mutual

/-- An expression has the code that is compiled for it. -/
theorem expressionCode {scope : Scope} {pool extended : Pool} {code : List Instruction} :
    (evaluated : Expression) →
      expression environment scope pool evaluated = .ok (code, extended) →
        ExpressionCode environment scope pool evaluated code extended
  | .number value => by
      intro h
      rw [expression] at h
      obtain ⟨hroom, rfl, rfl⟩ := constantLoad_eq_ok h
      exact .number value hroom
  | .text _ => by
      intro h
      rw [expression] at h
      cases h
  | .name spelling => by
      intro h
      rw [expression] at h
      exact nameCode h
  | .binary left sign right => by
      intro h
      rw [expression] at h
      cases hsign : arithmetic? sign with
      | none =>
          rw [hsign] at h
          cases h
      | some instruction =>
          rw [hsign] at h
          obtain ⟨⟨first, middle⟩, hleft, h⟩ := bind_eq_ok h
          obtain ⟨⟨second, behind⟩, hright, h⟩ := bind_eq_ok h
          cases h
          exact .binary hsign (expressionCode left hleft) (expressionCode right hright)
  | .call callee arguments => by
      intro h
      rw [expression] at h
      by_cases hcount : arguments.length ≤ maxArguments
      · rw [if_pos hcount] at h
        obtain ⟨⟨operands, middle⟩, harguments, h⟩ := bind_eq_ok h
        obtain ⟨⟨called, behind⟩, hcallee, h⟩ := bind_eq_ok h
        cases h
        exact .call hcount (expressionsCode arguments harguments) (expressionCode callee hcallee)
      · rw [if_neg hcount] at h
        cases h

/-- Expressions have the code that is compiled for them. -/
theorem expressionsCode {scope : Scope} {pool extended : Pool} {code : List Instruction} :
    (evaluated : List Expression) →
      expressions environment scope pool evaluated = .ok (code, extended) →
        ExpressionsCode environment scope pool evaluated code extended
  | [] => by
      intro h
      rw [expressions] at h
      cases h
      exact .nil
  | first :: others => by
      intro h
      rw [expressions] at h
      obtain ⟨⟨head, middle⟩, hfirst, h⟩ := bind_eq_ok h
      obtain ⟨⟨tail, behind⟩, hothers, h⟩ := bind_eq_ok h
      cases h
      exact .cons (expressionCode first hfirst) (expressionsCode others hothers)

end

mutual

/-- A statement has the code that is compiled for it. -/
theorem statementCode {scope : Scope} {pool : Pool} {emission : Emission} :
    (executed : Statement) → statement environment scope pool executed = .ok emission →
      StatementCode environment scope pool executed emission.code emission.scope emission.pool
  | .binding name initializer => by
      intro h
      rw [statement] at h
      obtain ⟨⟨code, extended⟩, hcode, h⟩ := bind_eq_ok h
      rw [Scope.bind?] at h
      by_cases hroom : scope.length < Bytecode.capacity
      · rw [if_pos hroom] at h
        cases h
        exact .binding name hroom (expressionCode initializer hcode)
      · rw [if_neg hroom] at h
        cases h
  | .returning none => by
      intro h
      rw [statement] at h
      cases h
      exact .returningVoid
  | .returning (some value) => by
      intro h
      rw [statement] at h
      obtain ⟨⟨code, extended⟩, hcode, h⟩ := bind_eq_ok h
      cases h
      exact .returningValue (expressionCode value hcode)
  | .expression evaluated => by
      intro h
      rw [statement] at h
      obtain ⟨⟨code, extended⟩, hcode, h⟩ := bind_eq_ok h
      cases h
      exact .expression (expressionCode evaluated hcode)
  | .block inside => by
      intro h
      rw [statement] at h
      obtain ⟨body, hbody, h⟩ := bind_eq_ok h
      cases h
      exact .block (statementsCode inside hbody)

/-- Statements have the code that is compiled for them. -/
theorem statementsCode {scope : Scope} {pool : Pool} {emission : Emission} :
    (executed : List Statement) → statements environment scope pool executed = .ok emission →
      StatementsCode environment scope pool executed emission.code emission.scope emission.pool
  | [] => by
      intro h
      rw [statements] at h
      cases h
      exact .nil
  | first :: others => by
      intro h
      rw [statements] at h
      obtain ⟨head, hfirst, h⟩ := bind_eq_ok h
      obtain ⟨tail, hothers, h⟩ := bind_eq_ok h
      cases h
      exact .cons (statementCode first hfirst) (statementsCode others hothers)

end

/-- The unit of a definition, by its parts. -/
theorem functionCode {definition : Definition} {unit : CodeUnit}
    (h : function environment definition = .ok unit) :
    definition.parameters.length ≤ maxArguments ∧ ∃ code scope pool,
      StatementsCode environment definition.parameters.reverse #[] definition.body code scope pool
        ∧ unit = .ofInstructions (some (environment.symbol definition.name))
            (UInt8.ofNat definition.parameters.length)
            (code ++ drops scope.length ++ [.returnVoid]) pool := by
  rw [function] at h
  by_cases hcount : definition.parameters.length ≤ maxArguments
  · rw [if_pos hcount] at h
    obtain ⟨body, hbody, h⟩ := bind_eq_ok h
    cases h
    exact ⟨hcount, _, _, _, statementsCode definition.body hbody, rfl⟩
  · rw [if_neg hcount] at h
    cases h

end StackLang.Compile
