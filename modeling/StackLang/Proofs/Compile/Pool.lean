import StackLang.Proofs.Compile.Code

/-! # The constants of code

Every number and every reference to a global gets a constant of its own, in the order in which they
are evaluated. Constants are only ever added behind those that a pool has, so what an index refers
to stays the same.

* `expressionConstants`, `statementsConstants` — the values for which a program needs constants.
* `Adds` — code that adds these values to a pool, and refers to each at its index.
* `ExpressionCode.adds`, `StatementsCode.adds` — compiled code does so.
* `Pool.Extends` — one pool has all constants of another at the same indices. -/

namespace StackLang

namespace Bytecode

/-! ## Pools -/

/-- One pool has all constants of another, at the same indices. -/
def Pool.Extends (large small : Pool) : Prop :=
  ∀ (index : Nat) (value : Value), small[index]? = some value → large[index]? = some value

theorem Pool.Extends.refl (pool : Pool) : Pool.Extends pool pool :=
  fun _ _ h => h

theorem Pool.Extends.trans {large middle small : Pool} (h : Pool.Extends large middle)
    (hmiddle : Pool.Extends middle small) : Pool.Extends large small :=
  fun index value hsmall => h index value (hmiddle index value hsmall)

/-- Constants that are added behind the others leave these where they are. -/
theorem Pool.extends_append (pool added : Pool) : Pool.Extends (pool ++ added) pool := by
  intro index found h
  obtain ⟨hlt, -⟩ := Array.getElem?_eq_some_iff.mp h
  rw [Array.getElem?_append_left hlt, h]

/-- A constant that was added is found at the index that it was given. -/
theorem Pool.constant?_of_extends {unit : CodeUnit} {pool : Pool} {value : Value}
    (h : Pool.Extends unit.constants (pool.push value)) (hroom : pool.size < capacity) :
    unit.constant? (UInt8.ofNat pool.size) = some value := by
  have hindex : (UInt8.ofNat pool.size).toNat = pool.size := UInt8.toNat_ofNat_of_lt' hroom
  rw [CodeUnit.constant?, hindex]
  refine h _ _ ?_
  rw [Array.getElem?_push, if_pos rfl]

/-- Whether an instruction refers to a constant. -/
def Instruction.isConstantLoad : Instruction → Bool
  | .constant _ | .loadGlobal _ => true
  | _ => false

/-- The instruction that refers to a value at an index. -/
def constantLoad : Value × Nat → Instruction
  | (.number _, index) => .constant (UInt8.ofNat index)
  | (.function _, index) => .loadGlobal (UInt8.ofNat index)

/-- Code adds values to a pool, and refers to each of them in turn at the index that it gets. -/
structure Adds (pool extended : Pool) (code : List Instruction) (values : List Value) : Prop where
  /-- The values are added in order. -/
  pool_eq : extended = pool ++ values.toArray
  /-- They are referred to in order, each at its index. -/
  loads_eq : code.filter Instruction.isConstantLoad = (values.zipIdx pool.size).map constantLoad
  /-- The indices fit into a byte. -/
  size_le : pool.size ≤ capacity → extended.size ≤ capacity

namespace Adds

variable {pool middle extended : Pool} {first second : List Instruction}
  {values others : List Value}

/-- Code that refers to no constant adds none. -/
theorem nothing (h : first.filter Instruction.isConstantLoad = []) : Adds pool pool first [] :=
  ⟨Array.append_empty.symm, h, id⟩

/-- A single reference. -/
theorem single {value : Value} (hroom : pool.size < capacity) :
    Adds pool (pool.push value) [constantLoad (value, pool.size)] [value] := by
  refine ⟨Array.push_eq_append, ?_, ?_⟩
  · cases value <;> rfl
  · intro _
    rw [Array.size_push]
    exact hroom

/-- What code adds and what further code adds. -/
theorem append (hfirst : Adds pool middle first values)
    (hsecond : Adds middle extended second others) :
    Adds pool extended (first ++ second) (values ++ others) := by
  refine ⟨?_, ?_, fun hle => hsecond.size_le (hfirst.size_le hle)⟩
  · rw [hsecond.pool_eq, hfirst.pool_eq, Array.append_assoc]
    simp
  · have hsize : middle.size = pool.size + values.length := by
      rw [hfirst.pool_eq]
      exact Array.size_append
    rw [List.filter_append, hfirst.loads_eq, hsecond.loads_eq, hsize, List.zipIdx_append,
      List.map_append, Nat.add_comm]

/-- Behind code that adds values, code that refers to no constant adds none. -/
theorem append_nothing (hfirst : Adds pool middle first values)
    (h : second.filter Instruction.isConstantLoad = []) :
    Adds pool middle (first ++ second) values := by
  have hboth := hfirst.append (nothing h)
  rwa [List.append_nil] at hboth

end Adds

/-- What code adds comes behind the constants that a pool has. -/
theorem Adds.extends {pool extended : Pool} {code : List Instruction} {values : List Value}
    (h : Adds pool extended code values) : Pool.Extends extended pool := by
  rw [h.pool_eq]
  exact Pool.extends_append pool values.toArray

end Bytecode

namespace Compile

open Bytecode (Adds Instruction Pool)

/-! ## The constants of a program -/

mutual

/-- The values for which an expression needs constants, in the order of their evaluation: its
numbers, and what its names mean that are not local. -/
def expressionConstants (environment : Environment) (scope : Scope) : Expression → List Value
  | .number value => [.number value]
  | .text _ => []
  | .name spelling =>
      match scope.slot? spelling with
      | some _ => []
      | none => (environment.reference? spelling).toList.map .function
  | .binary left _ right =>
      expressionConstants environment scope left ++ expressionConstants environment scope right
  | .call callee arguments =>
      expressionsConstants environment scope arguments
        ++ expressionConstants environment scope callee

/-- The values for which several expressions need constants. -/
def expressionsConstants (environment : Environment) (scope : Scope) : List Expression → List Value
  | [] => []
  | first :: others =>
      expressionConstants environment scope first ++ expressionsConstants environment scope others

end

/-- The scope behind a statement. -/
def scopeBehind (scope : Scope) : Statement → Scope
  | .binding name _ => name :: scope
  | _ => scope

mutual

/-- The values for which a statement needs constants. -/
def statementConstants (environment : Environment) (scope : Scope) : Statement → List Value
  | .binding _ initializer => expressionConstants environment scope initializer
  | .returning none => []
  | .returning (some value) => expressionConstants environment scope value
  | .expression evaluated => expressionConstants environment scope evaluated
  | .block inside => statementsConstants environment scope inside

/-- The values for which several statements need constants. -/
def statementsConstants (environment : Environment) (scope : Scope) : List Statement → List Value
  | [] => []
  | first :: others =>
      statementConstants environment scope first
        ++ statementsConstants environment (scopeBehind scope first) others

end

variable {environment : Environment}

theorem isConstantLoad_of_arithmetic? {sign : Operator} {instruction : Instruction}
    (h : arithmetic? sign = some instruction) : instruction.isConstantLoad = false := by
  cases sign with
  | plus | minus | star | slash =>
      cases h
      rfl
  | dot => cases h

theorem filter_drops (count : Nat) : (drops count).filter Instruction.isConstantLoad = [] := by
  rw [drops, List.filter_replicate]
  rfl

mutual

/-- The code of an expression adds its constants. -/
theorem ExpressionCode.adds {scope : Scope} {pool extended : Pool} {evaluated : Expression}
    {code : List Instruction} :
    ExpressionCode environment scope pool evaluated code extended →
      Adds pool extended code (expressionConstants environment scope evaluated)
  | .number value hroom => by
      rw [expressionConstants]
      exact Adds.single hroom
  | .localName hslot => by
      rw [expressionConstants, hslot]
      exact Adds.nothing rfl
  | .globalName hlocal hreference hroom => by
      rw [expressionConstants, hlocal, hreference]
      exact Adds.single hroom
  | .binary hsign hleft hright => by
      rw [expressionConstants]
      refine (hleft.adds.append hright.adds).append_nothing ?_
      rw [List.filter_cons_of_neg (by simp [isConstantLoad_of_arithmetic? hsign])]
      rfl
  | .call _ harguments hcallee => by
      rw [expressionConstants]
      exact (harguments.adds.append hcallee.adds).append_nothing rfl

/-- The code of several expressions adds their constants. -/
theorem ExpressionsCode.adds {scope : Scope} {pool extended : Pool}
    {evaluated : List Expression} {code : List Instruction} :
    ExpressionsCode environment scope pool evaluated code extended →
      Adds pool extended code (expressionsConstants environment scope evaluated)
  | .nil => by
      rw [expressionsConstants]
      exact Adds.nothing rfl
  | .cons hfirst hothers => by
      rw [expressionsConstants]
      exact hfirst.adds.append hothers.adds

end

/-- The scope behind the code of a statement. -/
theorem StatementCode.inner_eq {scope inner : Scope} {pool extended : Pool} {executed : Statement}
    {code : List Instruction}
    (h : StatementCode environment scope pool executed code inner extended) :
    inner = scopeBehind scope executed := by
  cases h <;> rfl

mutual

/-- The code of a statement adds its constants. -/
theorem StatementCode.adds {scope inner : Scope} {pool extended : Pool} {executed : Statement}
    {code : List Instruction} :
    StatementCode environment scope pool executed code inner extended →
      Adds pool extended code (statementConstants environment scope executed)
  | .binding _ _ h => by
      rw [statementConstants]
      exact h.adds
  | .returningVoid => by
      rw [statementConstants]
      exact Adds.nothing rfl
  | .returningValue h => by
      rw [statementConstants]
      exact h.adds.append_nothing rfl
  | .expression h => by
      rw [statementConstants]
      exact h.adds.append_nothing rfl
  | .block h => by
      rw [statementConstants]
      exact h.adds.append_nothing (filter_drops _)

/-- The code of several statements adds their constants. -/
theorem StatementsCode.adds {scope inner : Scope} {pool extended : Pool}
    {executed : List Statement} {code : List Instruction} :
    StatementsCode environment scope pool executed code inner extended →
      Adds pool extended code (statementsConstants environment scope executed)
  | .nil => by
      rw [statementsConstants]
      exact Adds.nothing rfl
  | .cons hfirst hothers => by
      rw [statementsConstants, ← hfirst.inner_eq]
      exact hfirst.adds.append hothers.adds

end

end Compile

end StackLang
