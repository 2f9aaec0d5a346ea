import StackLang.Proofs.Compile.Pool

/-! # Which definitions have code

A definition makes demands on what a byte can count and on what instructions there are. They are
read off its text in order, without any code, and the first one that cannot be met says why there is
no code for the definition. If there is none, there is code.

* `Demand` — what a part of a definition demands; `Demand.violation?` — why it cannot be met.
* `definitionDemands` — the demands of a definition, in order.
* `Met`, `FirstViolation` — all of some demands can be met, or one is the first that cannot.
* `check` — go through demands one by one; `check_eq_ok_iff`, `check_eq_error_iff` — what it finds.
* `function_check` — compiling a definition goes through its demands.
* `function_exact` — a definition has code just if its demands can be met, and there is no code for
  the reason that the first violation gives. -/

namespace StackLang.Compile

open Bytecode (CodeUnit Instruction Pool)

/-! ## Demands -/

/-- What a part of a definition demands. -/
inductive Demand where
  /-- The number of the parameters fits into a byte. -/
  | parameters (count : Nat)
  /-- There is room for a number among the constants. -/
  | number
  /-- A quoted text can be a value. -/
  | text
  /-- Where some locals are live, a name means something. -/
  | name (live : Scope) (spelling : String)
  /-- There is an instruction for an operator. -/
  | operation (sign : Operator)
  /-- The number of the arguments of a call fits into a byte. -/
  | call (count : Nat)
  /-- Where some locals are live, there is room for another one. -/
  | binding (live : Scope)

namespace Demand

/-- Whether a constant is needed: for a number, or for a name that is not local. -/
def takesConstant : Demand → Bool
  | .number => true
  | .name live spelling => spelling ∉ live
  | _ => false

/-- How many constants some demands need. Equal ones are not shared. -/
def constants (demands : List Demand) : Nat :=
  demands.countP takesConstant

/-- Why a demand cannot be met when so many constants were needed before it. -/
def violation? (environment : Environment) (taken : Nat) : Demand → Option CompileError
  | .parameters count => if 255 < count then some .tooManyLocals else none
  | .number => if 256 ≤ taken then some .tooManyConstants else none
  | .text => some .unsupportedLiteral
  | .name live spelling =>
      if spelling ∈ live then none
      else if environment.globals.resolve? (environment.symbol spelling) = none then
        some (.unresolvedIdentifier spelling)
      else if 256 ≤ taken then some .tooManyConstants
      else none
  | .operation sign => if sign = .dot then some (.unsupportedOperator .dot) else none
  | .call count => if 255 < count then some .tooManyArguments else none
  | .binding live => if 256 ≤ live.length then some .tooManyLocals else none

end Demand

open Demand (constants)

mutual

/-- The demands of an expression where some locals are live. That there is an instruction for an
operator, and that the arguments of a call can be counted, is demanded before anything inside. -/
def expressionDemands (live : Scope) : Expression → List Demand
  | .number _ => [.number]
  | .text _ => [.text]
  | .name spelling => [.name live spelling]
  | .binary left sign right =>
      .operation sign :: (expressionDemands live left ++ expressionDemands live right)
  | .call callee arguments =>
      .call arguments.length :: (expressionsDemands live arguments ++ expressionDemands live callee)

/-- The demands of several expressions. -/
def expressionsDemands (live : Scope) : List Expression → List Demand
  | [] => []
  | first :: others => expressionDemands live first ++ expressionsDemands live others

end

mutual

/-- The demands of a statement where some locals are live. Room for a local is demanded behind the
initializer, which does not see it. -/
def statementDemands (live : Scope) : Statement → List Demand
  | .binding _ initializer => expressionDemands live initializer ++ [.binding live]
  | .returning none => []
  | .returning (some value) => expressionDemands live value
  | .expression evaluated => expressionDemands live evaluated
  | .block inside => statementsDemands live inside

/-- The demands of several statements. Only a binding leaves a local behind it: those of a block are
gone at its end. -/
def statementsDemands (live : Scope) : List Statement → List Demand
  | [] => []
  | first :: others =>
      statementDemands live first ++ statementsDemands (scopeBehind live first) others

end

/-- The demands of a definition, whose parameters are the first locals. -/
def definitionDemands (definition : Definition) : List Demand :=
  .parameters definition.parameters.length
    :: statementsDemands definition.parameters.reverse definition.body

/-- Every demand can be met, where so many constants were needed before them. -/
def Met (environment : Environment) (taken : Nat) (demands : List Demand) : Prop :=
  ∀ before demand behind, demands = before ++ demand :: behind →
    demand.violation? environment (taken + constants before) = none

/-- The first demand that cannot be met gives the error. -/
def FirstViolation (environment : Environment) (taken : Nat) (demands : List Demand)
    (error : CompileError) : Prop :=
  ∃ before demand behind, demands = before ++ demand :: behind ∧ Met environment taken before
    ∧ demand.violation? environment (taken + constants before) = some error

/-! ## Going through demands -/

variable {environment : Environment}

theorem constants_cons (demand : Demand) (others : List Demand) :
    constants (demand :: others) = constants [demand] + constants others := by
  simp only [constants, ← List.countP_append, List.singleton_append]

theorem met_nil (taken : Nat) : Met environment taken [] := by
  intro before demand behind hsplit
  simp at hsplit

/-- All can be met if the first can, and the others can behind it. -/
theorem met_cons {taken : Nat} {demand : Demand} {others : List Demand} :
    Met environment taken (demand :: others)
      ↔ demand.violation? environment taken = none
        ∧ Met environment (taken + constants [demand]) others := by
  constructor
  · intro hmet
    refine ⟨hmet [] demand others rfl, fun before later behind hsplit => ?_⟩
    have hlater := hmet (demand :: before) later behind (by rw [hsplit, List.cons_append])
    rwa [constants_cons, ← Nat.add_assoc] at hlater
  · rintro ⟨hfirst, hothers⟩ before later behind hsplit
    cases before with
    | nil =>
        cases hsplit
        exact hfirst
    | cons first before =>
        obtain ⟨rfl, hrest⟩ := List.cons.inj hsplit
        rw [constants_cons, ← Nat.add_assoc]
        exact hothers before later behind hrest

/-- The first violation is that of the first demand, or that of the others if the first can be
met. -/
theorem firstViolation_cons {taken : Nat} {demand : Demand} {others : List Demand}
    {error : CompileError} :
    FirstViolation environment taken (demand :: others) error
      ↔ demand.violation? environment taken = some error
        ∨ demand.violation? environment taken = none
          ∧ FirstViolation environment (taken + constants [demand]) others error := by
  constructor
  · rintro ⟨before, later, behind, hsplit, hmet, herror⟩
    cases before with
    | nil =>
        cases hsplit
        exact .inl herror
    | cons first before =>
        obtain ⟨rfl, hrest⟩ := List.cons.inj hsplit
        obtain ⟨hfirst, hbefore⟩ := met_cons.mp hmet
        rw [constants_cons, ← Nat.add_assoc] at herror
        exact .inr ⟨hfirst, before, later, behind, hrest, hbefore, herror⟩
  · rintro (herror | ⟨hfirst, before, later, behind, hsplit, hbefore, herror⟩)
    · exact ⟨[], demand, others, rfl, met_nil taken, herror⟩
    · refine ⟨demand :: before, later, behind, by rw [hsplit, List.cons_append],
        met_cons.mpr ⟨hfirst, hbefore⟩, ?_⟩
      rwa [constants_cons, ← Nat.add_assoc]

variable (environment) in
/-- Go through demands one by one, from the number of constants that were needed before to the
number that are needed behind them. -/
def check (taken : Nat) : List Demand → Except CompileError Nat
  | [] => .ok taken
  | demand :: others =>
      match demand.violation? environment taken with
      | some error => .error error
      | none => check (taken + constants [demand]) others

/-- Demands are gone through one list after the other. -/
theorem check_append (taken : Nat) (first second : List Demand) :
    check environment taken (first ++ second)
      = check environment taken first >>= fun middle => check environment middle second := by
  induction first generalizing taken with
  | nil => rfl
  | cons demand others ih =>
      rw [List.cons_append, check, check]
      cases demand.violation? environment taken with
      | some error => rfl
      | none => exact ih _

/-- Going through demands ends well just if all can be met. -/
theorem check_eq_ok_iff {taken : Nat} {demands : List Demand} :
    (∃ final, check environment taken demands = .ok final) ↔ Met environment taken demands := by
  induction demands generalizing taken with
  | nil => exact iff_of_true ⟨taken, rfl⟩ (met_nil taken)
  | cons demand others ih =>
      rw [check, met_cons]
      cases demand.violation? environment taken with
      | some error => simp
      | none => simpa using ih

/-- Going through demands ends at the first violation. -/
theorem check_eq_error_iff {taken : Nat} {demands : List Demand} {error : CompileError} :
    check environment taken demands = .error error
      ↔ FirstViolation environment taken demands error := by
  induction demands generalizing taken with
  | nil =>
      refine iff_of_false nofun ?_
      rintro ⟨before, demand, behind, hsplit, -⟩
      simp at hsplit
  | cons demand others ih =>
      rw [check, firstViolation_cons]
      cases demand.violation? environment taken with
      | some reason => simp
      | none => simpa using ih

/-! ## Compiling goes through the demands -/

/-- What is computed in two steps is counted in two steps. -/
theorem map_bind {ε α β : Type} {first : Except ε α} {next : α → Except ε β} {size : α → Nat}
    {goal : β → Nat} {counted : Except ε Nat} {further : Nat → Except ε Nat}
    (hfirst : first.map size = counted)
    (hnext : ∀ value, first = .ok value → (next value).map goal = further (size value)) :
    (first >>= next).map goal = counted >>= further := by
  subst hfirst
  cases first with
  | error reason => rfl
  | ok value => exact hnext value rfl

/-- A last step that needs nothing changes no count. -/
theorem map_bind_ok {ε α β : Type} {first : Except ε α} {next : α → Except ε β} {size : α → Nat}
    {goal : β → Nat} {counted : Except ε Nat} (hfirst : first.map size = counted)
    (hnext : ∀ value, (next value).map goal = .ok (size value)) :
    (first >>= next).map goal = counted := by
  subst hfirst
  cases first with
  | error reason => rfl
  | ok value => exact hnext value

/-- A constant takes room if there is any. -/
theorem constantLoad_map (load : UInt8 → Instruction) (value : Value) (pool : Pool) :
    (constantLoad load value pool).map (fun loaded => loaded.2.size)
      = if 256 ≤ pool.size then .error .tooManyConstants else .ok (pool.size + 1) := by
  rw [constantLoad, Pool.add?, Bytecode.capacity]
  by_cases hroom : pool.size < 256
  · rw [if_pos hroom, if_neg (Nat.not_le.mpr hroom)]
    exact congrArg Except.ok (Array.size_push value)
  · rw [if_neg hroom, if_pos (Nat.not_lt.mp hroom)]
    rfl

/-- A name goes through its demand. -/
theorem nameLoad_check (scope : Scope) (spelling : String) (pool : Pool) :
    (nameLoad environment scope spelling pool).map (fun loaded => loaded.2.size)
      = check environment pool.size [.name scope spelling] := by
  have hlive := Scope.isSome_slot? scope spelling
  rw [nameLoad, check, Demand.violation?, constants, List.countP_singleton, Demand.takesConstant]
  cases hslot : scope.slot? spelling with
  | some slot =>
      rw [hslot] at hlive
      have hmem : spelling ∈ scope := hlive.mp rfl
      simp [hmem, check, Except.map]
  | none =>
      rw [hslot] at hlive
      have hmem : spelling ∉ scope := fun hmem => Bool.false_ne_true (hlive.mpr hmem)
      rw [if_neg hmem, Environment.reference?]
      cases hresolve : environment.globals.resolve? (environment.symbol spelling) with
      | none => simp [Except.map]
      | some slot =>
          refine (constantLoad_map _ _ _).trans ?_
          by_cases hfull : 256 ≤ pool.size <;> simp [hfull, hmem, check]

/-- Of the operators only the dot has no instruction. -/
theorem arithmetic?_eq_none_iff (sign : Operator) : arithmetic? sign = none ↔ sign = .dot := by
  cases sign <;> simp [arithmetic?]

/-- A demand that needs no constant and can be met leaves everything to those behind it. -/
theorem check_cons_of_met {taken : Nat} {demand : Demand} (others : List Demand)
    (hnone : demand.violation? environment taken = none) (hfree : demand.takesConstant = false) :
    check environment taken (demand :: others) = check environment taken others := by
  have hconstants : constants [demand] = 0 := by simp [constants, hfree]
  rw [check, hnone, hconstants, Nat.add_zero]

/-- A demand that cannot be met ends it. -/
theorem check_cons_of_violated {taken : Nat} {demand : Demand} (others : List Demand)
    {error : CompileError} (hsome : demand.violation? environment taken = some error) :
    check environment taken (demand :: others) = .error error := by
  rw [check, hsome]

mutual

/-- Compiling an expression goes through its demands. -/
theorem expression_check (scope : Scope) (pool : Pool) : (evaluated : Expression) →
    (expression environment scope pool evaluated).map (fun compiled => compiled.2.size)
      = check environment pool.size (expressionDemands scope evaluated)
  | .number value => by
      rw [expression, expressionDemands, check, Demand.violation?]
      refine (constantLoad_map _ _ _).trans ?_
      by_cases hfull : 256 ≤ pool.size <;>
        simp [hfull, check, constants, Demand.takesConstant]
  | .text contents => by
      rw [expression, expressionDemands]
      rfl
  | .name spelling => by
      rw [expression, expressionDemands]
      exact nameLoad_check scope spelling pool
  | .binary left sign right => by
      rw [expression, expressionDemands]
      cases hsign : arithmetic? sign with
      | none =>
          obtain rfl := (arithmetic?_eq_none_iff sign).mp hsign
          rw [check_cons_of_violated _ rfl]
          rfl
      | some instruction =>
          -- The instruction itself comes behind both operands and needs no constant.
          have hdot : sign ≠ .dot := fun hdot => by
            rw [(arithmetic?_eq_none_iff sign).mpr hdot] at hsign
            cases hsign
          have hmet : (Demand.operation sign).violation? environment pool.size = none :=
            if_neg hdot
          rw [check_cons_of_met _ hmet rfl, check_append]
          refine map_bind (expression_check scope pool left) fun ⟨first, withLeft⟩ _ => ?_
          exact map_bind_ok (expression_check scope withLeft right) fun _ => rfl
  | .call callee arguments => by
      rw [expression, expressionDemands]
      by_cases hcount : arguments.length ≤ maxArguments
      · have hmet : (Demand.call arguments.length).violation? environment pool.size = none :=
          if_neg (Nat.not_lt.mpr hcount)
        rw [if_pos hcount, check_cons_of_met _ hmet rfl, check_append]
        refine map_bind (expressions_check scope pool arguments) fun ⟨operands, middle⟩ _ => ?_
        exact map_bind_ok (expression_check scope middle callee) fun _ => rfl
      · have hviolated : (Demand.call arguments.length).violation? environment pool.size
            = some .tooManyArguments := if_pos (Nat.not_le.mp hcount)
        rw [if_neg hcount, check_cons_of_violated _ hviolated]
        rfl

/-- Compiling expressions goes through their demands. -/
theorem expressions_check (scope : Scope) (pool : Pool) : (evaluated : List Expression) →
    (expressions environment scope pool evaluated).map (fun compiled => compiled.2.size)
      = check environment pool.size (expressionsDemands scope evaluated)
  | [] => by
      rw [expressions, expressionsDemands]
      rfl
  | first :: others => by
      rw [expressions, expressionsDemands, check_append]
      refine map_bind (expression_check scope pool first) fun ⟨head, withFirst⟩ _ => ?_
      exact map_bind_ok (expressions_check scope withFirst others) fun _ => rfl

end

mutual

/-- Compiling a statement goes through its demands. -/
theorem statement_check (scope : Scope) (pool : Pool) : (executed : Statement) →
    (statement environment scope pool executed).map (fun emission => emission.pool.size)
      = check environment pool.size (statementDemands scope executed)
  | .binding name initializer => by
      rw [statement, statementDemands, check_append]
      refine map_bind (expression_check scope pool initializer) fun ⟨code, extended⟩ _ => ?_
      dsimp only
      by_cases hroom : scope.length < Bytecode.capacity
      · have hmet : (Demand.binding scope).violation? environment extended.size = none :=
          if_neg (Nat.not_le.mpr hroom)
        rw [Scope.bind?, if_pos hroom, check_cons_of_met _ hmet rfl]
        rfl
      · have hviolated : (Demand.binding scope).violation? environment extended.size
            = some .tooManyLocals := if_pos (Nat.not_lt.mp hroom)
        rw [Scope.bind?, if_neg hroom, check_cons_of_violated _ hviolated]
        rfl
  | .returning none => by
      rw [statement, statementDemands]
      rfl
  | .returning (some value) => by
      rw [statement, statementDemands]
      exact map_bind_ok (expression_check scope pool value) fun _ => rfl
  | .expression evaluated => by
      rw [statement, statementDemands]
      exact map_bind_ok (expression_check scope pool evaluated) fun _ => rfl
  | .block inside => by
      rw [statement, statementDemands]
      exact map_bind_ok (statements_check scope pool inside) fun _ => rfl

/-- Compiling statements goes through their demands. -/
theorem statements_check (scope : Scope) (pool : Pool) : (executed : List Statement) →
    (statements environment scope pool executed).map (fun emission => emission.pool.size)
      = check environment pool.size (statementsDemands scope executed)
  | [] => by
      rw [statements, statementsDemands]
      rfl
  | first :: others => by
      rw [statements, statementsDemands, check_append]
      refine map_bind (statement_check scope pool first) fun head hhead => ?_
      -- What is local behind a statement can be told without its code.
      rw [← (statementCode first hhead).inner_eq]
      exact map_bind_ok (statements_check head.scope head.pool others) fun _ => rfl

end

/-- Compiling a definition goes through its demands. -/
theorem function_check (definition : Definition) :
    (function environment definition).map (fun unit => unit.constants.size)
      = check environment 0 (definitionDemands definition) := by
  rw [function, definitionDemands]
  by_cases hcount : definition.parameters.length ≤ maxArguments
  · have hmet : (Demand.parameters definition.parameters.length).violation? environment 0 = none :=
      if_neg (Nat.not_lt.mpr hcount)
    rw [if_pos hcount, check_cons_of_met _ hmet rfl]
    exact map_bind_ok (statements_check _ #[] definition.body) fun _ => rfl
  · have hviolated : (Demand.parameters definition.parameters.length).violation? environment 0
        = some .tooManyLocals := if_pos (Nat.not_le.mp hcount)
    rw [if_neg hcount, check_cons_of_violated _ hviolated]
    rfl

/-- There is code for a definition just if all its demands can be met. Otherwise there is none for
the reason that the first violation gives: too many parameters, or the first in the body. -/
theorem function_exact (environment : Environment) (definition : Definition) :
    ((∃ unit, function environment definition = .ok unit)
        ↔ Met environment 0 (definitionDemands definition))
      ∧ ∀ error, function environment definition = .error error
        ↔ FirstViolation environment 0 (definitionDemands definition) error := by
  simp only [← check_eq_ok_iff, ← check_eq_error_iff, ← function_check]
  cases function environment definition with
  | error reason => simp [Except.map]
  | ok unit => simp [Except.map]

end StackLang.Compile
