import StackLang.Proofs.Compile.Pool
import StackLang.Proofs.Grammar.Arithmetic
import StackLang.Proofs.Simulation.Expression

/-! # Arithmetic runs as it is written

The tree of a calculation has code as long as each of its literals gets a constant, and the run of
the code comes to the number of the calculation: the operations are those of the row of operands,
taken in the same order.

* `Computes` — trees of numbers and arithmetic, with what they come to.
* `Computes.expression_ok`, `Computes.expression_error` — their code, or why there is none.
* `Computes.run_eq` — the run of their code.
* `calculation_exact` — from the text of a calculation to its number. -/

namespace StackLang.Arithmetic

open Bytecode (CodeUnit Instruction Pool)
open Compile (Environment ExpressionCode Scope)
open Machine (Ending Runs standing)

/-! ## Trees of numbers -/

/-- A tree of numbers and arithmetic comes to a number. -/
inductive Computes : Expression → Float → Prop
  /-- A number comes to itself. -/
  | number (value : Float) : Computes (.number value) value
  /-- A sign does its operation to what both sides come to. -/
  | join {left right : Expression} {first second : Float} (sign : Sign)
      (hleft : Computes left first) (hright : Computes right second) :
      Computes (.binary left sign.operator right) (sign.operation first second)

/-- How many numbers a tree of numbers and arithmetic has. -/
def leaves : Expression → Nat
  | .number _ => 1
  | .binary left _ right => leaves left + leaves right
  | _ => 0

theorem tiers_computes : Tiers trees numbers Computes Computes Computes where
  leaf literal := .number literal.value
  group h := h
  term_of_operand h := h
  sum_of_term h := h
  join_term _ hleft hright := .join _ hleft hright
  join_sum _ hleft hright := .join _ hleft hright

/-- The tree of a calculation comes to its number. -/
theorem Calculation.computes (calculation : Calculation) :
    Computes calculation.tree calculation.value :=
  calculation.fold_rel tiers_computes

theorem tiers_leaves : Tiers trees literals (leaves · = ·) (leaves · = ·) (leaves · = ·) where
  leaf _ := rfl
  group h := h
  term_of_operand h := h
  sum_of_term h := h
  join_term _ hleft hright := congrArg₂ (· + ·) hleft hright
  join_sum _ hleft hright := congrArg₂ (· + ·) hleft hright

/-- The tree of a calculation has as many numbers as the calculation has literals. -/
theorem Calculation.leaves_tree (calculation : Calculation) :
    leaves calculation.tree = calculation.count :=
  calculation.fold_rel tiers_leaves

/-! ## Their code -/

variable {environment : Environment} {scope : Scope} {parsed : Expression} {value : Float}

theorem Computes.leaves_pos (h : Computes parsed value) : 0 < leaves parsed := by
  induction h with
  | number value => exact Nat.one_pos
  | join sign _ _ ihleft ihright => exact Nat.add_pos_left ihleft _

/-- The instruction for a sign. -/
theorem exists_arithmetic? (sign : Sign) :
    ∃ instruction, Compile.arithmetic? sign.operator = some instruction := by
  cases sign <;> exact ⟨_, rfl⟩

/-- There is code if each number gets a constant. -/
theorem Computes.expression_ok (h : Computes parsed value) (environment : Environment)
    (scope : Scope) {pool : Pool}
    (hroom : pool.size + leaves parsed ≤ Bytecode.capacity) :
    ∃ code extended, Compile.expression environment scope pool parsed = .ok (code, extended)
      ∧ extended.size = pool.size + leaves parsed := by
  induction h generalizing pool with
  | number value =>
      have hlt : pool.size < Bytecode.capacity := hroom
      rw [Compile.expression, Compile.constantLoad, Pool.add?, if_pos hlt]
      exact ⟨_, _, rfl, Array.size_push _⟩
  | @join left right _ _ sign _ _ ihleft ihright =>
      rw [leaves, ← Nat.add_assoc] at hroom
      obtain ⟨first, middle, hfirst, hmiddle⟩ := ihleft (Nat.le_of_add_right_le hroom)
      rw [← hmiddle] at hroom
      obtain ⟨second, extended, hsecond, hextended⟩ := ihright hroom
      obtain ⟨instruction, hinstruction⟩ := exists_arithmetic? sign
      rw [Compile.expression, hinstruction, leaves, ← Nat.add_assoc, ← hmiddle]
      simp only [hfirst, hsecond, bind, Except.bind]
      exact ⟨_, _, rfl, hextended⟩

/-- There is no code if some number gets no constant. -/
theorem Computes.expression_error (h : Computes parsed value) (environment : Environment)
    (scope : Scope) {pool : Pool}
    (hpool : pool.size ≤ Bytecode.capacity)
    (hfull : Bytecode.capacity < pool.size + leaves parsed) :
    Compile.expression environment scope pool parsed = .error .tooManyConstants := by
  induction h generalizing pool with
  | number value =>
      have hnot : ¬ pool.size < Bytecode.capacity := Nat.not_lt_of_le (Nat.le_of_lt_succ hfull)
      rw [Compile.expression, Compile.constantLoad, Pool.add?, if_neg hnot]
  | @join left right _ _ sign hleft _ ihleft ihright =>
      obtain ⟨instruction, hinstruction⟩ := exists_arithmetic? sign
      rw [Compile.expression, hinstruction]
      -- Either the left side is too large already, or the right side behind it.
      by_cases hroom : pool.size + leaves left ≤ Bytecode.capacity
      · obtain ⟨first, middle, hfirst, hmiddle⟩ := hleft.expression_ok environment scope hroom
        rw [leaves, ← Nat.add_assoc, ← hmiddle] at hfull
        rw [← hmiddle] at hroom
        simp only [hfirst, ihright hroom hfull, bind, Except.bind]
      · simp only [ihleft hpool (Nat.lt_of_not_le hroom), bind, Except.bind]

/-! ## Their runs -/

variable {globals : Globals} {run : Machine → Ending} {unit : CodeUnit}

/-- The code of a sign does its operation to the two values on top of the stack. -/
theorem perform_sign {sign : Sign} {instruction : Instruction}
    (h : Compile.arithmetic? sign.operator = some instruction) (frame : Frame)
    (callers : List Frame) (stack : Stack) (first second : Float) :
    Machine.perform globals frame callers ((stack.push (.number first)).push (.number second))
        instruction
      = Machine.push (frame :: callers) stack (.number (sign.operation first second)) := by
  obtain ⟨operation, hoperation, hperform⟩ := Simulation.perform_arithmetic h
  have hsame : operation = sign.operation := by
    cases sign <;> exact (Option.some.inj hoperation).symm
  rw [hperform, Simulation.operate_push_push, hsame]

/-- The run of the code puts the number on the stack, if there is room for the numbers. -/
theorem Computes.run_eq (h : Computes parsed value) (hruns : Runs globals run)
    {pool extended : Pool} {code before : List Instruction} {stack : Stack}
    (hcode : ExpressionCode environment scope pool parsed code extended)
    (hholds : unit.Holds before code) (hpool : Pool.Extends unit.constants extended)
    (hroom : stack.size + leaves parsed ≤ Machine.maxValues) (base : Nat)
    (callers : List Frame) :
    run (standing unit before base callers stack)
      = run (standing unit (before ++ code) base callers (stack.push (.number value))) := by
  induction h generalizing pool extended code before stack with
  | number value =>
      cases hcode with
      | number _ hcapacity =>
          have hlt : stack.size < Machine.maxValues := hroom
          rw [hruns.standing_eq hholds]
          simp only [Machine.perform, Pool.constant?_of_extends hpool hcapacity]
          rw [Machine.push, if_pos hlt]
          rfl
  | @join left right first second sign hleft _ ihleft ihright =>
      cases hcode with
      | @binary _ middle _ _ _ _ leftCode rightCode instruction hsign hleftCode hrightCode =>
          have hlast := hholds.right
          have hpos := hleft.leaves_pos
          rw [leaves] at hroom
          have hlt : stack.size < Machine.maxValues := by omega
          have hplace : before ++ (leftCode ++ rightCode ++ [instruction])
              = before ++ leftCode ++ rightCode ++ [instruction] := by
            simp only [List.append_assoc]
          rw [← List.append_assoc] at hlast
          -- The left number lies on the stack while the right one is found.
          rw [ihleft hleftCode hholds.left.left (hpool.trans hrightCode.adds.extends)
              (by omega),
            ihright hrightCode hholds.left.right hpool (by rw [Array.size_push]; omega),
            hruns.standing_eq hlast, perform_sign hsign, Machine.push, if_pos hlt, hplace]
          rfl

/-- The run of a unit that consists of the code comes to the number. -/
theorem Computes.run_lone (h : Computes parsed value) {globals : Globals} {table : Nat}
    (hcode : Compile.loneExpression ⟨globals, table⟩ parsed = .ok unit)
    (hcount : leaves parsed ≤ Bytecode.capacity) :
    (Machine.run globals unit []).result = .ok (some (.number value)) := by
  obtain ⟨⟨code, extended⟩, hexpression, hunit⟩ := Compile.bind_eq_ok hcode
  cases hunit
  have hroom : (#[] : Stack).size + leaves parsed ≤ Machine.maxValues := by
    have hle : Bytecode.capacity ≤ Machine.maxValues := by decide
    rw [Array.size_empty]
    omega
  have hrun := fun limit small => h.run_eq (Machine.runs_execute globals limit small)
    (Compile.expressionCode parsed hexpression) (CodeUnit.holds_ofInstructions none 0 code extended)
    (.refl _) hroom 0 []
  have harity : (CodeUnit.ofInstructions none 0 code extended).arity.toNat
      = ([] : List Value).length := rfl
  rw [Machine.run, if_pos harity]
  change (Machine.execute globals _ _ (standing _ [] 0 [] #[])).result = _
  rw [hrun, List.nil_append, (Machine.runs_execute globals _ _).standing_end rfl, Array.back?_push]

/-- The text of a calculation, with any white space in it but newlines, is parsed into a tree. If
the calculation has no more literals than a unit can have constants, the tree has code, and its run
comes to the number that the row of operands does: runs of factors folded into terms, and the terms
folded from left to right, with parentheses as operands. If it has more, the constants are too
many. -/
theorem calculation_exact (table : Nat) (globals : Globals) (calculation : Calculation)
    (trailing : Blanks) :
    Parse.expression (itemsOf (calculation.text ++ trailing.val)) = .done calculation.tree []
      ∧ (calculation.count ≤ Bytecode.capacity →
        ∃ unit, Compile.loneExpression ⟨globals, table⟩ calculation.tree = .ok unit
          ∧ (Machine.run globals unit []).result = .ok (some (.number calculation.value)))
      ∧ (Bytecode.capacity < calculation.count →
        Compile.loneExpression ⟨globals, table⟩ calculation.tree = .error .tooManyConstants) := by
  have hcomputes := calculation.computes
  rw [← calculation.leaves_tree]
  refine ⟨calculation.parses trailing, fun hcount => ?_, fun hcount => ?_⟩
  · obtain ⟨code, extended, hcode, -⟩ := hcomputes.expression_ok ⟨globals, table⟩ []
      (show (#[] : Pool).size + _ ≤ _ by rwa [Array.size_empty, Nat.zero_add])
    have hunit : Compile.loneExpression ⟨globals, table⟩ calculation.tree
        = .ok (.ofInstructions none 0 code extended) := by
      rw [Compile.loneExpression, hcode]
      rfl
    exact ⟨_, hunit, hcomputes.run_lone hunit hcount⟩
  · have herror := hcomputes.expression_error ⟨globals, table⟩ []
      (show (#[] : Pool).size ≤ _ from Nat.zero_le _)
      (show _ < (#[] : Pool).size + _ by rwa [Array.size_empty, Nat.zero_add])
    rw [Compile.loneExpression, herror]
    rfl

/-- The literal `7`. -/
def seven : Literal where
  first := '7'
  tail := []
  decimal := ⟨7, 0, 0⟩
  starts := by decide
  continues := by simp
  reads := by decide

/-- No white space. -/
def noBlanks : Blanks :=
  ⟨[], by simp⟩

/-- A row of sevens, joined by one sign: one literal more than the number. -/
def sevens (sign : Sign) : Nat → Calculation
  | 0 => .single (.literal noBlanks seven)
  | further + 1 => .step (.literal noBlanks seven) noBlanks sign (sevens sign further)

/-- `7-7-7` is read from left to right, and with 256 signs there is one literal too many. -/
theorem calculation_exact_sevens :
    (sevens .minus 2).text = ['7', '-', '7', '-', '7']
      ∧ (sevens .minus 2).count ≤ Bytecode.capacity
      ∧ (sevens .minus 2).value = seven.value - seven.value - seven.value
      ∧ (∃ unit, Compile.loneExpression ⟨Globals.empty, 0⟩ (sevens .minus 2).tree = .ok unit
        ∧ (Machine.run Globals.empty unit []).result
          = .ok (some (.number (seven.value - seven.value - seven.value))))
      ∧ Bytecode.capacity < (sevens .minus 256).count
      ∧ Compile.loneExpression ⟨Globals.empty, 0⟩ (sevens .minus 256).tree
        = .error .tooManyConstants := by
  have hfew : (sevens .minus 2).count ≤ Bytecode.capacity := by decide
  have hmany : Bytecode.capacity < (sevens .minus 256).count := by decide +kernel
  obtain ⟨-, hrun, -⟩ := calculation_exact 0 Globals.empty (sevens .minus 2) noBlanks
  obtain ⟨-, -, herror⟩ := calculation_exact 0 Globals.empty (sevens .minus 256) noBlanks
  exact ⟨rfl, hfew, rfl, hrun hfew, hmany, herror hmany⟩

end StackLang.Arithmetic
