import StackLang.Machine.Run
import StackLang.Proofs.Bytecode.Decoding

/-! # Running code that is made of instructions

A run is followed from a place in the code of a unit: the place is told by the instructions before
it, and the code that stands there.

* `CodeUnit.Holds` — some code stands behind some instructions of a unit.
* `Machine.standing` — the state in which the latest call stands behind some instructions.
* `Machine.step_standing` — the step from such a state does what the next instruction says.
* `Machine.Runs` — a function that tells how runs end, step by step. -/

namespace StackLang

open Bytecode (CodeUnit Instruction offsetBehind)

namespace Bytecode

/-- In a unit the code stands behind the instructions before it. -/
def CodeUnit.Holds (unit : CodeUnit) (before code : List Instruction) : Prop :=
  ∃ behind, unit.code = (Instruction.encodeAll (before ++ (code ++ behind))).toArray

theorem CodeUnit.holds_ofInstructions (name : Option Symbol) (arity : UInt8)
    (instructions : List Instruction) (constants : Pool) :
    (ofInstructions name arity instructions constants).Holds [] instructions :=
  ⟨[], by rw [List.append_nil]; rfl⟩

/-- The first part of code that stands somewhere. -/
theorem CodeUnit.Holds.left {unit : CodeUnit} {before first second : List Instruction}
    (h : unit.Holds before (first ++ second)) : unit.Holds before first := by
  obtain ⟨behind, hcode⟩ := h
  exact ⟨second ++ behind, by rw [hcode, List.append_assoc]⟩

/-- The second part stands behind the first. -/
theorem CodeUnit.Holds.right {unit : CodeUnit} {before first second : List Instruction}
    (h : unit.Holds before (first ++ second)) : unit.Holds (before ++ first) second := by
  obtain ⟨behind, hcode⟩ := h
  exact ⟨behind, by rw [hcode, List.append_assoc, List.append_assoc]⟩

/-- An instruction that stands somewhere is decoded there. -/
theorem CodeUnit.Holds.decodeAt {unit : CodeUnit} {before code : List Instruction}
    {instruction : Instruction} (h : unit.Holds before (instruction :: code)) :
    decodeAt unit.code (offsetBehind before)
      = .ok (instruction, offsetBehind (before ++ [instruction])) := by
  obtain ⟨behind, hcode⟩ := h
  rw [hcode, List.cons_append, decodeAt_offsetBehind]

end Bytecode

namespace Machine

/-- The state in which the latest call stands behind some instructions of its unit. -/
def standing (unit : CodeUnit) (before : List Instruction) (base : Nat) (callers : List Frame)
    (stack : Stack) : Machine :=
  ⟨⟨unit, offsetBehind before, base⟩ :: callers, stack⟩

/-- The next step does what the next instruction says. -/
theorem step_standing {globals : Globals} {unit : CodeUnit} {before code : List Instruction}
    {instruction : Instruction} (h : unit.Holds before (instruction :: code)) (base : Nat)
    (callers : List Frame) (stack : Stack) :
    (standing unit before base callers stack).step globals
      = perform globals ⟨unit, offsetBehind (before ++ [instruction]), base⟩ callers stack
          instruction := by
  have hdecode := h.decodeAt
  have hbounds := Bytecode.bounds_of_decodeAt hdecode
  have hinside : offsetBehind before < unit.code.size := Nat.lt_of_lt_of_le hbounds.1 hbounds.2
  unfold standing step
  dsimp only
  rw [if_pos hinside, hdecode]

/-- How a run ends that makes a transition first and then goes on as told. -/
def Ending.ofTransition (run : Machine → Ending) : Transition → Ending
  | .running after => run after
  | .finished result stack => ⟨.ok result, stack⟩
  | .failed error stack => ⟨.error error, stack⟩

/-- A function that tells how runs end: it goes on step by step. -/
def Runs (globals : Globals) (run : Machine → Ending) : Prop :=
  ∀ machine, run machine = .ofTransition run (machine.step globals)

/-- Executing goes on step by step. -/
theorem runs_execute (globals : Globals) (limit : Nat)
    (small : ∀ slot unit, globals.unit? slot = some unit → unit.code.size ≤ limit) :
    Runs globals (execute globals limit small) := by
  intro machine
  rw [execute_eq]
  cases machine.step globals <;> rfl

variable {globals : Globals} {run : Machine → Ending}

/-- How a run ends that has come to an instruction. -/
theorem Runs.standing_eq (h : Runs globals run) {unit : CodeUnit} {before code : List Instruction}
    {instruction : Instruction} (hholds : unit.Holds before (instruction :: code)) (base : Nat)
    (callers : List Frame) (stack : Stack) :
    run (standing unit before base callers stack)
      = .ofTransition run (perform globals ⟨unit, offsetBehind (before ++ [instruction]), base⟩
          callers stack instruction) := by
  rw [h, step_standing hholds]

/-- How a run ends that has come to the end of the outermost unit. -/
theorem Runs.standing_end (h : Runs globals run) {unit : CodeUnit} {code : List Instruction}
    (hcode : unit.code = (Instruction.encodeAll code).toArray) (base : Nat) (stack : Stack) :
    run (standing unit code base [] stack) = ⟨.ok stack.back?, stack⟩ := by
  have hend : ¬ offsetBehind code < unit.code.size := by
    rw [hcode, List.size_toArray]
    exact Nat.lt_irrefl _
  rw [h, standing, step]
  dsimp only
  rw [if_neg hend]
  rfl

end Machine

end StackLang
