import StackLang.Machine.Potential

/-! # Runs

A run starts with one frame and goes on step by step until it ends. It always ends, whatever the
code is, because every step lowers the potential.

* `Machine.Ending` — the result of a run, and the stack that it leaves.
* `Machine.execute` — go on from any state.
* `Machine.run` — run a unit with arguments.
* `Machine.call` — run the function of a name. -/

namespace StackLang

open Bytecode (CodeUnit)

namespace Machine

/-- How a run ends. -/
structure Ending where
  /-- A value, no value, or an error. -/
  result : Except RuntimeError (Option Value)
  /-- The stack that the run leaves. -/
  stack : Stack

/-- Go on to the end. The bounds hold in every state of a run and make it end. -/
def execute (globals : Globals) (limit : Nat)
    (small : ∀ slot unit, globals.unit? slot = some unit → unit.code.size ≤ limit)
    (machine : Machine) : Ending :=
  match _taken : machine.step globals with
  | .running after => execute globals limit small after
  | .finished result stack => ⟨.ok result, stack⟩
  | .failed error stack => ⟨.error error, stack⟩
termination_by potential limit machine.frames
decreasing_by exact (moves_of_step _taken).potential_lt small

/-- The state in which the run of a unit starts. -/
def initial (unit : CodeUnit) (arguments : List Value) : Machine :=
  ⟨[⟨unit, 0, 0⟩], arguments.toArray⟩

/-- Run a unit with arguments, which become its first locals. If their number is not the one that
the unit asks for, nothing is run. -/
def run (globals : Globals) (unit : CodeUnit) (arguments : List Value) : Ending :=
  if unit.arity.toNat = arguments.length then
    execute globals (globals.codeLimit unit)
      (fun _ _ known => Globals.size_le_codeLimit_of_unit? known unit) (initial unit arguments)
  else ⟨.error (.arityMismatch unit.displayName unit.arity arguments.length), #[]⟩

/-- Run the function with a name. If there is none, the stack of the run before is left as it
was. -/
def call (globals : Globals) (name : String) (arguments : List Value) (before : Stack) : Ending :=
  match (globals.find? name).bind globals.unit? with
  | some unit => run globals unit arguments
  | none => ⟨.error (.undefinedFunction name), before⟩

/-- One step after the other. -/
theorem execute_eq (globals : Globals) (limit : Nat)
    (small : ∀ slot unit, globals.unit? slot = some unit → unit.code.size ≤ limit)
    (machine : Machine) :
    execute globals limit small machine
      = match machine.step globals with
        | .running after => execute globals limit small after
        | .finished result stack => ⟨.ok result, stack⟩
        | .failed error stack => ⟨.error error, stack⟩ := by
  rw [execute]
  split <;> simp [*]

end Machine

end StackLang
