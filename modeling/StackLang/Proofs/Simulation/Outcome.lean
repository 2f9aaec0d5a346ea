import StackLang.Proofs.Compile.Code
import StackLang.Proofs.Evaluation.Interpreter
import StackLang.Proofs.Machine.Running

/-! # Runs and what the interpreter says

What the interpreter says of a part of a program is held against how a run ends that starts with the
code of this part. If the interpreter has a result, the run has come somewhere with it; if it fails,
the run ends with the same error.

* `Simulated` — the ending of a run agrees with a result of the interpreter.
* `Simulated.bind` — agreement goes on behind a result.
* `Globals.Knows` — values that mean something in the table: numbers, and references to functions.
* `Implements` — the table has the code of a program. -/

namespace StackLang

open Bytecode (CodeUnit)
open Interpreter (Result)
open Machine (Ending)

namespace Simulation

/-- The ending of a run agrees with a result: the goal is reached with the value, or the run has
ended with the error. What has no meaning has no code, so there is no run of it. -/
def Simulated {α : Type} (ending : Ending) (goal : α → Prop) : Result α → Prop
  | .ok value => goal value
  | .error (.runtime error) => ending.result = .error error
  | .error .meaningless => False

/-- Agreement goes on behind a result. -/
theorem Simulated.bind {α β : Type} {ending : Ending} {reached : α → Prop} {goal : β → Prop}
    {first : Result α} {next : α → Result β} (h : Simulated ending reached first)
    (hnext : ∀ value, reached value → Simulated ending goal (next value)) :
    Simulated ending goal (first >>= next) := by
  match first with
  | .ok value => exact hnext value h
  | .error (.runtime error) => exact h
  | .error .meaningless => exact h

/-- A goal may be replaced by what follows from it. -/
theorem Simulated.mono {α : Type} {ending : Ending} {reached goal : α → Prop} {outcome : Result α}
    (h : Simulated ending reached outcome) (hgoal : ∀ value, reached value → goal value) :
    Simulated ending goal outcome := by
  match outcome with
  | .ok value => exact hgoal value h
  | .error (.runtime error) => exact h
  | .error .meaningless => exact h

end Simulation

/-- The values that a table gives a meaning to: numbers, and references to its functions. -/
def Globals.Knows (globals : Globals) : Value → Prop
  | .number _ => True
  | .function reference => globals.slot? reference.name = some reference.slot

namespace Simulation

/-- In an environment, names mean what the program and the table say. -/
def Faithful (program : Program) (globals : Globals) (environment : Compile.Environment) : Prop :=
  ∀ name reference, environment.reference? name = some reference →
    program.reference name = reference ∧ globals.Knows (.function reference)

/-- A table implements a program: behind the references to its functions stands the code of their
definitions. -/
structure Implements (program : Program) (globals : Globals) : Prop where
  /-- A name without a definition has no unit. -/
  unit?_of_none : ∀ name slot, globals.slot? name = some slot → program.definition? name = none →
    globals.unit? slot = none
  /-- A name with a definition has its unit, for which names meant what they mean. -/
  unit?_of_some : ∀ name slot definition, globals.slot? name = some slot →
    program.definition? name = some definition →
      ∃ environment unit, globals.unit? slot = some unit ∧ Faithful program globals environment
        ∧ Compile.function environment definition = .ok unit

end Simulation

end StackLang
