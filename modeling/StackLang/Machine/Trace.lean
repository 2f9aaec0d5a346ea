import StackLang.Event
import StackLang.Machine.Run

/-! # Traces of runs

A trace shows, before each instruction of a run, the stack and the line of the instruction.

* `Machine.view?` — what is shown in one state.
* `Machine.events` — what is shown from a state on.
* `Machine.startEvent` — what is reported before a run.
* `Machine.runEvents`, `Machine.callEvents` — what is shown in a whole run. -/

namespace StackLang

open Bytecode (CodeUnit)

/-- A stack as text, the lowest value first. -/
def Stack.text (stack : Stack) : String :=
  stack.foldl (fun text value => text ++ "[ " ++ value.toText ++ " ]") "          "

namespace Machine

/-- The event of a state in which an instruction is to be read, even if there is none at the offset.
When a unit has run out, there is no event. -/
def view? (machine : Machine) : Option Event :=
  match machine.frames with
  | [] => none
  | frame :: _ =>
      if frame.offset < frame.unit.code.size then
        some (.executing (Stack.text machine.stack) (frame.unit.lineAt frame.offset))
      else none

/-- The events from a state to the end of the run, behind those that came before. -/
def events (globals : Globals) (limit : Nat)
    (small : ∀ slot unit, globals.unit? slot = some unit → unit.code.size ≤ limit)
    (machine : Machine) (before : Array Event) : Array Event :=
  let seen := match machine.view? with
    | some event => before.push event
    | none => before
  match _taken : machine.step globals with
  | .running after => events globals limit small after seen
  | .finished _ _ => seen
  | .failed _ _ => seen
termination_by potential limit machine.frames
decreasing_by exact (moves_of_step _taken).potential_lt small

/-- The event with which the run of a unit starts. -/
def startEvent (unit : CodeUnit) (arguments : List Value) : Event :=
  .started unit.displayName arguments.length

/-- The events of the run of a unit. -/
def runEvents (globals : Globals) (unit : CodeUnit) (arguments : List Value) : List Event :=
  let start := startEvent unit arguments
  if unit.arity.toNat = arguments.length then
    (events globals (globals.codeLimit unit)
      (fun _ _ known => Globals.size_le_codeLimit_of_unit? known unit) (initial unit arguments)
      #[start]).toList
  else [start]

/-- The events of the run of a function, if there is one with the name. -/
def callEvents (globals : Globals) (name : String) (arguments : List Value) : List Event :=
  match (globals.find? name).bind globals.unit? with
  | some unit => runEvents globals unit arguments
  | none => []

end Machine

end StackLang
