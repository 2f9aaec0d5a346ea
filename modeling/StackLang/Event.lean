import StackLang.Bytecode.Listing

/-! # Events

What happens while programs are built and run may be reported.

* `Event` — what may happen.
* `Event.level`, `Event.message`, `Event.fields` — what a report says about it.
* `Event.line` — a report as a line of text. -/

namespace StackLang

open Bytecode (CodeUnit)

/-- How much detail a report gives. -/
inductive Level where
  /-- What a user may want to know. -/
  | info
  /-- The steps of a build, and the runs. -/
  | debug
  /-- Every instruction. -/
  | trace
  deriving DecidableEq, Repr

namespace Level

/-- The name of a level in reports. -/
def name : Level → String
  | .info => "INFO"
  | .debug => "DEBUG"
  | .trace => "TRACE"

/-- The levels by their detail, the least detailed first. -/
def rank : Level → Nat
  | .info => 1
  | .debug => 2
  | .trace => 3

end Level

/-- What may happen. -/
inductive Event where
  /-- The unit of a definition is ready. -/
  | compiled (unit : CodeUnit)
  /-- The listing of that unit. -/
  | listed (unit : CodeUnit)
  /-- A name is withdrawn that was declared and got no unit. -/
  | withdrawn (name : String)
  /-- A unit starts to run with a number of arguments. -/
  | started (name : String) (count : Nat)
  /-- An instruction is about to be carried out: the stack, and the line of the instruction. -/
  | executing (stack line : String)
  /-- A function that was run from outside left no value. -/
  | voidResult (name : String)

namespace Event

/-- The level of detail of an event. -/
def level : Event → Level
  | .voidResult _ => .info
  | .executing _ _ => .trace
  | _ => .debug

/-- The part of the program that an event belongs to. -/
def target : Event → String
  | .compiled _ => "defunct::compiler"
  | .listed _ => "defunct::compiler"
  | .withdrawn _ => "defunct::compiler"
  | .started _ _ => "defunct::vm"
  | .executing _ _ => "defunct::vm"
  | .voidResult _ => "defunct"

/-- An event in words. -/
def message : Event → String
  | .compiled _ => "compiled definition"
  | .listed unit => "\n" ++ unit.listing
  | .withdrawn _ => "retracted undefined global"
  | .started _ _ => "starting run"
  | .executing stack line => stack ++ "\n" ++ line
  | .voidResult _ => "returned no value"

/-- The particulars of an event. -/
def fields : Event → List (String × String)
  | .compiled unit =>
      [("name", unit.displayName), ("bytes", toString unit.code.size),
        ("constants", toString unit.constants.size)]
  | .listed _ => []
  | .withdrawn name => [("name", name)]
  | .started name count => [("name", name), ("args", toString count)]
  | .executing _ _ => []
  | .voidResult name => [("function", name)]

/-- A report as a line of text, without a newline. -/
def line (event : Event) : String :=
  let fields := event.fields.map fun field => " " ++ field.1 ++ "=" ++ field.2
  Text.rightAligned 5 event.level.name ++ " " ++ event.target ++ ": " ++ event.message
    ++ String.join fields

end Event

end StackLang
