import StackLang.Globals

/-! # The state of the machine

The machine runs units of code over one stack of values. Each active call has a frame: the unit, the
offset of its next instruction, and the height of the stack below its arguments.

* `RuntimeError` — why a run fails.
* `Frame` — an active call.
* `Machine` — the frames and the stack.
* `Transition` — what a step of the machine leads to. -/

namespace StackLang

open Bytecode (CodeUnit DecodeError)

namespace Machine

/-- How many values the stack may hold. -/
def maxValues : Nat := 65535

/-- How many calls may be active, the outermost one counted in. -/
def maxFrames : Nat := 1024

end Machine

/-- Why a run fails. -/
inductive RuntimeError where
  /-- The next bytes are no instruction. -/
  | decode (error : DecodeError)
  /-- An operand is not a number. -/
  | invalidArithmetic (left right : Value)
  /-- A number was called. -/
  | notCallable (callee : Value)
  /-- A function was called with too many or too few arguments. -/
  | arityMismatch (name : String) (arity : UInt8) (found : Nat)
  /-- The function has no unit. -/
  | undefinedFunction (name : String)
  /-- A function that was called from another one left no value. -/
  | voidResult (name : String)
  /-- The stack has fewer values than the instruction needs. -/
  | stackUnderflow
  /-- The stack is full. -/
  | stackOverflow
  /-- As many calls are active as may be. -/
  | frameOverflow
  /-- The pool has no constant at the index. -/
  | invalidConstant (index : UInt8)
  /-- The stack ends below the local. -/
  | invalidLocal (slot : UInt8)
  deriving DecidableEq, Repr

/-- The message of a runtime error. -/
def RuntimeError.message : RuntimeError → String
  | .decode _ => "Failed to read instruction"
  | .invalidArithmetic left right => s!"Invalid arithmetic values: {left.toText} {right.toText}"
  | .notCallable callee => s!"Value {callee.toText} is not callable"
  | .arityMismatch name arity found =>
      s!"Function {name} expects {arity.toNat} arguments but was given {found}"
  | .undefinedFunction name => s!"Function {name} was declared but never defined"
  | .voidResult name => s!"Function {name} returned no value to its caller"
  | .stackUnderflow => "Stack underflow"
  | .stackOverflow => s!"Stack overflow (limit {Machine.maxValues} values)"
  | .frameOverflow => s!"Call depth exceeded (limit {Machine.maxFrames} frames)"
  | .invalidConstant index => s!"Constant index {index.toNat} is outside the constant pool"
  | .invalidLocal slot => s!"Local slot {slot.toNat} is outside the current frame"

/-- An active call. -/
structure Frame where
  /-- The unit that runs. -/
  unit : CodeUnit
  /-- The offset of its next instruction. -/
  offset : Nat
  /-- The height of the stack below the arguments, on which the locals are counted. -/
  base : Nat
  deriving DecidableEq, Repr

/-- The values that programs work on, the topmost one last. -/
abbrev Stack := Array Value

/-- The state of a run. -/
structure Machine where
  /-- The active calls, the latest first. -/
  frames : List Frame
  /-- The stack of values. -/
  stack : Stack
  deriving DecidableEq, Repr

/-- What a step leads to. -/
inductive Transition where
  /-- The run goes on. -/
  | running (machine : Machine)
  /-- The run is over, with a value or without one. -/
  | finished (result : Option Value) (stack : Stack)
  /-- The run has failed. -/
  | failed (error : RuntimeError) (stack : Stack)

end StackLang
