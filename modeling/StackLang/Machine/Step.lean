import StackLang.Machine.State

/-! # Steps of the machine

An instruction takes its operands from the top of the stack and leaves its result there. Nothing
keeps a frame from dropping values below its base; units that are compiled from a source never do.

* `Machine.perform` — do what an instruction says.
* `Machine.step` — do what the next instruction says, or end a unit that has run out. -/

namespace StackLang

open Bytecode (CodeUnit Instruction decodeAt)

namespace Machine

/-- Put a value on the stack and go on. -/
def push (frames : List Frame) (stack : Stack) (value : Value) : Transition :=
  if stack.size < maxValues then .running ⟨frames, stack.push value⟩
  else .failed .stackOverflow stack

/-- Replace the two topmost values by the result of an operation on them. -/
def operate (operation : Float → Float → Float) (frames : List Frame) (stack : Stack) :
    Transition :=
  match stack.back? with
  | none => .failed .stackUnderflow stack
  | some right =>
      -- The right operand was computed last, so it lies on top.
      let withoutRight := stack.pop
      match withoutRight.back? with
      | none => .failed .stackUnderflow withoutRight
      | some left =>
          let below := withoutRight.pop
          match left, right with
          | .number first, .number second => push frames below (.number (operation first second))
          | left, right => .failed (.invalidArithmetic left right) below

/-- Call a unit with the given number of arguments, which lie on top of the stack. -/
def enter (unit : CodeUnit) (count : UInt8) (frames : List Frame) (stack : Stack) : Transition :=
  if unit.arity ≠ count then
    .failed (.arityMismatch unit.displayName unit.arity count.toNat) stack
  else if stack.size < count.toNat then .failed .stackUnderflow stack
  else if maxFrames ≤ frames.length then .failed .frameOverflow stack
  else .running ⟨⟨unit, 0, stack.size - count.toNat⟩ :: frames, stack⟩

/-- Call the topmost value. Its unit is looked up now, whatever it was when the reference was
made. -/
def callTop (globals : Globals) (count : UInt8) (frames : List Frame) (stack : Stack) :
    Transition :=
  match stack.back? with
  | none => .failed .stackUnderflow stack
  | some (.number value) => .failed (.notCallable (.number value)) stack.pop
  | some (.function reference) =>
      match globals.unit? reference.slot with
      | none => .failed (.undefinedFunction reference.name.name) stack.pop
      | some unit => enter unit count frames stack.pop

/-- Leave a frame. Its locals are dropped, and its value is put in their place; a caller cannot go
on without a value. -/
def leave (frame : Frame) (callers : List Frame) (result : Option Value) (stack : Stack) :
    Transition :=
  -- The frame may have emptied the stack below its base; nothing is dropped then.
  let below := stack.shrink frame.base
  match result, callers with
  | none, [] => .finished none below
  | none, _ :: _ => .failed (.voidResult frame.unit.displayName) below
  | some value, [] =>
      if below.size < maxValues then .finished (some value) (below.push value)
      else .failed .stackOverflow below
  | some value, caller :: others => push (caller :: others) below value

/-- Do what an instruction says. The frame stands behind the instruction already. -/
def perform (globals : Globals) (frame : Frame) (callers : List Frame) (stack : Stack)
    (instruction : Instruction) : Transition :=
  match instruction with
  | .constant index =>
      match frame.unit.constant? index with
      | some value => push (frame :: callers) stack value
      | none => .failed (.invalidConstant index) stack
  | .loadGlobal index =>
      match frame.unit.constant? index with
      | some value => push (frame :: callers) stack value
      | none => .failed (.invalidConstant index) stack
  | .loadLocal slot =>
      match stack[frame.base + slot.toNat]? with
      | some value => push (frame :: callers) stack value
      | none => .failed (.invalidLocal slot) stack
  | .add => operate (· + ·) (frame :: callers) stack
  | .subtract => operate (· - ·) (frame :: callers) stack
  | .multiply => operate (· * ·) (frame :: callers) stack
  | .divide => operate (· / ·) (frame :: callers) stack
  | .pop =>
      match stack.back? with
      | some _ => .running ⟨frame :: callers, stack.pop⟩
      | none => .failed .stackUnderflow stack
  | .call count => callTop globals count (frame :: callers) stack
  | .halt => .finished stack.back? stack
  | .returnVoid => leave frame callers none stack
  | .returnValue =>
      match stack.back? with
      | some value => leave frame callers (some value) stack.pop
      | none => .failed .stackUnderflow stack

/-- One step. The outermost unit may run out, and then the run ends with the topmost value; any
other unit that runs out leaves its caller without a value. -/
def step (globals : Globals) : Machine → Transition
  | ⟨[], stack⟩ => .finished stack.back? stack
  | ⟨frame :: callers, stack⟩ =>
      if frame.offset < frame.unit.code.size then
        match decodeAt frame.unit.code frame.offset with
        | .ok (instruction, next) =>
            perform globals { frame with offset := next } callers stack instruction
        | .error error => .failed (.decode error) stack
      else
        -- The unit has run out.
        match callers with
        | [] => .finished stack.back? stack
        | caller :: others => leave frame (caller :: others) none stack

end Machine

end StackLang
