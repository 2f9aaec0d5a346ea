import StackLang.Machine.Run
import StackLang.Proofs.Compile.Units

/-! # States of runs of compiled units

In a run of compiled units the stack of each frame is as high as its code says, and those of the
frames below it are as high as their code will say once the calls above them have left a value.
A step keeps this up, and does not touch what lies below the base of the latest call.

* `Frame.At` — a frame stands between instructions of a compiled unit, on a stack that fits.
* `Machine.Settled` — all frames do so.
* `Transition.onto` — a transition with further values below its stack.
* `Machine.Confined` — what is done is the same whatever lies below the base.
* `Machine.confined_step` — the next step is confined, and keeps the machine settled. -/

namespace StackLang

open Bytecode (CodeUnit Consists Instruction Safe heightBehind offsetBehind)
open Compile (Environment Part)

/-- Errors that only malformed code runs into. -/
def RuntimeError.isMalformed : RuntimeError → Bool
  | .decode _ | .stackUnderflow | .invalidConstant _ | .invalidLocal _ => true
  | _ => false

/-- A unit that was compiled for some part of some program. -/
def Bytecode.CodeUnit.IsCompiled (unit : CodeUnit) : Prop :=
  ∃ (environment : Environment) (part : Part), part.unit environment = .ok unit

/-- A frame stands between instructions of a compiled unit, and a stack of the given size is as
high above its base as the instructions before it say. -/
structure Frame.At (frame : Frame) (before behind : List Instruction) (size : Nat) : Prop where
  /-- The unit was compiled. -/
  compiled : frame.unit.IsCompiled
  /-- These are its instructions. -/
  code_eq : frame.unit.code = (Instruction.encodeAll (before ++ behind)).toArray
  /-- The frame stands between them. -/
  offset_eq : frame.offset = offsetBehind before
  /-- The stack fits. -/
  size_eq : size = frame.base + heightBehind frame.unit.arity.toNat before

namespace Frame.At

variable {frame : Frame} {before behind : List Instruction} {instruction : Instruction} {size : Nat}

/-- The unit consists of these instructions. -/
theorem consists (h : frame.At before behind size) :
    ∃ values, Consists frame.unit (before ++ behind) values := by
  obtain ⟨environment, part, hunit⟩ := h.compiled
  obtain ⟨instructions, hconsists⟩ := Part.consists hunit
  have heq := Bytecode.encodeAll_inj
    (congrArg Array.toList (hconsists.code_eq.symm.trans h.code_eq))
  rw [heq] at hconsists
  exact ⟨_, hconsists⟩

/-- The next instruction finds what it needs. -/
theorem next (h : frame.At before (instruction :: behind) (frame.base + size)) :
    instruction.consumes ≤ size ∧ instruction.reach ≤ size := by
  obtain ⟨values, hconsists⟩ := h.consists
  obtain ⟨-, hconsumes, hreach, -⟩ := Bytecode.safe_append.mp hconsists.safe
  have hsize := h.size_eq
  omega

/-- Behind the next instruction the frame stands on a stack that this has changed. -/
theorem advance (h : frame.At before (instruction :: behind) (frame.base + size)) :
    ({ frame with offset := offsetBehind (before ++ [instruction]) } : Frame).At
      (before ++ [instruction]) behind
      (frame.base + (size - instruction.consumes + instruction.produces)) := by
  refine ⟨h.compiled, ?_, rfl, ?_⟩
  · rw [List.append_assoc]
    exact h.code_eq
  · have hsize := Nat.add_left_cancel h.size_eq
    rw [Bytecode.heightBehind_append, ← hsize]
    rfl

/-- The next instruction is decoded at the offset of the frame. -/
theorem decodeAt (h : frame.At before (instruction :: behind) size) :
    Bytecode.decodeAt frame.unit.code frame.offset
      = .ok (instruction, offsetBehind (before ++ [instruction])) := by
  rw [h.code_eq, h.offset_eq, Bytecode.decodeAt_offsetBehind]

/-- A compiled unit starts with its arguments on the stack. -/
theorem start {unit : CodeUnit} (h : unit.IsCompiled) (base : Nat) :
    ∃ instructions, (⟨unit, 0, base⟩ : Frame).At [] instructions (base + unit.arity.toNat) := by
  obtain ⟨environment, part, hunit⟩ := h
  obtain ⟨instructions, hconsists⟩ := Part.consists hunit
  exact ⟨instructions, ⟨environment, part, hunit⟩, hconsists.code_eq, rfl, rfl⟩

end Frame.At

namespace Machine

/-- The frames wait for the value that the calls above them leave at the base. -/
def Waiting : Nat → List Frame → Prop
  | base, [] => base = 0
  | base, caller :: callers =>
      (∃ before behind, caller.At before behind (base + 1)) ∧ Waiting caller.base callers

/-- On a stack of the size the latest call can go on, and all others wait for it. -/
def Settled (size : Nat) : List Frame → Prop
  | [] => False
  | frame :: callers => (∃ before behind, frame.At before behind size) ∧ Waiting frame.base callers

end Machine

/-- A transition with further values below its stack. -/
def Transition.onto (low : Stack) : Transition → Transition
  | .running after => .running ⟨after.frames, low ++ after.stack⟩
  | .finished result stack => .finished result (low ++ stack)
  | .failed error stack => .failed error (low ++ stack)

/-- Above values of the given number, a transition leads to a settled machine if it goes on, and it
does not fail as malformed code does. -/
def Transition.Keeps (below : Nat) : Transition → Prop
  | .running after => Machine.Settled (below + after.stack.size) after.frames
  | .finished _ _ => True
  | .failed error _ => error.isMalformed = false

/-- The values below the stack may as well be counted to it. -/
theorem Transition.Keeps.onto {transition : Transition} {low : Stack}
    (h : transition.Keeps low.size) : (transition.onto low).Keeps 0 := by
  cases transition with
  | running after =>
      have hsize : 0 + (low ++ after.stack).size = low.size + after.stack.size := by
        rw [Nat.zero_add, Array.size_append]
      show Machine.Settled (0 + (low ++ after.stack).size) after.frames
      rw [hsize]
      exact h
  | finished result stack => exact h
  | failed error stack => exact h

/-- A run that goes on is in a settled machine. -/
theorem Transition.Keeps.settled {after : Machine} (h : (Transition.running after).Keeps 0) :
    Machine.Settled after.stack.size after.frames := by
  have hsettled : Machine.Settled (0 + after.stack.size) after.frames := h
  rwa [Nat.zero_add] at hsettled

namespace Machine

/-- What is done on a stack is the same whatever values lie below the base, and leaves these. -/
def Confined (base : Nat) (action : Stack → Transition) (high : Stack) : Prop :=
  ∃ transition : Transition, transition.Keeps base
    ∧ ∀ low : Stack, low.size = base → action (low ++ high) = transition.onto low

/-! ## Parts of steps -/

variable {globals : Globals} {base : Nat} {high : Stack} {frames : List Frame}

/-- Pushing is confined, if the frames can go on with one value more. -/
theorem confined_push (value : Value) (h : Settled (base + (high.size + 1)) frames) :
    Confined base (fun stack => push frames stack value) high := by
  by_cases hroom : base + high.size < maxValues
  · refine ⟨.running ⟨frames, high.push value⟩, ?_, ?_⟩
    · show Settled (base + (high.push value).size) frames
      rw [Array.size_push]
      exact h
    · intro low hlow
      simp [push, Transition.onto, hlow, hroom]
  · refine ⟨.failed .stackOverflow high, rfl, ?_⟩
    intro low hlow
    simp [push, Transition.onto, hlow, hroom]

/-- An operation is confined to its operands. -/
theorem confined_operate (operation : Float → Float → Float) (hsize : 2 ≤ high.size)
    (h : Settled (base + (high.size - 2 + 1)) frames) :
    Confined base (operate operation frames) high := by
  obtain ⟨middle, right, rfl⟩ := Array.exists_push_of_size_pos (Nat.lt_of_succ_lt hsize)
  rw [Array.size_push] at hsize
  obtain ⟨below, left, rfl⟩ := Array.exists_push_of_size_pos (Nat.lt_of_succ_lt_succ hsize)
  have hsettled : Settled (base + (below.size + 1)) frames := by
    simpa using h
  match left, right with
  | .number first, .number second =>
      obtain ⟨transition, hkeeps, honto⟩ :=
        confined_push (.number (operation first second)) hsettled
      refine ⟨transition, hkeeps, fun low hlow => ?_⟩
      rw [← honto low hlow]
      simp [operate]
  | .number first, .function second =>
      refine ⟨.failed (.invalidArithmetic (.number first) (.function second)) below, rfl, ?_⟩
      intro low hlow
      simp [operate, Transition.onto]
  | .function first, right =>
      refine ⟨.failed (.invalidArithmetic (.function first) right) below, rfl, ?_⟩
      intro low hlow
      simp [operate, Transition.onto]

/-- A call is confined to its arguments and the callee, if all units of the table are compiled and
the frames can go on with a value in their place. -/
theorem confined_callTop (hknown : ∀ slot unit, globals.unit? slot = some unit → unit.IsCompiled)
    {caller : Frame} {callers : List Frame} {count : UInt8} (hsize : count.toNat + 1 ≤ high.size)
    (h : Settled (base + (high.size - (count.toNat + 1) + 1)) (caller :: callers)) :
    Confined base (callTop globals count (caller :: callers)) high := by
  obtain ⟨below, callee, rfl⟩ := Array.exists_push_of_size_pos (Nat.zero_lt_of_lt hsize)
  rw [Array.size_push] at hsize h
  have hcount : count.toNat ≤ below.size := Nat.le_of_succ_le_succ hsize
  match callee with
  | .number value =>
      refine ⟨.failed (.notCallable (.number value)) below, rfl, ?_⟩
      intro low hlow
      simp [callTop, Transition.onto]
  | .function reference =>
      cases hunit : globals.unit? reference.slot with
      | none =>
          refine ⟨.failed (.undefinedFunction reference.name.name) below, rfl, ?_⟩
          intro low hlow
          simp [callTop, hunit, Transition.onto]
      | some unit =>
          -- From here on the callee decides, and it depends on the size of the stack only.
          by_cases harity : unit.arity = count
          · by_cases hroom : maxFrames ≤ callers.length + 1
            · refine ⟨.failed .frameOverflow below, rfl, ?_⟩
              intro low hlow
              have henough : ¬ low.size + below.size < count.toNat := by omega
              simp [callTop, enter, hunit, harity, hroom, henough, Transition.onto]
            · refine ⟨.running ⟨⟨unit, 0, base + (below.size - count.toNat)⟩ :: caller :: callers,
                below⟩, ?_, ?_⟩
              · obtain ⟨instructions, hat⟩ :=
                  Frame.At.start (hknown _ unit hunit) (base + (below.size - count.toNat))
                refine ⟨⟨[], instructions, ?_⟩, ?_⟩
                · rw [harity, Nat.add_assoc, Nat.sub_add_cancel hcount] at hat
                  exact hat
                · rw [Nat.succ_sub_succ, ← Nat.add_assoc] at h
                  exact h
              · intro low hlow
                have henough : ¬ low.size + below.size < count.toNat := by omega
                have hbase : low.size + below.size - count.toNat
                    = base + (below.size - count.toNat) := by omega
                simp [callTop, enter, hunit, harity, hroom, henough, hbase, Transition.onto]
          · refine ⟨.failed (.arityMismatch unit.displayName unit.arity count.toNat) below, rfl, ?_⟩
            intro low hlow
            simp [callTop, enter, hunit, harity, Transition.onto]

/-- Leaving a frame is confined to what lies above its base, for all of this is dropped. -/
theorem confined_leave {frame : Frame} {callers : List Frame} (h : Waiting frame.base callers)
    (result : Option Value) : Confined frame.base (leave frame callers result) high := by
  have hshrink : ∀ low : Stack, low.size = frame.base → (low ++ high).shrink frame.base = low := by
    intro low hlow
    rw [← hlow]
    simp
  match result, callers with
  | none, [] =>
      refine ⟨.finished none #[], trivial, fun low hlow => ?_⟩
      simp only [leave, hshrink low hlow, Transition.onto, Array.append_empty]
  | none, _ :: _ =>
      refine ⟨.failed (.voidResult frame.unit.displayName) #[], rfl, fun low hlow => ?_⟩
      simp only [leave, hshrink low hlow, Transition.onto, Array.append_empty]
  | some value, [] =>
      by_cases hroom : frame.base < maxValues
      · refine ⟨.finished (some value) #[value], trivial, fun low hlow => ?_⟩
        simp only [leave, hshrink low hlow, hlow, if_pos hroom]
        rfl
      · refine ⟨.failed .stackOverflow #[], rfl, fun low hlow => ?_⟩
        simp only [leave, hshrink low hlow, hlow, if_neg hroom, Transition.onto,
          Array.append_empty]
  | some value, caller :: others =>
      have hpush : Confined frame.base (fun stack => push (caller :: others) stack value) #[] :=
        confined_push value h
      obtain ⟨transition, hkeeps, honto⟩ := hpush
      refine ⟨transition, hkeeps, fun low hlow => ?_⟩
      rw [← honto low hlow, Array.append_empty]
      simp only [leave, hshrink low hlow]

/-! ## Steps -/

/-- What an instruction says is confined to what lies above the base. -/
theorem confined_perform
    (hknown : ∀ slot unit, globals.unit? slot = some unit → unit.IsCompiled) {frame : Frame}
    {callers : List Frame} {before behind : List Instruction} {instruction : Instruction}
    (h : frame.At before (instruction :: behind) (frame.base + high.size))
    (hwaiting : Waiting frame.base callers) :
    Confined frame.base (fun stack =>
      perform globals { frame with offset := offsetBehind (before ++ [instruction]) } callers stack
        instruction) high := by
  obtain ⟨hconsumes, hreach⟩ := h.next
  obtain ⟨values, hconsists⟩ := h.consists
  have hmem : instruction ∈ before ++ instruction :: behind :=
    List.mem_append_right before (List.mem_cons_self ..)
  -- Where the frame goes on, it stands behind the instruction.
  have hsettled : Settled (frame.base + (high.size - instruction.consumes + instruction.produces))
      ({ frame with offset := offsetBehind (before ++ [instruction]) } :: callers) :=
    ⟨⟨_, _, h.advance⟩, hwaiting⟩
  cases instruction with
  | constant index =>
      obtain ⟨value, hvalue⟩ :=
        Option.isSome_iff_exists.mp (hconsists.isSome_constant? (Or.inl hmem))
      simp only [perform, hvalue]
      exact confined_push value hsettled
  | loadGlobal index =>
      obtain ⟨value, hvalue⟩ :=
        Option.isSome_iff_exists.mp (hconsists.isSome_constant? (Or.inr hmem))
      simp only [perform, hvalue]
      exact confined_push value hsettled
  | loadLocal slot =>
      obtain ⟨transition, hkeeps, honto⟩ := confined_push high[slot.toNat] hsettled
      refine ⟨transition, hkeeps, fun low hlow => ?_⟩
      have hlocal : (low ++ high)[frame.base + slot.toNat]? = some high[slot.toNat] := by
        rw [← hlow, Array.getElem?_append_right (Nat.le_add_right _ _), Nat.add_sub_cancel_left]
        exact Array.getElem?_eq_getElem hreach
      simp only [perform, hlocal]
      exact honto low hlow
  | add | subtract | multiply | divide => exact confined_operate _ hconsumes hsettled
  | pop =>
      obtain ⟨below, top, rfl⟩ := Array.exists_push_of_size_pos hconsumes
      refine ⟨.running ⟨{ frame with offset := offsetBehind (before ++ [.pop]) } :: callers, below⟩,
        ?_, ?_⟩
      · rw [Array.size_push] at hsettled
        exact hsettled
      · intro low hlow
        simp [perform, Transition.onto]
  | call count => exact confined_callTop hknown hconsumes hsettled
  | halt =>
      obtain ⟨below, top, rfl⟩ := Array.exists_push_of_size_pos hreach
      refine ⟨.finished (some top) (below.push top), trivial, fun low hlow => ?_⟩
      simp [perform, Transition.onto]
  | returnVoid => exact confined_leave hwaiting none
  | returnValue =>
      obtain ⟨below, top, rfl⟩ := Array.exists_push_of_size_pos hconsumes
      have hleave : Confined frame.base (leave frame callers (some top)) below :=
        confined_leave hwaiting (some top)
      obtain ⟨transition, hkeeps, honto⟩ := hleave
      refine ⟨transition, hkeeps, fun low hlow => ?_⟩
      rw [← honto low hlow]
      simp [perform, leave]

/-- The next step is confined to what lies above the base of the latest call. -/
theorem confined_step (hknown : ∀ slot unit, globals.unit? slot = some unit → unit.IsCompiled)
    {frame : Frame} {callers : List Frame}
    (h : Settled (frame.base + high.size) (frame :: callers)) :
    Confined frame.base (fun stack => step globals ⟨frame :: callers, stack⟩) high := by
  obtain ⟨⟨before, behind, hat⟩, hwaiting⟩ := h
  cases behind with
  | nil =>
      have hend : ¬ frame.offset < frame.unit.code.size := by
        rw [hat.offset_eq, hat.code_eq, List.append_nil, List.size_toArray]
        exact Nat.lt_irrefl _
      cases callers with
      | nil =>
          -- Nothing lies below the outermost frame.
          refine ⟨.finished high.back? high, trivial, fun low hlow => ?_⟩
          have hempty : low = #[] := Array.eq_empty_of_size_eq_zero (hlow.trans hwaiting)
          simp [step, hend, hempty, Transition.onto]
      | cons caller others =>
          simp only [step, if_neg hend]
          exact confined_leave hwaiting none
  | cons instruction others =>
      have hinside : frame.offset < frame.unit.code.size := by
        have hbounds := Bytecode.bounds_of_decodeAt hat.decodeAt
        exact Nat.lt_of_lt_of_le hbounds.1 hbounds.2
      simp only [step, if_pos hinside, hat.decodeAt]
      exact confined_perform hknown hat hwaiting

end Machine

end StackLang
