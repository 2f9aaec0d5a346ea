import StackLang.Machine.Step

/-! # How steps change the frames

Whatever the code is, a step changes the frames in one of three ways: the latest call goes on,
another call begins, or the latest call is over.

* `Machine.Moves` — the three ways.
* `Machine.frames_of_perform` — how an instruction changes the frames.
* `Machine.moves_of_step` — there is no other way. -/

namespace StackLang

open Bytecode (CodeUnit)

namespace Machine

/-- How a step may change the frames. -/
inductive Moves (globals : Globals) : List Frame → List Frame → Prop where
  /-- The latest call goes on behind an instruction. -/
  | advance {frame : Frame} {callers : List Frame} {next : Nat} (forward : frame.offset < next)
      (inside : next ≤ frame.unit.code.size) :
      Moves globals (frame :: callers) ({ frame with offset := next } :: callers)
  /-- A call begins behind an instruction. -/
  | enter {frame : Frame} {callers : List Frame} {next : Nat} (forward : frame.offset < next)
      (inside : next ≤ frame.unit.code.size) {slot : Nat} {unit : CodeUnit}
      (known : globals.unit? slot = some unit) (room : callers.length + 1 < maxFrames)
      (base : Nat) :
      Moves globals (frame :: callers)
        (⟨unit, 0, base⟩ :: { frame with offset := next } :: callers)
  /-- The latest call is over. -/
  | leave {frame : Frame} {callers : List Frame} : Moves globals (frame :: callers) callers

theorem frames_of_push {frames : List Frame} {stack : Stack} {value : Value} {after : Machine}
    (running : push frames stack value = .running after) : after.frames = frames := by
  unfold push at running
  split at running
  · cases running
    rfl
  · cases running

theorem frames_of_operate {operation : Float → Float → Float} {frames : List Frame} {stack : Stack}
    {after : Machine} (running : operate operation frames stack = .running after) :
    after.frames = frames := by
  simp only [operate] at running
  split at running
  · cases running
  · split at running
    · cases running
    · split at running
      · exact frames_of_push running
      · cases running

theorem frames_of_leave {frame : Frame} {callers : List Frame} {result : Option Value}
    {stack : Stack} {after : Machine}
    (running : leave frame callers result stack = .running after) : after.frames = callers := by
  simp only [leave] at running
  split at running
  · cases running
  · cases running
  · split at running <;> cases running
  · exact frames_of_push running

theorem frames_of_callTop {globals : Globals} {count : UInt8} {frames : List Frame} {stack : Stack}
    {after : Machine} (running : callTop globals count frames stack = .running after) :
    ∃ slot unit base, globals.unit? slot = some unit ∧ frames.length < maxFrames ∧
      after.frames = ⟨unit, 0, base⟩ :: frames := by
  unfold callTop at running
  split at running
  · cases running
  · cases running
  · next reference top =>
      split at running
      · cases running
      · next unit known =>
          unfold enter at running
          split at running
          · cases running
          · split at running
            · cases running
            · split at running
              · cases running
              · next room =>
                  cases running
                  exact ⟨_, _, _, known, Nat.lt_of_not_le room, rfl⟩

/-- An instruction leaves the frames as they are, or lets a call begin, or ends the latest one. -/
theorem frames_of_perform {globals : Globals} {frame : Frame} {callers : List Frame} {stack : Stack}
    {instruction : Bytecode.Instruction} {after : Machine}
    (running : perform globals frame callers stack instruction = .running after) :
    after.frames = frame :: callers
      ∨ (∃ slot unit base, globals.unit? slot = some unit ∧ callers.length + 1 < maxFrames
          ∧ after.frames = ⟨unit, 0, base⟩ :: frame :: callers)
      ∨ after.frames = callers := by
  cases instruction with
  | constant index | loadGlobal index | loadLocal slot =>
      simp only [perform] at running
      split at running
      · exact .inl (frames_of_push running)
      · cases running
  | add | subtract | multiply | divide => exact .inl (frames_of_operate running)
  | pop =>
      simp only [perform] at running
      split at running
      · cases running
        exact .inl rfl
      · cases running
  | call count => exact .inr (.inl (frames_of_callTop running))
  | halt => cases running
  | returnVoid => exact .inr (.inr (frames_of_leave running))
  | returnValue =>
      simp only [perform] at running
      split at running
      · exact .inr (.inr (frames_of_leave running))
      · cases running

/-- A step that does not end the run moves the frames in one of the three ways. -/
theorem moves_of_step {globals : Globals} {machine after : Machine}
    (running : machine.step globals = .running after) :
    Moves globals machine.frames after.frames := by
  match machine with
  | ⟨[], stack⟩ => cases running
  | ⟨frame :: callers, stack⟩ =>
      simp only [step] at running
      split at running
      · split at running
        · next instruction next decoded =>
            obtain ⟨forward, inside⟩ := Bytecode.bounds_of_decodeAt decoded
            rcases frames_of_perform running with same | ⟨slot, unit, base, known, room, same⟩ | same
            · exact same ▸ .advance forward inside
            · exact same ▸ .enter forward inside known room base
            · exact same ▸ .leave
        · cases running
      · split at running
        · cases running
        · exact frames_of_leave running ▸ .leave

end Machine

end StackLang
