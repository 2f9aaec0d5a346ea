import StackLang.Proofs.Bytecode.Walking
import StackLang.Proofs.Machine.Discipline

/-! # Runs follow the listing

A call executes the instructions of its unit in the order of the listing, whatever the bytes are and
whatever other calls come in between. It never comes to the lines behind the first offset at which
there is no instruction.

* `Machine.executes?` — the instruction that a step executes, with its offset.
* `Machine.Recorded` — a run with a record of what its calls have executed.
* `Machine.Recorded.chained` — what a call has executed leads from the start of its unit to the
  place where the call stands.
* `Machine.walkers_agree` — the instructions of a unit, its listing and its runs agree. -/

namespace StackLang.Machine

open Bytecode (Chain CodeUnit DecodeError Instruction decodeAt)
open Bytecode.Listing (Entry entriesFrom)

/-! ## Records of runs -/

/-- The instruction that the next step executes, with its offset; none if the latest call has come
to the end of its code, or to an offset at which there is no instruction. -/
def executes? (machine : Machine) : Option (Nat × Instruction) :=
  match machine.frames with
  | [] => none
  | frame :: _ =>
      match decodeAt frame.unit.code frame.offset with
      | .ok (instruction, _) => some (frame.offset, instruction)
      | .error _ => none

/-- A run with a record of what each active call has executed, the latest call first. -/
inductive Recorded (globals : Globals) (start : Machine) :
    Machine → List (List (Nat × Instruction)) → Prop
  /-- At the start nothing has been executed. -/
  | start : Recorded globals start start (start.frames.map fun _ => [])
  /-- The latest call goes on. -/
  | advance {machine after : Machine} {latest : List (Nat × Instruction)}
      {callers : List (List (Nat × Instruction))}
      (h : Recorded globals start machine (latest :: callers))
      (hstep : machine.step globals = .running after)
      (hlength : after.frames.length = machine.frames.length) :
      Recorded globals start after ((latest ++ machine.executes?.toList) :: callers)
  /-- A call begins, which has executed nothing. -/
  | enter {machine after : Machine} {latest : List (Nat × Instruction)}
      {callers : List (List (Nat × Instruction))}
      (h : Recorded globals start machine (latest :: callers))
      (hstep : machine.step globals = .running after)
      (hlength : after.frames.length = machine.frames.length + 1) :
      Recorded globals start after ([] :: (latest ++ machine.executes?.toList) :: callers)
  /-- The latest call is over. -/
  | leave {machine after : Machine} {latest : List (Nat × Instruction)}
      {callers : List (List (Nat × Instruction))}
      (h : Recorded globals start machine (latest :: callers))
      (hstep : machine.step globals = .running after)
      (hlength : after.frames.length + 1 = machine.frames.length) :
      Recorded globals start after callers

variable {globals : Globals}

/-- A step executes the instruction at the place of the latest call and leaves that call behind it,
with a call that begins above it or without one; or it ends the latest call. -/
theorem frames_of_step {frame : Frame} {callers : List Frame} {stack : Stack} {after : Machine}
    (h : step globals ⟨frame :: callers, stack⟩ = .running after) :
    (∃ instruction next, decodeAt frame.unit.code frame.offset = .ok (instruction, next)
        ∧ (after.frames = { frame with offset := next } :: callers
          ∨ ∃ unit base,
            after.frames = ⟨unit, 0, base⟩ :: { frame with offset := next } :: callers))
      ∨ after.frames = callers := by
  simp only [step] at h
  split at h
  · split at h
    · next instruction next hdecode =>
        rcases frames_of_perform h with hsame | ⟨slot, unit, base, -, -, henter⟩ | hleave
        · exact .inl ⟨instruction, next, hdecode, .inl hsame⟩
        · exact .inl ⟨instruction, next, hdecode, .inr ⟨unit, base, henter⟩⟩
        · exact .inr hleave
    · cases h
  · split at h
    · cases h
    · exact .inr (frames_of_leave h)

/-- The number of calls behind a step tells what the step has done. -/
theorem frames_of_length {frame : Frame} {callers : List Frame} {stack : Stack} {after : Machine}
    (h : step globals ⟨frame :: callers, stack⟩ = .running after) :
    (after.frames.length = callers.length + 1 →
        ∃ instruction next, decodeAt frame.unit.code frame.offset = .ok (instruction, next)
          ∧ after.frames = { frame with offset := next } :: callers)
      ∧ (after.frames.length = callers.length + 2 →
        ∃ instruction next unit base,
          decodeAt frame.unit.code frame.offset = .ok (instruction, next)
            ∧ after.frames = ⟨unit, 0, base⟩ :: { frame with offset := next } :: callers)
      ∧ (after.frames.length = callers.length → after.frames = callers) := by
  rcases frames_of_step h with ⟨instruction, next, hdecode, hsame | ⟨unit, base, henter⟩⟩ | hleave
  · have hlength := congrArg List.length hsame
    rw [List.length_cons] at hlength
    exact ⟨fun _ => ⟨instruction, next, hdecode, hsame⟩, fun _ => by omega, fun _ => by omega⟩
  · have hlength := congrArg List.length henter
    rw [List.length_cons, List.length_cons] at hlength
    exact ⟨fun _ => by omega, fun _ => ⟨instruction, next, unit, base, hdecode, henter⟩,
      fun _ => by omega⟩
  · have hlength := congrArg List.length hleave
    exact ⟨fun _ => by omega, fun _ => by omega, fun _ => hleave⟩

/-- A step that goes on starts from a state with a call. -/
theorem exists_frame_of_step {machine after : Machine} (h : machine.step globals = .running after) :
    ∃ frame callers, machine.frames = frame :: callers := by
  obtain ⟨frames, stack⟩ := machine
  cases frames with
  | nil => cases h
  | cons frame callers => exact ⟨frame, callers, rfl⟩

/-- The call stands where the instructions lead from the start of its unit. -/
def Behind (frame : Frame) (executed : List (Nat × Instruction)) : Prop :=
  Chain frame.unit.code 0 executed frame.offset

/-- The call stands behind the instruction that it has just executed. -/
theorem Behind.executes {frame : Frame} {callers : List Frame} {stack : Stack}
    {executed : List (Nat × Instruction)} (h : Behind frame executed) {instruction : Instruction}
    {next : Nat} (hdecode : decodeAt frame.unit.code frame.offset = .ok (instruction, next)) :
    Behind { frame with offset := next }
      (executed ++ (executes? ⟨frame :: callers, stack⟩).toList) := by
  have hexecutes : executes? ⟨frame :: callers, stack⟩ = some (frame.offset, instruction) := by
    rw [executes?]
    dsimp only
    rw [hdecode]
  rw [hexecutes]
  exact h.concat hdecode

/-- Every call has executed what leads from the start of its unit to the place where it stands. -/
theorem Recorded.chained {start machine : Machine} {executed : List (List (Nat × Instruction))}
    (hstart : ∀ frame ∈ start.frames, frame.offset = 0)
    (h : Recorded globals start machine executed) :
    List.Forall₂ Behind machine.frames executed := by
  induction h with
  | start =>
      rw [List.forall₂_map_right_iff, List.forall₂_same]
      intro frame hmem
      rw [Behind, hstart frame hmem]
      exact .nil 0
  | @advance machine after latest callers _ hstep hlength ih =>
      obtain ⟨frames, stack⟩ := machine
      cases ih with
      | cons hlatest hcallers =>
          obtain ⟨instruction, next, hdecode, hframes⟩ := (frames_of_length hstep).1 hlength
          rw [hframes]
          exact .cons (hlatest.executes hdecode) hcallers
  | @enter machine after latest callers _ hstep hlength ih =>
      obtain ⟨frames, stack⟩ := machine
      cases ih with
      | cons hlatest hcallers =>
          obtain ⟨instruction, next, unit, base, hdecode, hframes⟩ :=
            (frames_of_length hstep).2.1 hlength
          rw [hframes]
          exact .cons (.nil 0) (.cons (hlatest.executes hdecode) hcallers)
  | @leave machine after latest callers _ hstep hlength ih =>
      obtain ⟨frames, stack⟩ := machine
      cases ih with
      | cons hlatest hcallers =>
          rw [(frames_of_length hstep).2.2 (Nat.succ.inj hlength)]
          exact hcallers

/-- Every run can be recorded. -/
theorem Visited.exists_recorded {start machine : Machine}
    (hstart : ∀ frame ∈ start.frames, frame.offset = 0) (h : Visited globals start machine) :
    ∃ executed, Recorded globals start machine executed := by
  induction h with
  | start => exact ⟨_, .start⟩
  | @step machine after _ hstep ih =>
      obtain ⟨executed, hrecorded⟩ := ih
      have hchained := hrecorded.chained hstart
      obtain ⟨frames, stack⟩ := machine
      obtain ⟨frame, callers, rfl⟩ := exists_frame_of_step hstep
      cases hchained with
      | cons _ _ =>
          rcases frames_of_step hstep with ⟨_, _, _, hsame | ⟨_, _, henter⟩⟩ | hleave
          · exact ⟨_, hrecorded.advance hstep (by rw [hsame]; rfl)⟩
          · exact ⟨_, hrecorded.enter hstep (by rw [henter]; rfl)⟩
          · exact ⟨_, hrecorded.leave hstep (by rw [hleave]; rfl)⟩

/-! ## The three walks -/

/-- What the iterator and the listing make of a unit, whose code decodes from its start through
these lines up to where it stops: at the end of the code, or with a fault. -/
structure Walks (unit : CodeUnit) (lines : List (Nat × Instruction)) (stop : Nat)
    (fault : Option DecodeError) : Prop where
  /-- Decoding goes through the lines. -/
  chain : Chain unit.code 0 lines stop
  /-- It stops at the end of the code, or where there is no instruction. -/
  stops : stop = unit.code.size ∧ fault = none
    ∨ stop < unit.code.size ∧ ∃ error, fault = some error ∧ decodeAt unit.code stop = .error error
  /-- The instructions are those of the lines, with the fault behind them. -/
  instructions_eq : unit.instructions
    = lines.map (fun line => .ok line.2) ++ fault.toList.map .error
  /-- The listing shows the lines and the fault, and goes on at the next byte. -/
  entries_eq : entriesFrom unit.code 0
    = lines.map Entry.ofLine ++ fault.toList.map (fun error => ⟨stop, .error error⟩)
      ++ entriesFrom unit.code (stop + 1)
  /-- Every line of the listing, be it behind a fault, shows what there is at its offset, and the
  listing goes on behind the instruction or at the next byte. -/
  goes_on : ∀ before entry behind, entriesFrom unit.code 0 = before ++ entry :: behind →
    (∃ instruction next, decodeAt unit.code entry.offset = .ok (instruction, next)
        ∧ entry.content = .ok instruction ∧ behind = entriesFrom unit.code next)
      ∨ ∃ error, decodeAt unit.code entry.offset = .error error
        ∧ entry.content = .error error ∧ behind = entriesFrom unit.code (entry.offset + 1)
  /-- The offsets of the listing increase. -/
  increasing : (entriesFrom unit.code 0).Pairwise fun first second => first.offset < second.offset
  /-- The listing ends. -/
  length_le : (entriesFrom unit.code 0).length ≤ unit.code.size
  /-- The text of the listing has the line for each of these offsets. -/
  listing_eq : unit.listing = "== " ++ unit.displayName ++ " ==\n"
    ++ String.join ((entriesFrom unit.code 0).map fun entry => unit.lineAt entry.offset ++ "\n")

/-- A call has executed the first of the lines, and stands at the next one, or where they stop. -/
def Follows (lines : List (Nat × Instruction)) (stop : Nat) (frame : Frame)
    (executed : List (Nat × Instruction)) : Prop :=
  executed <+: lines ∧ (lines.map Prod.fst ++ [stop])[executed.length]? = some frame.offset

/-- The next step executes the instruction of the next line; where the lines stop, none is executed,
and the run fails with the fault, if there is one. -/
def ExecutesNext (globals : Globals) (lines : List (Nat × Instruction)) (stop : Nat)
    (fault : Option DecodeError) (frame : Frame) (callers : List Frame) (stack : Stack)
    (executed : List (Nat × Instruction)) : Prop :=
  (∃ instruction next, lines[executed.length]? = some (frame.offset, instruction)
      ∧ executes? ⟨frame :: callers, stack⟩ = some (frame.offset, instruction)
      ∧ step globals ⟨frame :: callers, stack⟩
        = perform globals { frame with offset := next } callers stack instruction)
    ∨ frame.offset = stop ∧ executed = lines ∧ executes? ⟨frame :: callers, stack⟩ = none
      ∧ ∀ error ∈ fault, step globals ⟨frame :: callers, stack⟩ = .failed (.decode error) stack

/-- Every unit has lines in which all this holds. -/
theorem exists_walks (unit : CodeUnit) : ∃ lines stop fault, Walks unit lines stop fault := by
  obtain ⟨lines, stop, error, hchain, herror⟩ := Bytecode.exists_chain unit.code 0
  have hgoesOn := @Bytecode.entriesFrom_goes_on unit.code 0
  have hincreasing := Bytecode.entriesFrom_pairwise unit.code 0
  have hlength := Bytecode.length_entriesFrom_le unit.code 0
  have hinstructions := hchain.instructionsFrom_eq
  have hentries := hchain.entriesFrom_eq
  rcases Nat.lt_or_eq_of_le (hchain.le_size (Nat.zero_le _)) with hinside | hend
  · rw [Bytecode.instructionsFrom_of_error hinside herror] at hinstructions
    rw [Bytecode.entriesFrom_of_error hinside herror] at hentries
    refine ⟨lines, stop, some error, hchain, .inr ⟨hinside, error, rfl, herror⟩, hinstructions, ?_,
      fun _ _ _ => hgoesOn, hincreasing, hlength, unit.listing_eq⟩
    rw [hentries, List.append_assoc]
    rfl
  · rw [hend, Bytecode.instructionsFrom_size] at hinstructions
    rw [Bytecode.entriesFrom_of_size_le (Nat.le_of_eq hend.symm)] at hentries
    refine ⟨lines, stop, none, hchain, .inl ⟨hend, rfl⟩, hinstructions, ?_, fun _ _ _ => hgoesOn,
      hincreasing, hlength, unit.listing_eq⟩
    rw [hentries, Bytecode.entriesFrom_of_size_le (hend ▸ Nat.le_succ _)]
    exact (List.append_nil _).symm

variable {unit : CodeUnit} {lines : List (Nat × Instruction)} {stop : Nat}
  {fault : Option DecodeError} {frame : Frame} {executed : List (Nat × Instruction)}

/-- There is no instruction where the lines stop. -/
theorem Walks.exists_error (h : Walks unit lines stop fault) :
    ∃ error, decodeAt unit.code stop = .error error := by
  rcases h.stops with ⟨hend, -⟩ | ⟨-, error, -, herror⟩
  · exact ⟨_, Bytecode.decodeAt_of_size_le (Nat.le_of_eq hend.symm)⟩
  · exact ⟨error, herror⟩

/-- A call that stands behind some instructions of a unit follows its lines. -/
theorem Walks.follows (h : Walks frame.unit lines stop fault) (hbehind : Behind frame executed) :
    Follows lines stop frame executed := by
  obtain ⟨error, herror⟩ := h.exists_error
  obtain ⟨others, hlines, -⟩ := hbehind.exists_behind h.chain herror
  exact ⟨⟨others, hlines.symm⟩, (hbehind.getElem?_length h.chain herror).2⟩

/-- Its next step executes the next line. -/
theorem Walks.executesNext (h : Walks frame.unit lines stop fault)
    (hbehind : Behind frame executed) (globals : Globals) (callers : List Frame) (stack : Stack) :
    ExecutesNext globals lines stop fault frame callers stack executed := by
  obtain ⟨error, herror⟩ := h.exists_error
  have hnext := (hbehind.getElem?_length h.chain herror).1
  obtain ⟨others, hlines, hothers⟩ := hbehind.exists_behind h.chain herror
  cases hothers with
  | @cons _ next _ instruction _ hdecode _ =>
      have hbounds := Bytecode.bounds_of_decodeAt hdecode
      rw [hdecode] at hnext
      refine .inl ⟨instruction, next, hnext, ?_, ?_⟩
      · rw [executes?]
        dsimp only
        rw [hdecode]
      · unfold step
        dsimp only
        rw [if_pos (Nat.lt_of_lt_of_le hbounds.1 hbounds.2), hdecode]
  | nil =>
      refine .inr ⟨rfl, (hlines.trans (List.append_nil _)).symm, ?_, ?_⟩
      · rw [executes?]
        dsimp only
        rw [herror]
      · intro shown hmem
        rcases h.stops with ⟨-, rfl⟩ | ⟨hinside, other, rfl, hother⟩
        · cases hmem
        · cases hmem
          unfold step
          dsimp only
          rw [if_pos hinside, hother]

/-- The instructions of a unit, its listing and its runs agree. The instructions are those that the
listing shows up to the first offset at which there is none, and there both tell the same fault; the
listing goes on to the end of the code. In every state of every run, each call of the unit has
executed the first lines of the listing one by one and stands at the next one of them, or where they
stop; and the next step executes no other. -/
theorem walkers_agree (unit : CodeUnit) :
    ∃ lines stop fault, Walks unit lines stop fault
      ∧ ∀ (globals : Globals) (begun : CodeUnit) (arguments : List Value) (machine : Machine),
        Visited globals (initial begun arguments) machine →
          (∃ executed, Recorded globals (initial begun arguments) machine executed)
          ∧ ∀ executed, Recorded globals (initial begun arguments) machine executed →
            List.Forall₂ (fun frame done => frame.unit = unit → Follows lines stop frame done)
                machine.frames executed
              ∧ ∀ frame callers stack latest others, machine = ⟨frame :: callers, stack⟩ →
                executed = latest :: others → frame.unit = unit →
                  ExecutesNext globals lines stop fault frame callers stack latest := by
  obtain ⟨lines, stop, fault, hwalks⟩ := exists_walks unit
  refine ⟨lines, stop, fault, hwalks, fun globals begun arguments machine hvisited => ?_⟩
  have hstart : ∀ frame ∈ (initial begun arguments).frames, frame.offset = 0 :=
    List.forall_mem_singleton.mpr rfl
  refine ⟨hvisited.exists_recorded hstart, fun executed hrecorded => ⟨?_, ?_⟩⟩
  · refine (hrecorded.chained hstart).imp fun frame done hbehind hunit => ?_
    rw [← hunit] at hwalks
    exact hwalks.follows hbehind
  · rintro frame callers stack latest others rfl rfl rfl
    cases hrecorded.chained hstart with
    | cons hlatest _ => exact hwalks.executesNext hlatest globals callers stack

/-- A function that calls itself, with a byte behind the call that stands for no instruction: the
listing goes on behind that byte, but no call comes so far. -/
theorem walkers_agree_recursion :
    let unit : CodeUnit := ⟨some ⟨0, "f"⟩, 0, #[6, 0, 8, 0, 12, 1], #[.function ⟨0, ⟨0, "f"⟩⟩]⟩
    let globals : Globals := ⟨#[⟨⟨0, "f"⟩, .defined unit⟩]⟩
    let before : Machine := ⟨[⟨unit, 2, 0⟩], unit.constants⟩
    let after : Machine := ⟨[⟨unit, 0, 0⟩, ⟨unit, 4, 0⟩], #[]⟩
    let executed : List (Nat × Instruction) := [(0, .loadGlobal 0), (2, .call 0)]
    unit.instructions = [.ok (.loadGlobal 0), .ok (.call 0), .error (.invalidOpcode 12)]
      ∧ entriesFrom unit.code 0 = [⟨0, .ok (.loadGlobal 0)⟩, ⟨2, .ok (.call 0)⟩,
        ⟨4, .error (.invalidOpcode 12)⟩, ⟨5, .ok .add⟩]
      ∧ before.step globals = .running after
      ∧ Recorded globals (initial unit []) after [[], executed]
      ∧ ∃ lines stop fault, Walks unit lines stop fault
        ∧ Follows lines stop ⟨unit, 4, 0⟩ executed
        ∧ ExecutesNext globals lines stop fault ⟨unit, 0, 0⟩ [⟨unit, 4, 0⟩] #[] [] := by
  intro unit globals before after executed
  have hfirst : (initial unit []).step globals = .running before := rfl
  have hsecond : before.step globals = .running after := rfl
  have hrecorded : Recorded globals (initial unit []) after [[], executed] :=
    .enter (.advance .start hfirst rfl) hsecond rfl
  obtain ⟨lines, stop, fault, hwalks, hruns⟩ := walkers_agree unit
  obtain ⟨-, hstates⟩ := hruns globals unit [] after (.step (.step .start hfirst) hsecond)
  obtain ⟨hfollows, hnext⟩ := hstates _ hrecorded
  refine ⟨by cbv, by cbv, hsecond, hrecorded, lines, stop, fault, hwalks, ?_,
    hnext _ _ _ _ _ rfl rfl rfl⟩
  cases hfollows with
  | cons _ hcallers =>
      cases hcallers with
      | cons hcaller _ => exact hcaller rfl

end StackLang.Machine
