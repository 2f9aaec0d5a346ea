import StackLang.Proofs.Build.Contract
import StackLang.Proofs.Machine.Settled

/-! # Stack discipline

Whatever was built before, each state of each run of a compiled unit is settled. So the stack is as
high as the code says, every instruction finds what it needs above the base of its frame, and no run
fails as malformed code does.

* `Machine.Visited` — the states through which a run goes.
* `Machine.Discipline` — what holds of the latest call in such a state.
* `Build.Built.isCompiled` — all units of a table that is built are compiled.
* `Machine.stack_discipline` — the discipline holds in all runs of compiled units. -/

namespace StackLang

open Bytecode (CodeUnit Consists Instruction heightBehind offsetBehind staticHeight)
open Compile (Environment Part Place)

/-! ## Built tables -/

namespace Build

/-- The unit that a name has in a table that is built was compiled. -/
theorem Built.isCompiled_of_status? {globals : Globals} (h : Built globals) {name : Symbol}
    {unit : CodeUnit} (hunit : (globals.status? name).bind Global.Status.unit? = some unit) :
    unit.IsCompiled := by
  induction h with
  | empty => simp [Globals.status?, Globals.slot?, Globals.empty] at hunit
  | @build globals hbuilt table source ih =>
      rw [ofSource_eq] at hunit
      cases hlatest : latest? table (accepted table (definitionsOf source) globals) name with
      | some definition =>
          obtain ⟨found, hcode, hdefined⟩ :=
            status?_latest hbuilt.reached (definitionsOf source) (parseErrorOf source) hlatest
          rw [hdefined] at hunit
          cases hunit
          exact ⟨_, .function definition, hcode⟩
      | none =>
          -- The build has left the name alone.
          rw [unit?_status?_other hbuilt.reached _ _ hlatest] at hunit
          exact ih hunit

/-- All units of a table that is built were compiled. -/
theorem Built.isCompiled {globals : Globals} (h : Built globals) (slot : Nat) (unit : CodeUnit)
    (hunit : globals.unit? slot = some unit) : unit.IsCompiled := by
  obtain ⟨entry, hentry, hstatus⟩ := Option.bind_eq_some_iff.mp hunit
  have hslot := h.reached.distinct.slot?_of_global? hentry
  rw [Globals.unit?_of_slot? hslot] at hunit
  exact h.isCompiled_of_status? hunit

end Build

namespace Machine

/-! ## States of runs -/

/-- The states through which a run goes from its start on. -/
inductive Visited (globals : Globals) (start : Machine) : Machine → Prop
  /-- The start. -/
  | start : Visited globals start start
  /-- The state behind a step. -/
  | step {machine after : Machine} (h : Visited globals start machine)
      (hstep : machine.step globals = .running after) : Visited globals start after

/-- What holds of the latest call in each state of a run: it stands between instructions of its
unit, on a stack of some height above its base. -/
structure Discipline (globals : Globals) (frame : Frame) (callers : List Frame) (stack : Stack)
    (before behind : List Instruction) (height : Nat) : Prop where
  /-- The unit was compiled. -/
  compiled : frame.unit.IsCompiled
  /-- These are its instructions. -/
  instructions_eq : frame.unit.instructions = (before ++ behind).map .ok
  /-- The call stands between them. -/
  offset_eq : frame.offset = offsetBehind before
  /-- The height is that of the stack above the base. -/
  size_eq : stack.size = frame.base + height
  /-- The height is the static one. -/
  height_eq : (height : Int) = staticHeight frame.unit.arity.toNat before
  /-- It is enough for what the next instruction takes. -/
  consumes_le : ∀ instruction, behind.head? = some instruction → instruction.consumes ≤ height
  /-- It is enough for the local that the next instruction reads. -/
  slot_lt : ∀ slot, behind.head? = some (.loadLocal slot) → slot.toNat < height
  /-- It is the one that the place at the offset must have. -/
  place_fits : ∀ (environment : Environment) (part : Part) (first : List Instruction)
    (place : Place), part.unit environment = .ok frame.unit →
      part.HasPlace environment first place → frame.offset = offsetBehind first →
        place.Fits height
  /-- The next step does not depend on what lies below the base, and leaves all of it there. -/
  confined : ∃ transition : Transition, ∀ low : Stack, low.size = frame.base →
    step globals ⟨frame :: callers, low ++ stack.extract frame.base⟩ = transition.onto low

/-- A state has a latest call, of which all this holds. -/
def Disciplined (globals : Globals) (machine : Machine) : Prop :=
  ∃ frame callers before behind height, machine.frames = frame :: callers
    ∧ Discipline globals frame callers machine.stack before behind height

variable {globals : Globals}

/-- The stack of a settled machine, split at the base of the latest call. -/
theorem Settled.split {frame : Frame} {callers : List Frame} {stack : Stack}
    (h : Settled stack.size (frame :: callers)) :
    stack.extract 0 frame.base ++ stack.extract frame.base = stack
      ∧ (stack.extract 0 frame.base).size = frame.base
      ∧ frame.base + (stack.extract frame.base).size = stack.size := by
  obtain ⟨⟨before, behind, hat⟩, -⟩ := h
  have hle : frame.base ≤ stack.size := by
    rw [hat.size_eq]
    exact Nat.le_add_right _ _
  refine ⟨?_, ?_, ?_⟩
  · simp [Array.extract_append_extract, hle]
  · simp [hle]
  · simp [hle]

/-- The next step of a settled machine, with what lies below the base left as it is. -/
theorem Settled.step_eq (hknown : ∀ slot unit, globals.unit? slot = some unit → unit.IsCompiled)
    {frame : Frame} {callers : List Frame} {stack : Stack}
    (h : Settled stack.size (frame :: callers)) :
    ∃ transition : Transition, transition.Keeps frame.base
      ∧ (∀ low : Stack, low.size = frame.base →
          step globals ⟨frame :: callers, low ++ stack.extract frame.base⟩ = transition.onto low)
      ∧ step globals ⟨frame :: callers, stack⟩
          = transition.onto (stack.extract 0 frame.base) := by
  obtain ⟨hsplit, hlow, hhigh⟩ := h.split
  rw [← hhigh] at h
  obtain ⟨transition, hkeeps, honto⟩ := confined_step hknown h
  have hstep := honto _ hlow
  rw [hsplit] at hstep
  exact ⟨transition, hkeeps, honto, hstep⟩

/-- The next step of a settled machine leads to a settled machine if the run goes on, and does not
fail as malformed code does. -/
theorem Settled.keeps_step
    (hknown : ∀ slot unit, globals.unit? slot = some unit → unit.IsCompiled) {machine : Machine}
    (h : Settled machine.stack.size machine.frames) : (machine.step globals).Keeps 0 := by
  obtain ⟨frames, stack⟩ := machine
  cases frames with
  | nil => cases h
  | cons frame callers =>
      obtain ⟨transition, hkeeps, -, hstep⟩ := h.step_eq hknown
      rw [hstep]
      refine Transition.Keeps.onto ?_
      rw [h.split.2.1]
      exact hkeeps

/-- The discipline holds in a settled machine. -/
theorem Settled.disciplined
    (hknown : ∀ slot unit, globals.unit? slot = some unit → unit.IsCompiled) {machine : Machine}
    (h : Settled machine.stack.size machine.frames) : Disciplined globals machine := by
  obtain ⟨frames, stack⟩ := machine
  cases frames with
  | nil => cases h
  | cons frame callers =>
      obtain ⟨transition, -, honto, -⟩ := h.step_eq hknown
      obtain ⟨⟨before, behind, hat⟩, -⟩ := h
      obtain ⟨values, hconsists⟩ := hat.consists
      have hsafe := (Bytecode.safe_append.mp hconsists.safe).1
      have hnext : ∀ instruction, behind.head? = some instruction →
          instruction.consumes ≤ heightBehind frame.unit.arity.toNat before
            ∧ instruction.reach ≤ heightBehind frame.unit.arity.toNat before := by
        intro instruction hhead
        obtain ⟨others, rfl⟩ := List.head?_eq_some_iff.mp hhead
        have hsize := hat.size_eq
        rw [hsize] at hat
        exact hat.next
      refine ⟨frame, callers, before, behind, heightBehind frame.unit.arity.toNat before, rfl,
        hat.compiled, Bytecode.CodeUnit.instructions_eq hat.code_eq, hat.offset_eq, hat.size_eq,
        hsafe.staticHeight_eq, fun instruction hhead => (hnext instruction hhead).1,
        fun slot hhead => (hnext _ hhead).2, ?_, transition, honto⟩
      intro environment part first place hunit hplace hoffset
      -- The offset tells which instructions stand before the place.
      obtain ⟨hfirst, hfits⟩ := hplace.fits hunit hat.code_eq
      have heq : first = before := Bytecode.offsetBehind_inj hfirst (List.prefix_append _ _)
        (hoffset.symm.trans hat.offset_eq)
      rw [heq] at hfits
      exact hfits

/-- A run of a compiled unit starts in a settled machine. -/
theorem settled_initial {unit : CodeUnit} (hunit : unit.IsCompiled) {arguments : List Value}
    (harity : unit.arity.toNat = arguments.length) :
    Settled (initial unit arguments).stack.size (initial unit arguments).frames := by
  obtain ⟨instructions, hat⟩ := Frame.At.start hunit 0
  rw [Nat.zero_add, harity] at hat
  exact ⟨⟨[], instructions, hat⟩, rfl⟩

/-- A run through settled machines stays in them. -/
theorem Visited.settled (hknown : ∀ slot unit, globals.unit? slot = some unit → unit.IsCompiled)
    {start machine : Machine} (hstart : Settled start.stack.size start.frames)
    (h : Visited globals start machine) : Settled machine.stack.size machine.frames := by
  induction h with
  | start => exact hstart
  | step _ hstep ih =>
      have hkeeps := ih.keeps_step hknown
      rw [hstep] at hkeeps
      exact hkeeps.settled

/-- A run from a settled machine does not fail as malformed code does. -/
theorem Settled.isMalformed_execute
    (hknown : ∀ slot unit, globals.unit? slot = some unit → unit.IsCompiled) {limit : Nat}
    (small : ∀ slot unit, globals.unit? slot = some unit → unit.code.size ≤ limit)
    {machine : Machine} (h : Settled machine.stack.size machine.frames) {error : RuntimeError}
    (herror : (execute globals limit small machine).result = .error error) :
    error.isMalformed = false := by
  have hkeeps := h.keeps_step hknown
  induction machine using execute.induct globals limit small with
  | case1 machine after hstep ih =>
      rw [execute_eq, hstep] at herror
      rw [hstep] at hkeeps
      exact ih hkeeps.settled herror (hkeeps.settled.keeps_step hknown)
  | case2 machine result left hstep =>
      rw [execute_eq, hstep] at herror
      cases herror
  | case3 machine reason left hstep =>
      rw [execute_eq, hstep] at herror
      rw [hstep] at hkeeps
      cases herror
      exact hkeeps

/-- The discipline of compiled code. A unit consists of instructions that refer to its constants one
by one. In each state of each of its runs, over any table that was built, the stack has the static
height, which is enough for the next instruction and the one that the place in the source must have,
and the next step stays above the base. No run fails as malformed code does. -/
theorem stack_discipline {globals : Globals} (hbuilt : Build.Built globals)
    {environment : Environment} {part : Part} {unit : CodeUnit}
    (hunit : part.unit environment = .ok unit) :
    (∃ instructions, unit.instructions = instructions.map .ok
        ∧ Consists unit instructions (part.constants environment))
      ∧ (∀ (arguments : List Value) (machine : Machine),
          unit.arity.toNat = arguments.length →
            Visited globals (initial unit arguments) machine → Disciplined globals machine)
      ∧ ∀ (arguments : List Value) (error : RuntimeError),
          (run globals unit arguments).result = .error error → error.isMalformed = false := by
  have hcompiled : unit.IsCompiled := ⟨environment, part, hunit⟩
  have hknown := hbuilt.isCompiled
  refine ⟨?_, ?_, ?_⟩
  · obtain ⟨instructions, hconsists⟩ := Part.consists hunit
    exact ⟨instructions, Bytecode.CodeUnit.instructions_eq hconsists.code_eq, hconsists⟩
  · intro arguments machine harity hvisited
    exact (hvisited.settled hknown (settled_initial hcompiled harity)).disciplined hknown
  · intro arguments error herror
    rw [run] at herror
    by_cases harity : unit.arity.toNat = arguments.length
    · rw [if_pos harity] at herror
      exact (settled_initial hcompiled harity).isMalformed_execute hknown _ herror
    · rw [if_neg harity] at herror
      cases herror
      rfl

/-- The operand `f(f)` of a sum calls a function that was built: while the call is active, the other
operand and the caller wait below its base. -/
theorem stack_discipline_call :
    let source := ['d', 'e', 'f', 'u', 'n', ' ', 'f', '(', 'x', ')', '=', 'r', 'e', 't', 'u', 'r',
      'n', ' ', 'x', ' ', 'e', 'n', 'd']
    let globals := (Build.ofSource 0 source Globals.empty).globals
    let part : Part := .expression (.binary (.name "f") .plus (.call (.name "f") [.name "f"]))
    let called : CodeUnit := .ofInstructions (some ⟨0, "f"⟩) 1
      [.loadLocal 0, .returnValue, .pop, .returnVoid] #[]
    let value : Value := .function ⟨0, ⟨0, "f"⟩⟩
    let unit : CodeUnit := .ofInstructions none 0
      [.loadGlobal 0, .loadGlobal 1, .loadGlobal 2, .call 1, .add] #[value, value, value]
    let inside : Machine := ⟨[⟨called, 0, 1⟩, ⟨unit, 8, 0⟩], #[value, value]⟩
    Build.Built globals ∧ part.unit ⟨globals, 0⟩ = .ok unit
      ∧ unit.arity.toNat = ([] : List Value).length
      ∧ Visited globals (initial unit []) inside ∧ Disciplined globals inside
      ∧ (run globals unit []).result = .error (.invalidArithmetic value value)
      ∧ (RuntimeError.invalidArithmetic value value).isMalformed = false := by
  intro source globals part called value unit inside
  have hread : Parse.definition (itemsOf source)
      = .done (some ⟨"f", ["x"], [.returning (some (.name "x"))]⟩) [] := by cbv
  obtain ⟨hdefinitions, herror⟩ := Build.definitionsOf_of_definition hread
  have hglobals : globals = ⟨#[⟨⟨0, "f"⟩, .defined called⟩]⟩ := by
    show (Build.ofSource 0 source Globals.empty).globals = _
    rw [Build.ofSource_eq, hdefinitions, herror]
    cbv
  have hbuilt : Build.Built globals := Build.Built.empty.build 0 source
  have hunit : part.unit ⟨globals, 0⟩ = .ok unit := by
    rw [hglobals]
    cbv
  have hvisited : Visited globals (initial unit []) inside := by
    rw [hglobals]
    exact .step (.step (.step (.step .start rfl) rfl) rfl) rfl
  have hresult : (run globals unit []).result = .error (.invalidArithmetic value value) := by
    rw [hglobals]
    cbv
  obtain ⟨-, hdisciplined, hmalformed⟩ := stack_discipline hbuilt hunit
  exact ⟨hbuilt, hunit, rfl, hvisited, hdisciplined [] inside rfl hvisited, hresult,
    hmalformed [] _ hresult⟩

end Machine

end StackLang
