import StackLang.Proofs.Machine.Discipline

/-! # The limits of runs

Whatever the code is, be it compiled or malformed, a run goes through its loop a bounded number of
times, and no state on its way has too many calls, too many values, or a call that stands outside
its code.

* `Machine.iterate` — go through the loop a number of times.
* `Machine.iterationLimit` — how often a run may go through the loop, given the longest code.
* `Machine.Limited` — a state within the limits.
* `Machine.limited_of_step` — a step keeps the limits.
* `Machine.run_limited` — every run ends, and keeps the limits on its way. -/

namespace StackLang

open Bytecode (CodeUnit)

/-- The stack to which a transition leads. -/
def Transition.stack : Transition → Stack
  | .running machine => machine.stack
  | .finished _ stack => stack
  | .failed _ stack => stack

namespace Machine

/-! ## The stack -/

variable {globals : Globals} {frames : List Frame} {stack : Stack}

theorem size_push_le (value : Value) (h : stack.size ≤ maxValues) :
    (push frames stack value).stack.size ≤ maxValues := by
  unfold push
  split
  · next hroom =>
      show (stack.push value).size ≤ maxValues
      rw [Array.size_push]
      exact hroom
  · exact h

theorem size_operate_le (operation : Float → Float → Float) (h : stack.size ≤ maxValues) :
    (operate operation frames stack).stack.size ≤ maxValues := by
  have hright : stack.pop.size ≤ maxValues := by
    rw [Array.size_pop]
    omega
  have hleft : stack.pop.pop.size ≤ maxValues := by
    rw [Array.size_pop]
    omega
  simp only [operate]
  split
  · exact h
  · split
    · exact hright
    · split
      · exact size_push_le _ hleft
      · exact hleft

theorem size_callTop_le (count : UInt8) (h : stack.size ≤ maxValues) :
    (callTop globals count frames stack).stack.size ≤ maxValues := by
  have hpop : stack.pop.size ≤ maxValues := by
    rw [Array.size_pop]
    omega
  unfold callTop
  split
  · exact h
  · exact hpop
  · split
    · exact hpop
    · -- Whether the call begins or not, its arguments stay where they are.
      unfold enter
      split
      · exact hpop
      · split
        · exact hpop
        · split <;> exact hpop

theorem size_leave_le (frame : Frame) (callers : List Frame) (result : Option Value)
    (h : stack.size ≤ maxValues) :
    (leave frame callers result stack).stack.size ≤ maxValues := by
  have hbelow : (stack.shrink frame.base).size ≤ maxValues := by
    rw [Array.size_shrink]
    omega
  simp only [leave]
  split
  · exact hbelow
  · exact hbelow
  · split
    · next hroom =>
        show ((stack.shrink frame.base).push _).size ≤ maxValues
        rw [Array.size_push]
        exact hroom
    · exact hbelow
  · exact size_push_le _ hbelow

theorem size_perform_le (frame : Frame) (callers : List Frame)
    (instruction : Bytecode.Instruction) (h : stack.size ≤ maxValues) :
    (perform globals frame callers stack instruction).stack.size ≤ maxValues := by
  have hpop : stack.pop.size ≤ maxValues := by
    rw [Array.size_pop]
    omega
  cases instruction with
  | constant index | loadGlobal index | loadLocal slot =>
      simp only [perform]
      split
      · exact size_push_le _ h
      · exact h
  | add | subtract | multiply | divide => exact size_operate_le _ h
  | pop =>
      simp only [perform]
      split
      · exact hpop
      · exact h
  | call count => exact size_callTop_le count h
  | halt => exact h
  | returnVoid => exact size_leave_le _ _ _ h
  | returnValue =>
      simp only [perform]
      split
      · exact size_leave_le _ _ _ hpop
      · exact h

/-- No step makes the stack higher than it may be. -/
theorem size_step_le {machine : Machine} (h : machine.stack.size ≤ maxValues) :
    (machine.step globals).stack.size ≤ maxValues := by
  match machine with
  | ⟨[], stack⟩ => exact h
  | ⟨frame :: callers, stack⟩ =>
      simp only [step]
      split
      · split
        · exact size_perform_le _ _ _ h
        · exact h
      · split
        · exact h
        · exact size_leave_le _ _ _ h

/-! ## States within the limits -/

/-- A state within the limits: it has no more calls and no more values than may be, and every call
stands in its code or at the end of it. -/
structure Limited (machine : Machine) : Prop where
  /-- The number of calls is limited. -/
  length_le : machine.frames.length ≤ maxFrames
  /-- The number of values is limited. -/
  size_le : machine.stack.size ≤ maxValues
  /-- No call stands behind the end of its code. -/
  offset_le : ∀ frame ∈ machine.frames, frame.offset ≤ frame.unit.code.size

/-- However the frames move, no call comes to stand behind the end of its code. -/
theorem Moves.offset_le {before after : List Frame} (moves : Moves globals before after)
    (h : ∀ frame ∈ before, frame.offset ≤ frame.unit.code.size) :
    ∀ frame ∈ after, frame.offset ≤ frame.unit.code.size := by
  cases moves with
  | advance forward inside =>
      exact List.forall_mem_cons.mpr ⟨inside, (List.forall_mem_cons.mp h).2⟩
  | enter forward inside known room base =>
      exact List.forall_mem_cons.mpr
        ⟨Nat.zero_le _, List.forall_mem_cons.mpr ⟨inside, (List.forall_mem_cons.mp h).2⟩⟩
  | leave => exact (List.forall_mem_cons.mp h).2

/-- There is room for the calls that begin. -/
theorem Moves.length_le {before after : List Frame} (moves : Moves globals before after)
    (h : before.length ≤ maxFrames) : after.length ≤ maxFrames := by
  cases moves with
  | advance => exact h
  | enter forward inside known room base => exact room
  | leave => exact Nat.le_of_succ_le h

/-- A step keeps the limits. -/
theorem limited_of_step {machine after : Machine} (h : Limited machine)
    (hstep : machine.step globals = .running after) : Limited after := by
  have hmoves := moves_of_step hstep
  have hsize : (machine.step globals).stack.size ≤ maxValues := size_step_le h.size_le
  rw [hstep] at hsize
  exact ⟨hmoves.length_le h.length_le, hsize, hmoves.offset_le h.offset_le⟩

/-- A run that starts within the limits keeps them. -/
theorem Visited.limited {start machine : Machine} (hstart : Limited start)
    (h : Visited globals start machine) : Limited machine := by
  induction h with
  | start => exact hstart
  | step _ hstep ih => exact limited_of_step ih hstep

/-- The run of a unit starts within the limits, since a byte counts its arguments. -/
theorem limited_initial {unit : CodeUnit} {arguments : List Value}
    (harity : unit.arity.toNat = arguments.length) : Limited (initial unit arguments) := by
  have hbyte := unit.arity.toNat_lt
  refine ⟨?_, ?_, ?_⟩
  · exact (by decide : 1 ≤ maxFrames)
  · show arguments.toArray.size ≤ maxValues
    rw [List.size_toArray, ← harity, maxValues]
    omega
  · intro frame hmem
    rw [List.mem_singleton.mp hmem]
    exact Nat.zero_le _

/-! ## The number of steps -/

/-- Go through the loop a number of times, unless the run ends before that. -/
def iterate (globals : Globals) : Nat → Machine → Transition
  | 0, machine => .running machine
  | count + 1, machine =>
      match machine.step globals with
      | .running after => iterate globals count after
      | .finished result stack => .finished result stack
      | .failed error stack => .failed error stack

/-- The transition with which a run ends. -/
def Ending.transition (ending : Ending) : Transition :=
  match ending.result with
  | .ok result => .finished result ending.stack
  | .error error => .failed error ending.stack

/-- How often a run may go through the loop, given the length of the longest code that it may
reach. -/
def iterationLimit (limit : Nat) : Nat :=
  Nat.pow (limit + 2) maxFrames

/-- A run ends when it has gone through the loop as often as its potential says, and once more. -/
theorem iterate_execute (limit : Nat)
    (small : ∀ slot unit, globals.unit? slot = some unit → unit.code.size ≤ limit)
    (machine : Machine) :
    ∃ count ≤ potential limit machine.frames + 1,
      iterate globals count machine = (execute globals limit small machine).transition := by
  -- Each step that goes on has lowered the potential by one at least.
  induction machine using execute.induct globals limit small with
  | case1 machine after hstep ih =>
      obtain ⟨count, hcount, hends⟩ := ih
      have hlower := (moves_of_step hstep).potential_lt small
      refine ⟨count + 1, by omega, ?_⟩
      rw [iterate, hstep, execute_eq, hstep]
      exact hends
  | case2 machine result stack hstep =>
      refine ⟨1, Nat.le_add_left _ _, ?_⟩
      rw [iterate, hstep, execute_eq, hstep]
      rfl
  | case3 machine error stack hstep =>
      refine ⟨1, Nat.le_add_left _ _, ?_⟩
      rw [iterate, hstep, execute_eq, hstep]
      rfl

/-- The potential with which the run of a unit starts. -/
theorem potential_initial_lt {limit : Nat} {unit : CodeUnit} (h : unit.code.size ≤ limit)
    (arguments : List Value) :
    potential limit (initial unit arguments).frames < iterationLimit limit := by
  have hwhole : weight limit 0 = iterationLimit limit := by
    rw [weight, Nat.sub_zero, iterationLimit]
  have hweight := weight_eq_mul limit 0 (by decide)
  have hpos := weight_pos limit 1
  have hbytes : (unit.code.size + 1) * weight limit 1 < (limit + 2) * weight limit 1 :=
    Nat.mul_lt_mul_of_pos_right (Nat.succ_lt_succ (Nat.lt_succ_of_le h)) hpos
  rw [← hweight, hwhole] at hbytes
  simp only [initial, potential, List.length_nil, Nat.zero_add, Nat.sub_zero, Nat.add_zero]
  exact hbytes

/-- The stack that a run leaves is no higher than it may be. -/
theorem size_execute_le (limit : Nat)
    (small : ∀ slot unit, globals.unit? slot = some unit → unit.code.size ≤ limit)
    {machine : Machine} (h : machine.stack.size ≤ maxValues) :
    (execute globals limit small machine).stack.size ≤ maxValues := by
  have hsize : (machine.step globals).stack.size ≤ maxValues := size_step_le h
  induction machine using execute.induct globals limit small with
  | case1 machine after hstep ih =>
      rw [hstep] at hsize
      rw [execute_eq, hstep]
      exact ih hsize (size_step_le hsize)
  | case2 machine result stack hstep =>
      rw [hstep] at hsize
      rw [execute_eq, hstep]
      exact hsize
  | case3 machine error stack hstep =>
      rw [hstep] at hsize
      rw [execute_eq, hstep]
      exact hsize

/-- The run of any unit over any table ends, with a result or with an error. If the number of
arguments is the one that the unit asks for, it goes through its loop at most as often as the
longest code allows, and keeps the limits in all states on its way; otherwise it does not begin. -/
theorem run_limited (globals : Globals) (unit : CodeUnit) (arguments : List Value) :
    (unit.arity.toNat = arguments.length →
      (∃ count ≤ iterationLimit (globals.codeLimit unit),
        iterate globals count (initial unit arguments) = (run globals unit arguments).transition)
      ∧ ∀ machine, Visited globals (initial unit arguments) machine → Limited machine)
    ∧ (unit.arity.toNat ≠ arguments.length →
      run globals unit arguments
        = ⟨.error (.arityMismatch unit.displayName unit.arity arguments.length), #[]⟩)
    ∧ (run globals unit arguments).stack.size ≤ maxValues := by
  refine ⟨?_, ?_, ?_⟩
  · intro harity
    refine ⟨?_, fun machine hvisited => hvisited.limited (limited_initial harity)⟩
    obtain ⟨count, hcount, hends⟩ := iterate_execute (globals.codeLimit unit)
      (fun _ _ known => Globals.size_le_codeLimit_of_unit? known unit) (initial unit arguments)
    have hlimit := potential_initial_lt (globals.size_le_codeLimit unit) arguments
    refine ⟨count, by omega, ?_⟩
    rw [hends, run, if_pos harity]
  · intro harity
    rw [run, if_neg harity]
  · rw [run]
    split
    · next harity => exact size_execute_le _ _ (limited_initial harity).size_le
    · exact Nat.zero_le _

/-- A function that calls itself without end: the second of its calls is within the limits, and so
are all others, until the run fails. With an argument it would not even begin. -/
theorem run_limited_recursion :
    let reference : Value := .function ⟨0, ⟨0, "f"⟩⟩
    let unit : CodeUnit := .ofInstructions (some ⟨0, "f"⟩) 0 [.loadGlobal 0, .call 0] #[reference]
    let globals : Globals := ⟨#[⟨⟨0, "f"⟩, .defined unit⟩]⟩
    let second : Machine := ⟨[⟨unit, 0, 0⟩, ⟨unit, 4, 0⟩], #[]⟩
    unit.arity.toNat = ([] : List Value).length
      ∧ (∃ count ≤ iterationLimit (globals.codeLimit unit),
          iterate globals count (initial unit []) = (run globals unit []).transition)
      ∧ Visited globals (initial unit []) second ∧ Limited second
      ∧ unit.arity.toNat ≠ [reference].length
      ∧ run globals unit [reference] = ⟨.error (.arityMismatch "f" 0 1), #[]⟩
      ∧ (run globals unit []).stack.size ≤ maxValues := by
  intro reference unit globals second
  have hvisited : Visited globals (initial unit []) second := .step (.step .start rfl) rfl
  have hmismatch : unit.arity.toNat ≠ [reference].length := by decide
  obtain ⟨hbegins, -, hstack⟩ := run_limited globals unit []
  obtain ⟨hends, hlimited⟩ := hbegins rfl
  exact ⟨rfl, hends, hvisited, hlimited second hvisited, hmismatch,
    (run_limited globals unit [reference]).2.1 hmismatch, hstack⟩

end Machine

end StackLang
