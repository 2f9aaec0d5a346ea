import StackLang.Machine.Moves

/-! # Runs end

A run has a potential, a number that every step lowers. Each frame adds the bytes that it has still
to run, at a weight by its depth: a byte of a caller weighs more than all the code of a call that
begins there, so a call may be paid for by the bytes of its instruction.

* `Globals.codeLimit` — the length of the longest code that a run may reach.
* `Machine.Bounded` — no more frames than may be, and no code longer than the limit.
* `Machine.potential` — the weighted sum.
* `Machine.bounded_of_step`, `Machine.potential_lt_of_step` — a step keeps the one and lowers the
  other. -/

namespace StackLang

open Bytecode (CodeUnit)

/-- The number of bytes of the unit of a global. -/
def Global.codeSize (entry : Global) : Nat :=
  match entry.status.unit? with
  | some unit => unit.code.size
  | none => 0

/-- The length of the longest code among a unit and those of the globals. -/
def Globals.codeLimit (globals : Globals) (unit : CodeUnit) : Nat :=
  (globals.entries.toList.map Global.codeSize).foldr max unit.code.size

theorem le_foldr_max_start (sizes : List Nat) (start : Nat) : start ≤ sizes.foldr max start := by
  induction sizes with
  | nil => exact Nat.le_refl _
  | cons size others inductionHypothesis =>
      exact Nat.le_trans inductionHypothesis (Nat.le_max_right _ _)

theorem le_foldr_max_of_mem {size : Nat} {sizes : List Nat} (listed : size ∈ sizes) (start : Nat) :
    size ≤ sizes.foldr max start := by
  induction listed with
  | head others => exact Nat.le_max_left _ _
  | tail other _ inductionHypothesis =>
      exact Nat.le_trans inductionHypothesis (Nat.le_max_right _ _)

/-- The code of the unit itself is within the limit. -/
theorem Globals.size_le_codeLimit (globals : Globals) (unit : CodeUnit) :
    unit.code.size ≤ globals.codeLimit unit :=
  le_foldr_max_start _ _

/-- The code of every global is within the limit. -/
theorem Globals.size_le_codeLimit_of_unit? {globals : Globals} {slot : Nat} {found : CodeUnit}
    (known : globals.unit? slot = some found) (unit : CodeUnit) :
    found.code.size ≤ globals.codeLimit unit := by
  obtain ⟨entry, present, defined⟩ := Option.bind_eq_some_iff.mp known
  obtain ⟨inside, same⟩ := Array.getElem?_eq_some_iff.mp present
  have listed : entry ∈ globals.entries.toList := by
    rw [← same]
    exact Array.getElem_mem_toList inside
  have counted : entry.codeSize = found.code.size := by
    simp [Global.codeSize, defined]
  rw [← counted]
  exact le_foldr_max_of_mem (List.mem_map_of_mem listed) _

namespace Machine

/-- No more frames than may be, and no code longer than the limit. -/
structure Bounded (limit : Nat) (frames : List Frame) : Prop where
  /-- The number of frames is bounded. -/
  length_le : frames.length ≤ maxFrames
  /-- The lengths of the codes are bounded. -/
  size_le : ∀ frame ∈ frames, frame.unit.code.size ≤ limit

/-- The weight of a byte in a frame above the given number of callers. -/
def weight (limit depth : Nat) : Nat :=
  Nat.pow (limit + 2) (maxFrames - depth)

/-- The bytes that the frames have still to run, with their weights, and one more for the end of
each frame. -/
def potential (limit : Nat) : List Frame → Nat
  | [] => 0
  | frame :: callers =>
      (frame.unit.code.size - frame.offset + 1) * weight limit (callers.length + 1)
        + potential limit callers

theorem weight_pos (limit depth : Nat) : 0 < weight limit depth :=
  Nat.pow_pos (Nat.succ_pos (limit + 1))

/-- A byte of a caller weighs more than a call with code within the limit. -/
theorem weight_eq_mul (limit depth : Nat) (room : depth < maxFrames) :
    weight limit depth = (limit + 2) * weight limit (depth + 1) := by
  have split : maxFrames - depth = (maxFrames - (depth + 1)) + 1 := by omega
  rw [weight, weight, split]
  exact Nat.mul_comm _ _

/-- Every move lowers the potential. -/
theorem Moves.potential_lt {globals : Globals} {limit : Nat} {before after : List Frame}
    (moves : Moves globals before after)
    (small : ∀ slot unit, globals.unit? slot = some unit → unit.code.size ≤ limit) :
    potential limit after < potential limit before := by
  cases moves with
  | @advance frame callers next forward inside =>
      simp only [potential]
      have fewer : frame.unit.code.size - next + 1 < frame.unit.code.size - frame.offset + 1 := by
        omega
      exact Nat.add_lt_add_right (Nat.mul_lt_mul_of_pos_right fewer (weight_pos _ _)) _
  | @enter frame callers next forward inside slot unit known room base =>
      simp only [potential, List.length_cons, Nat.sub_zero]
      -- The instruction is at least one byte of the caller, and that byte outweighs the call.
      have fewer :
          frame.unit.code.size - next + 1 + 1 ≤ frame.unit.code.size - frame.offset + 1 := by
        omega
      have byte := Nat.mul_le_mul_right (weight limit (callers.length + 1)) fewer
      rw [Nat.add_mul (frame.unit.code.size - next + 1) 1, Nat.one_mul] at byte
      have call : (unit.code.size + 1) * weight limit (callers.length + 1 + 1)
          < weight limit (callers.length + 1) := by
        rw [weight_eq_mul limit _ room]
        exact Nat.mul_lt_mul_of_pos_right (Nat.succ_lt_succ (Nat.lt_succ_of_le (small _ _ known)))
          (weight_pos _ _)
      omega
  | @leave frame =>
      simp only [potential]
      have paid : 0 < (frame.unit.code.size - frame.offset + 1) * weight limit (after.length + 1) :=
        Nat.mul_pos (Nat.succ_pos _) (weight_pos _ _)
      omega

/-- Every move keeps the bounds. -/
theorem Moves.bounded {globals : Globals} {limit : Nat} {before after : List Frame}
    (moves : Moves globals before after)
    (small : ∀ slot unit, globals.unit? slot = some unit → unit.code.size ≤ limit)
    (bounded : Bounded limit before) : Bounded limit after := by
  obtain ⟨few, short⟩ := bounded
  cases moves with
  | @advance frame callers next forward inside =>
      refine ⟨few, fun other listed => ?_⟩
      rcases List.mem_cons.mp listed with same | below
      · subst same
        exact short frame List.mem_cons_self
      · exact short other (List.mem_cons_of_mem _ below)
  | @enter frame callers next forward inside slot unit known room base =>
      refine ⟨room, fun other listed => ?_⟩
      rcases List.mem_cons.mp listed with same | below
      · subst same
        exact small _ _ known
      · rcases List.mem_cons.mp below with same | lower
        · subst same
          exact short frame List.mem_cons_self
        · exact short other (List.mem_cons_of_mem _ lower)
  | leave =>
      exact ⟨Nat.le_trans (Nat.le_succ _) few,
        fun other listed => short other (List.mem_cons_of_mem _ listed)⟩

end Machine

end StackLang
