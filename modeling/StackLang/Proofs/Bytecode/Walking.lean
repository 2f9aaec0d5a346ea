import StackLang.Bytecode.Listing

/-! # Walking through code

Three walks go through the bytes of a unit: the listing, the instructions one by one, and the runs
of the unit. All of them start at the first byte, and as long as there is an instruction they go on
behind it.

* `Chain` — the instructions through which decoding goes from one offset to another.
* `exists_chain`, `Chain.exists_behind` — decoding goes on until there is no instruction, in one way
  only.
* `Chain.instructionsFrom_eq`, `Chain.entriesFrom_eq` — the instructions of a unit and its listing
  start with such a chain.
* `entriesFrom_of_error` — the listing goes on behind an offset without an instruction.
* `entriesFrom_goes_on` — what a line of a listing shows, and at which offset the listing goes
  on. -/

namespace StackLang.Bytecode

open Listing (Entry entriesFrom entryAt)

/-- From one offset to another decoding goes through these instructions, each at its offset. -/
inductive Chain (code : Array UInt8) : Nat → List (Nat × Instruction) → Nat → Prop
  /-- No instruction leads from an offset to itself. -/
  | nil (offset : Nat) : Chain code offset [] offset
  /-- An instruction leads to the offset behind it. -/
  | cons {offset next stop : Nat} {instruction : Instruction} {others : List (Nat × Instruction)}
      (hdecode : decodeAt code offset = .ok (instruction, next)) (h : Chain code next others stop) :
      Chain code offset ((offset, instruction) :: others) stop

variable {code : Array UInt8} {start stop : Nat} {lines : List (Nat × Instruction)}

/-- One instruction more. -/
theorem Chain.concat {offset next : Nat} {instruction : Instruction}
    (h : Chain code start lines offset) (hdecode : decodeAt code offset = .ok (instruction, next)) :
    Chain code start (lines ++ [(offset, instruction)]) next := by
  induction h with
  | nil => exact .cons hdecode (.nil next)
  | cons hfirst _ ih => exact .cons hfirst (ih hdecode)

/-- Decoding stays inside the code. -/
theorem Chain.le_size (h : Chain code start lines stop) (hstart : start ≤ code.size) :
    stop ≤ code.size := by
  induction h with
  | nil => exact hstart
  | cons hdecode _ ih => exact ih (bounds_of_decodeAt hdecode).2

/-- At the end of the code there is no instruction. -/
theorem decodeAt_of_size_le {offset : Nat} (h : code.size ≤ offset) :
    decodeAt code offset = .error (.outOfBounds offset) := by
  rw [decodeAt, Array.getElem?_eq_none h]

/-- Decoding goes on until there is no instruction. -/
theorem exists_chain (code : Array UInt8) (start : Nat) :
    ∃ lines stop error, Chain code start lines stop ∧ decodeAt code stop = .error error := by
  cases hdecode : decodeAt code start with
  | error error => exact ⟨[], start, error, .nil start, hdecode⟩
  | ok found =>
      obtain ⟨instruction, next⟩ := found
      have hbounds := bounds_of_decodeAt hdecode
      obtain ⟨lines, stop, error, hchain, herror⟩ := exists_chain code next
      exact ⟨_, stop, error, .cons hdecode hchain, herror⟩
termination_by code.size - start
decreasing_by omega

/-- What leads from an offset to another is the first part of what leads to the offset at which
there is no instruction. -/
theorem Chain.exists_behind {offset : Nat} {all : List (Nat × Instruction)} {error : DecodeError}
    (h : Chain code start lines offset) (hall : Chain code start all stop)
    (herror : decodeAt code stop = .error error) :
    ∃ others, all = lines ++ others ∧ Chain code offset others stop := by
  induction h generalizing all with
  | nil => exact ⟨all, rfl, hall⟩
  | cons hdecode _ ih =>
      cases hall with
      | nil =>
          rw [hdecode] at herror
          cases herror
      | cons hfirst hothers =>
          rw [hdecode] at hfirst
          cases hfirst
          obtain ⟨others, rfl, hbehind⟩ := ih hothers
          exact ⟨others, rfl, hbehind⟩

/-- The instruction at the offset to which some instructions lead is the next one of the chain. -/
theorem Chain.getElem?_length {offset : Nat} {all : List (Nat × Instruction)} {error : DecodeError}
    (h : Chain code start lines offset) (hall : Chain code start all stop)
    (herror : decodeAt code stop = .error error) :
    all[lines.length]?
        = (match decodeAt code offset with
          | .ok (instruction, _) => some (offset, instruction)
          | .error _ => none)
      ∧ (all.map Prod.fst ++ [stop])[lines.length]? = some offset := by
  obtain ⟨others, rfl, hbehind⟩ := h.exists_behind hall herror
  have hlength : (lines.map Prod.fst).length = lines.length := List.length_map _
  rw [List.getElem?_append_right (Nat.le_refl _), Nat.sub_self, List.map_append, List.append_assoc,
    List.getElem?_append_right (hlength ▸ Nat.le_refl _), hlength, Nat.sub_self]
  cases hbehind with
  | nil =>
      rw [herror]
      exact ⟨rfl, rfl⟩
  | cons hdecode _ =>
      rw [hdecode]
      exact ⟨rfl, rfl⟩

/-! ## The instructions of a unit -/

theorem instructionsFrom_of_ok {offset next : Nat} {instruction : Instruction}
    (h : decodeAt code offset = .ok (instruction, next)) :
    instructionsFrom code offset = .ok instruction :: instructionsFrom code next := by
  have hbounds := bounds_of_decodeAt h
  rw [instructionsFrom, dif_pos (Nat.lt_of_lt_of_le hbounds.1 hbounds.2)]
  split
  · next hdecode =>
      rw [h] at hdecode
      cases hdecode
      rfl
  · next hdecode =>
      rw [h] at hdecode
      cases hdecode

theorem instructionsFrom_of_error {offset : Nat} {error : DecodeError}
    (hinside : offset < code.size)
    (h : decodeAt code offset = .error error) : instructionsFrom code offset = [.error error] := by
  rw [instructionsFrom, dif_pos hinside]
  split
  · next hdecode =>
      rw [h] at hdecode
      cases hdecode
  · next hdecode =>
      rw [h] at hdecode
      cases hdecode
      rfl

theorem instructionsFrom_size : instructionsFrom code code.size = [] := by
  rw [instructionsFrom, dif_neg (Nat.lt_irrefl _)]

/-- The instructions from an offset on start with those of a chain. -/
theorem Chain.instructionsFrom_eq (h : Chain code start lines stop) :
    instructionsFrom code start
      = lines.map (fun line => .ok line.2) ++ instructionsFrom code stop := by
  induction h with
  | nil => rfl
  | cons hdecode _ ih =>
      rw [instructionsFrom_of_ok hdecode, ih]
      rfl

/-! ## The listing -/

/-- The line of a listing that shows an instruction at its offset. -/
def Listing.Entry.ofLine (line : Nat × Instruction) : Entry :=
  ⟨line.1, .ok line.2⟩

theorem entriesFrom_of_lt {offset : Nat} (h : offset < code.size) :
    entriesFrom code offset
      = (entryAt code offset).1 :: entriesFrom code (entryAt code offset).2 := by
  rw [entriesFrom, if_pos h]

theorem entriesFrom_of_ok {offset next : Nat} {instruction : Instruction}
    (h : decodeAt code offset = .ok (instruction, next)) :
    entriesFrom code offset = ⟨offset, .ok instruction⟩ :: entriesFrom code next := by
  have hbounds := bounds_of_decodeAt h
  rw [entriesFrom_of_lt (Nat.lt_of_lt_of_le hbounds.1 hbounds.2), entryAt, h]

/-- Where there is no instruction the listing tells why, and goes on at the next byte. -/
theorem entriesFrom_of_error {offset : Nat} {error : DecodeError} (hinside : offset < code.size)
    (h : decodeAt code offset = .error error) :
    entriesFrom code offset = ⟨offset, .error error⟩ :: entriesFrom code (offset + 1) := by
  rw [entriesFrom_of_lt hinside, entryAt, h]

theorem entriesFrom_of_size_le {offset : Nat} (h : code.size ≤ offset) :
    entriesFrom code offset = [] := by
  rw [entriesFrom, if_neg (Nat.not_lt.mpr h)]

/-- The listing from an offset on starts with the instructions of a chain. -/
theorem Chain.entriesFrom_eq (h : Chain code start lines stop) :
    entriesFrom code start = lines.map Entry.ofLine ++ entriesFrom code stop := by
  induction h with
  | nil => rfl
  | cons hdecode _ ih =>
      rw [entriesFrom_of_ok hdecode, ih]
      rfl

/-- Each line of a listing is the one for its offset, which lies inside the code, and the others
follow from the next offset on. -/
theorem entriesFrom_split {start : Nat} {before behind : List Entry} {entry : Entry}
    (h : entriesFrom code start = before ++ entry :: behind) :
    start ≤ entry.offset ∧ entry.offset < code.size ∧ entry = (entryAt code entry.offset).1
      ∧ behind = entriesFrom code (entryAt code entry.offset).2 := by
  rcases Nat.lt_or_ge start code.size with hinside | hend
  · have hoffset : (entryAt code start).1.offset = start := by
      rw [entryAt]
      split <;> rfl
    rw [entriesFrom_of_lt hinside] at h
    cases before with
    | nil =>
        obtain ⟨rfl, rfl⟩ := List.cons.inj h
        rw [hoffset]
        exact ⟨Nat.le_refl _, hinside, rfl, rfl⟩
    | cons first before =>
        have hforward := Listing.lt_entryAt code start
        obtain ⟨hafter, hothers⟩ := entriesFrom_split (List.cons.inj h).2
        exact ⟨Nat.le_trans (Nat.le_of_lt hforward) hafter, hothers⟩
  · rw [entriesFrom_of_size_le hend] at h
    cases List.append_eq_nil_iff.mp h.symm |>.2

/-- A line shows the instruction at its offset, and the listing goes on behind it; or it shows that
there is none, and the listing goes on at the next byte. -/
theorem entriesFrom_goes_on {before behind : List Entry} {entry : Entry}
    (h : entriesFrom code start = before ++ entry :: behind) :
    (∃ instruction next, decodeAt code entry.offset = .ok (instruction, next)
        ∧ entry.content = .ok instruction ∧ behind = entriesFrom code next)
      ∨ ∃ error, decodeAt code entry.offset = .error error
        ∧ entry.content = .error error ∧ behind = entriesFrom code (entry.offset + 1) := by
  obtain ⟨-, -, hentry, hbehind⟩ := entriesFrom_split h
  rw [entryAt] at hentry hbehind
  cases hdecode : decodeAt code entry.offset with
  | ok found =>
      rw [hdecode] at hentry hbehind
      exact .inl ⟨found.1, found.2, rfl, congrArg Entry.content hentry, hbehind⟩
  | error error =>
      rw [hdecode] at hentry hbehind
      exact .inr ⟨error, rfl, congrArg Entry.content hentry, hbehind⟩

/-- The lines of a listing stand inside the code from where it starts. -/
theorem bounds_of_mem_entriesFrom {entry : Entry} (h : entry ∈ entriesFrom code start) :
    start ≤ entry.offset ∧ entry.offset < code.size ∧ entry = (entryAt code entry.offset).1 := by
  obtain ⟨before, behind, hsplit⟩ := List.append_of_mem h
  obtain ⟨hstart, hinside, hshown, -⟩ := entriesFrom_split hsplit
  exact ⟨hstart, hinside, hshown⟩

/-- The offsets of a listing increase from line to line. -/
theorem entriesFrom_pairwise (code : Array UInt8) (start : Nat) :
    (entriesFrom code start).Pairwise fun first second => first.offset < second.offset := by
  rcases Nat.lt_or_ge start code.size with hinside | hend
  · have hforward := Listing.lt_entryAt code start
    have hoffset : (entryAt code start).1.offset = start := by
      rw [entryAt]
      split <;> rfl
    rw [entriesFrom_of_lt hinside]
    refine List.pairwise_cons.mpr ⟨fun entry hmem => ?_, entriesFrom_pairwise code _⟩
    rw [hoffset]
    exact Nat.lt_of_lt_of_le hforward (bounds_of_mem_entriesFrom hmem).1
  · rw [entriesFrom_of_size_le hend]
    exact .nil
termination_by code.size - start
decreasing_by omega

/-- So a listing has at most as many lines as the code has bytes. -/
theorem length_entriesFrom_le (code : Array UInt8) (start : Nat) :
    (entriesFrom code start).length ≤ code.size - start := by
  rcases Nat.lt_or_ge start code.size with hinside | hend
  · have hforward := Listing.lt_entryAt code start
    have hothers := length_entriesFrom_le code (entryAt code start).2
    rw [entriesFrom_of_lt hinside, List.length_cons]
    omega
  · rw [entriesFrom_of_size_le hend]
    exact Nat.zero_le _
termination_by code.size - start
decreasing_by omega

/-- The text of a listing has a line for each entry, the one for its offset. -/
theorem CodeUnit.listing_eq (unit : CodeUnit) :
    unit.listing = "== " ++ unit.displayName ++ " ==\n"
      ++ String.join ((entriesFrom unit.code 0).map fun entry =>
        unit.lineAt entry.offset ++ "\n") := by
  have hlines : (entriesFrom unit.code 0).map (fun entry => entry.text unit.constants ++ "\n")
      = (entriesFrom unit.code 0).map fun entry => unit.lineAt entry.offset ++ "\n" := by
    refine List.map_congr_left fun entry hmem => ?_
    have hshown := (bounds_of_mem_entriesFrom hmem).2.2
    rw [lineAt, ← hshown]
  rw [listing, hlines]

end StackLang.Bytecode
