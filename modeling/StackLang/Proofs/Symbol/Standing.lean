import Mathlib
import StackLang.Symbol.Shared

/-! # What shared symbols stand for

A symbol that is held is an address, and it stands for a spelling of one table. In sound tables it
stands for no other, and nothing else stands for this one; so addresses tell symbols apart just as
the number of the table together with the spelling does.

* `Tables.StandsFor` — a symbol that is held, and the table and the spelling that it stands for.
* `Tables.Sound` — what all tables keep.
* `Tables.Sound.eq_iff` — when two symbols that are held are the same.
* `Tables.intern_cases` — the two ways in which a table answers.
* `Tables.StandsFor.intern`, `Tables.Sound.intern` — what one answer keeps.
* `Tables.view` — a table by its spellings alone. -/

namespace StackLang.Shared.Tables

/-! ## Sound tables -/

/-- The symbols that the table of the given number has handed out. -/
def entries (tables : Tables) (number : Nat) : List Handle :=
  (tables.table number).entries

/-- What is held stands for the symbol: its table has handed it out, and the spelling is written
there. -/
def StandsFor (tables : Tables) (handle : Handle) (symbol : Symbol) : Prop :=
  handle ∈ tables.entries symbol.table ∧ tables.name? handle = some symbol.name

/-- What all tables keep. -/
structure Sound (tables : Tables) : Prop where
  /-- All that was handed out is written. -/
  written : ∀ number, ∀ handle ∈ tables.entries number, (tables.name? handle).isSome
  /-- No table has handed out two symbols for one spelling. -/
  single : ∀ number, ((tables.entries number).map tables.name?).Nodup
  /-- No two tables have handed out the same symbol. -/
  apart : ∀ {first second handle}, handle ∈ tables.entries first →
    handle ∈ tables.entries second → first = second

theorem sound_empty : empty.Sound where
  written _ _ h := absurd h List.not_mem_nil
  single _ := List.nodup_nil
  apart h _ := absurd h List.not_mem_nil

variable {tables : Tables} {handle : Handle}

/-- What is held stands for one symbol at most. -/
theorem Sound.symbol_eq (hsound : tables.Sound) {first second : Symbol}
    (hfirst : tables.StandsFor handle first) (hsecond : tables.StandsFor handle second) :
    first = second := by
  have htable := hsound.apart hfirst.1 hsecond.1
  have hname : first.name = second.name := Option.some.inj (hfirst.2.symm.trans hsecond.2)
  exact congrArg₂ Symbol.mk htable hname

/-- One symbol at most is held for a spelling of a table. -/
theorem Sound.handle_eq (hsound : tables.Sound) {symbol : Symbol} {first second : Handle}
    (hfirst : tables.StandsFor first symbol) (hsecond : tables.StandsFor second symbol) :
    first = second :=
  List.inj_on_of_nodup_map (hsound.single symbol.table) hfirst.1 hsecond.1
    (hfirst.2.trans hsecond.2.symm)

/-- Addresses tell symbols apart just as tables and spellings do. -/
theorem Sound.eq_iff (hsound : tables.Sound) {first second : Handle} {symbol other : Symbol}
    (hfirst : tables.StandsFor first symbol) (hsecond : tables.StandsFor second other) :
    first = second ↔ symbol = other := by
  constructor
  · rintro rfl
    exact hsound.symbol_eq hfirst hsecond
  · rintro rfl
    exact hsound.handle_eq hfirst hsecond

/-! ## One answer -/

/-- A spelling is written for a table that has not met it. -/
structure Meets (tables : Tables) (number : Nat) (spelling : String) (handle : Handle)
    (behind : Tables) : Prop where
  /-- No symbol of the table stands for the spelling. -/
  new : ∀ other, ¬ tables.StandsFor other ⟨number, spelling⟩
  /-- Nothing was written at the address. -/
  free : tables.name? handle = none
  /-- Now the spelling is, and nothing else changes in memory. -/
  name?_eq : ∀ other, behind.name? other
    = if other = handle then some spelling else tables.name? other
  /-- The table hands out the symbol, and the other tables stay as they are. -/
  entries_eq : ∀ other, behind.entries other
    = if other = number then handle :: tables.entries other else tables.entries other

variable (allocator : Allocator) {number : Nat} {spelling : String}

/-- A table that finds an entry answers with it, and all stays as it was. -/
theorem intern_of_find?_some {entry : Handle}
    (h : ((tables.entries number).find? fun entry => tables.name? entry = some spelling)
      = some entry) :
    tables.intern allocator number spelling = (entry, tables) := by
  -- The table that was asked is put back where it was.
  have hsame : (fun other => if other = number then tables.table number else tables.table other)
      = tables.table := by
    funext other
    split <;> simp [*]
  have hintern : (tables.table number).intern allocator tables.memory spelling
      = (entry, tables.memory, tables.table number) := by
    unfold entries name? at h
    rw [Table.intern, h]
  rw [intern, hintern]
  exact congrArg (fun table => (entry, Tables.mk tables.memory table)) hsame

/-- A table that finds none writes the spelling, and answers with the address. -/
theorem meets_of_find?_none
    (h : ((tables.entries number).find? fun entry => tables.name? entry = some spelling) = none) :
    tables.Meets number spelling (tables.intern allocator number spelling).1
      (tables.intern allocator number spelling).2 := by
  have hintern : (tables.table number).intern allocator tables.memory spelling
      = ((tables.memory.write allocator spelling).1, (tables.memory.write allocator spelling).2,
        ⟨(tables.memory.write allocator spelling).1 :: tables.entries number⟩) := by
    unfold entries name? at h
    rw [Table.intern, h]
    rfl
  rw [intern, hintern]
  constructor
  case new =>
    intro other hother
    exact List.find?_eq_none.mp h other hother.1 (decide_eq_true hother.2)
  case free => exact Memory.read?_free allocator tables.memory spelling
  case name?_eq => exact Memory.read?_write allocator tables.memory spelling
  case entries_eq =>
    intro other
    by_cases hother : other = number
    · simp [entries, hother]
    · simp [entries, hother]

/-- A table answers with the symbol that stands for the spelling already, and then nothing changes,
or else with one for which the spelling is written. -/
theorem intern_cases (tables : Tables) (number : Nat) (spelling : String) :
    (tables.StandsFor (tables.intern allocator number spelling).1 ⟨number, spelling⟩
        ∧ (tables.intern allocator number spelling).2 = tables)
      ∨ tables.Meets number spelling (tables.intern allocator number spelling).1
          (tables.intern allocator number spelling).2 := by
  cases hfind : (tables.entries number).find? fun entry => tables.name? entry = some spelling with
  | some entry =>
      rw [intern_of_find?_some allocator hfind]
      have hname : tables.name? entry = some spelling := by simpa using List.find?_some hfind
      exact .inl ⟨⟨List.mem_of_find?_eq_some hfind, hname⟩, rfl⟩
  | none => exact .inr (meets_of_find?_none allocator hfind)

namespace Meets

variable {behind : Tables} (h : tables.Meets number spelling handle behind)
include h

/-- The new symbol stands for the spelling. -/
theorem standsFor_handle : behind.StandsFor handle ⟨number, spelling⟩ := by
  refine ⟨?_, ?_⟩
  · rw [h.entries_eq, if_pos rfl]
    exact List.mem_cons_self
  · rw [h.name?_eq, if_pos rfl]

theorem mem_entries_iff {other : Handle} {asked : Nat} :
    other ∈ behind.entries asked
      ↔ (asked = number ∧ other = handle) ∨ other ∈ tables.entries asked := by
  rw [h.entries_eq]
  by_cases hasked : asked = number
  · simp [hasked]
  · simp [hasked]

/-- What is written stays as it was. -/
theorem name?_of_isSome {other : Handle} (hother : (tables.name? other).isSome) :
    behind.name? other = tables.name? other := by
  rw [h.name?_eq, if_neg]
  rintro rfl
  rw [h.free] at hother
  cases hother

/-- A symbol that was not written was not handed out. -/
theorem notMem_entries (hsound : tables.Sound) (asked : Nat) : handle ∉ tables.entries asked := by
  intro hmem
  have hwritten := hsound.written asked handle hmem
  rw [h.free] at hwritten
  cases hwritten

theorem map_name?_entries (hsound : tables.Sound) (asked : Nat) :
    (tables.entries asked).map behind.name? = (tables.entries asked).map tables.name? :=
  List.map_congr_left fun other hother => h.name?_of_isSome (hsound.written asked other hother)

theorem sound (hsound : tables.Sound) : behind.Sound where
  written asked other hother := by
    rcases h.mem_entries_iff.mp hother with ⟨-, rfl⟩ | hbefore
    · rw [h.standsFor_handle.2]
      rfl
    · have hwritten := hsound.written asked other hbefore
      rwa [h.name?_of_isSome hwritten]
  single asked := by
    rw [h.entries_eq]
    split
    · next hasked =>
        -- The table has no symbol for the spelling yet, so the new one is the only one.
        rw [List.map_cons, h.map_name?_entries hsound, h.standsFor_handle.2, List.nodup_cons]
        refine ⟨fun hmem => ?_, hsound.single asked⟩
        obtain ⟨other, hother, hname⟩ := List.mem_map.mp hmem
        exact h.new other ⟨hasked ▸ hother, hname⟩
    · rw [h.map_name?_entries hsound]
      exact hsound.single asked
  apart {first second other} hfirst hsecond := by
    -- The new symbol is in the table that was asked only; all others are where they were.
    rcases h.mem_entries_iff.mp hfirst with ⟨hfirst, rfl⟩ | hfirst
    · rcases h.mem_entries_iff.mp hsecond with ⟨hsecond, -⟩ | hsecond
      · exact hfirst.trans hsecond.symm
      · exact absurd hsecond (h.notMem_entries hsound second)
    · rcases h.mem_entries_iff.mp hsecond with ⟨-, rfl⟩ | hsecond
      · exact absurd hfirst (h.notMem_entries hsound first)
      · exact hsound.apart hfirst hsecond

end Meets

variable (number : Nat) (spelling : String)

/-- The answer stands for the spelling of the table that was asked. -/
theorem standsFor_intern (tables : Tables) :
    (tables.intern allocator number spelling).2.StandsFor
      (tables.intern allocator number spelling).1 ⟨number, spelling⟩ := by
  rcases intern_cases allocator tables number spelling with ⟨hstands, hsame⟩ | hmeets
  · rwa [hsame]
  · exact hmeets.standsFor_handle

/-- What is held stands for the same symbol after every answer. -/
theorem StandsFor.intern {symbol : Symbol} (h : tables.StandsFor handle symbol) :
    (tables.intern allocator number spelling).2.StandsFor handle symbol := by
  rcases intern_cases allocator tables number spelling with ⟨-, hsame⟩ | hmeets
  · rwa [hsame]
  · have hwritten : (tables.name? handle).isSome := by
      rw [h.2]
      rfl
    exact ⟨hmeets.mem_entries_iff.mpr (.inr h.1), (hmeets.name?_of_isSome hwritten).trans h.2⟩

/-- Every answer keeps the tables sound. -/
theorem Sound.intern (h : tables.Sound) : (tables.intern allocator number spelling).2.Sound := by
  rcases intern_cases allocator tables number spelling with ⟨-, hsame⟩ | hmeets
  · rwa [hsame]
  · exact hmeets.sound h

/-! ## A table by its spellings -/

/-- The table of the given number, as a table that keeps spellings instead of addresses. -/
def view (tables : Tables) (asked : Nat) : Interner :=
  ⟨asked, (tables.entries asked).filterMap tables.name?⟩

theorem mem_spellings_view {asked : Nat} {text : String} :
    text ∈ (tables.view asked).spellings ↔ ∃ held, tables.StandsFor held ⟨asked, text⟩ :=
  List.mem_filterMap

/-- All that was handed out is written, so there are as many spellings as symbols. -/
theorem Sound.map_name?_eq (h : tables.Sound) (asked : Nat) :
    (tables.entries asked).map tables.name? = (tables.view asked).spellings.map some := by
  rw [view, List.map_filterMap_some_eq_filter_map_isSome]
  refine (List.filter_eq_self.mpr fun name hname => ?_).symm
  obtain ⟨held, hheld, rfl⟩ := List.mem_map.mp hname
  exact h.written asked held hheld

theorem Sound.size_view (h : tables.Sound) (asked : Nat) :
    (tables.view asked).size = tables.size asked := by
  have hlength := congrArg List.length (h.map_name?_eq asked)
  rw [List.length_map, List.length_map] at hlength
  exact hlength.symm

theorem Sound.nodup_spellings (h : tables.Sound) (asked : Nat) :
    (tables.view asked).spellings.Nodup := by
  have hsingle := h.single asked
  rw [h.map_name?_eq] at hsingle
  exact hsingle.of_map some

/-- An answer is seen as the table that was asked meeting the spelling. -/
theorem Sound.view_intern (h : tables.Sound) (asked : Nat) :
    (tables.intern allocator number spelling).2.view asked
      = if asked = number then (tables.view asked).meet spelling else tables.view asked := by
  rcases intern_cases allocator tables number spelling with ⟨hstands, hsame⟩ | hmeets
  · rw [hsame]
    split
    · next hasked =>
        have hknown : spelling ∈ (tables.view asked).spellings :=
          mem_spellings_view.mpr ⟨_, hasked ▸ hstands⟩
        rw [Interner.meet, if_pos hknown]
    · rfl
  · have hothers : (tables.entries asked).filterMap
        (tables.intern allocator number spelling).2.name?
          = (tables.entries asked).filterMap tables.name? :=
      List.filterMap_congr fun other hother =>
        hmeets.name?_of_isSome (h.written asked other hother)
    rw [view, hmeets.entries_eq]
    split
    · next hasked =>
        have hnew : spelling ∉ (tables.view asked).spellings := by
          rw [mem_spellings_view]
          rintro ⟨held, hheld⟩
          exact hmeets.new held (hasked ▸ hheld)
        rw [Interner.meet, if_neg hnew, List.filterMap_cons_some hmeets.standsFor_handle.2, hothers]
        rfl
    · rw [hothers]
      rfl

end StackLang.Shared.Tables
