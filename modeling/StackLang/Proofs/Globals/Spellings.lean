import Mathlib.Logic.Basic
import StackLang.Proofs.Globals.Table

/-! # Names found by their spelling

Names of several tables of symbols may have one spelling; the spelling finds the one of them that
comes first. Tables that have grown from one table by names of one table of symbols find the same
name: the old names come in the old order and before the new ones, and of the new ones no two are
spelled alike.

* `Globals.Distinct.find?_eq_some_iff` — which name a spelling finds.
* `Globals.Grows` — a table with further names of one table of symbols.
* `Globals.Grows.rel_find?` — tables that have grown from one table find the same name. -/

namespace StackLang.Globals

variable {globals first second : Globals}

/-- If no name has two slots, the names that resolve are those of the live globals. -/
theorem Distinct.resolve?_eq_some_iff_global? (h : globals.Distinct) {name : Symbol} {slot : Nat} :
    globals.resolve? name = some slot
      ↔ ∃ entry, globals.global? slot = some entry ∧ entry.name = name ∧ entry.status.isLive := by
  rw [h.resolve?_eq_some_iff]
  constructor
  · rintro ⟨hslot, status, hstatus, hlive⟩
    obtain ⟨found, hentry, hfound⟩ := global?_of_slot? hslot
    rw [hstatus, Option.some.injEq] at hfound
    exact ⟨_, hentry, rfl, hfound ▸ hlive⟩
  · rintro ⟨entry, hentry, rfl, hlive⟩
    have hslot := h.slot?_of_global? hentry
    obtain ⟨status, hfound, hstatus⟩ := global?_of_slot? hslot
    rw [hentry, Option.some.injEq] at hfound
    refine ⟨hslot, status, hstatus, ?_⟩
    rw [hfound] at hlive
    exact hlive

/-- If no name has two slots, a spelling finds the first of the names that resolve and have it. -/
theorem Distinct.find?_eq_some_iff (h : globals.Distinct) {spelling : String} {slot : Nat} :
    globals.find? spelling = some slot
      ↔ (∃ name, name.name = spelling ∧ globals.resolve? name = some slot)
        ∧ ∀ other place, other.name = spelling → globals.resolve? other = some place →
            slot ≤ place := by
  rw [find?, Array.findIdx?_eq_some_iff_getElem]
  constructor
  · rintro ⟨hlt, hfound, hfirst⟩
    obtain ⟨hname, hlive⟩ := Bool.and_eq_true_iff.mp hfound
    refine ⟨⟨_, of_decide_eq_true hname, h.resolve?_eq_some_iff_global?.mpr
      ⟨_, Array.getElem?_eq_getElem hlt, rfl, hlive⟩⟩, ?_⟩
    intro other place hother hresolve
    obtain ⟨entry, hentry, rfl, hentryLive⟩ := h.resolve?_eq_some_iff_global?.mp hresolve
    obtain ⟨_, rfl⟩ := Array.getElem?_eq_some_iff.mp hentry
    refine Nat.le_of_not_lt fun hearlier => hfirst place hearlier ?_
    rw [Bool.and_eq_true_iff, decide_eq_true_eq]
    exact ⟨hother, hentryLive⟩
  · rintro ⟨⟨name, hname, hresolve⟩, hleast⟩
    obtain ⟨entry, hentry, rfl, hlive⟩ := h.resolve?_eq_some_iff_global?.mp hresolve
    obtain ⟨hlt, rfl⟩ := Array.getElem?_eq_some_iff.mp hentry
    refine ⟨hlt, ?_, ?_⟩
    · rw [Bool.and_eq_true_iff, decide_eq_true_eq]
      exact ⟨hname, hlive⟩
    · intro earlier hearlier hfound
      rw [Bool.and_eq_true_iff, decide_eq_true_eq] at hfound
      have hearlierLt := Nat.lt_trans hearlier hlt
      have hle := hleast _ earlier hfound.1 (h.resolve?_eq_some_iff_global?.mpr
        ⟨_, Array.getElem?_eq_getElem hearlierLt, rfl, hfound.2⟩)
      exact Nat.not_lt_of_le hle hearlier

/-- If no name has two slots, a spelling finds nothing just if no name with it resolves. -/
theorem Distinct.find?_eq_none_iff (h : globals.Distinct) {spelling : String} :
    globals.find? spelling = none
      ↔ ∀ name, name.name = spelling → (globals.resolve? name).isSome = false := by
  rw [find?, Array.findIdx?_eq_none_iff]
  constructor
  · intro hnone name hname
    refine Bool.eq_false_iff.mpr fun hsome => ?_
    obtain ⟨slot, hresolve⟩ := Option.isSome_iff_exists.mp hsome
    obtain ⟨entry, hentry, rfl, hlive⟩ := h.resolve?_eq_some_iff_global?.mp hresolve
    have hother := hnone entry (Array.mem_of_getElem? hentry)
    rw [hlive, hname] at hother
    simp at hother
  · intro hnone entry hmem
    obtain ⟨slot, hlt, rfl⟩ := Array.mem_iff_getElem.mp hmem
    refine Bool.eq_false_iff.mpr fun hfound => ?_
    rw [Bool.and_eq_true_iff, decide_eq_true_eq] at hfound
    have hresolve := h.resolve?_eq_some_iff_global?.mpr
      ⟨_, Array.getElem?_eq_getElem hlt, rfl, hfound.2⟩
    have hother := hnone _ hfound.1
    rw [hresolve] at hother
    cases hother

/-! ## Tables that have grown -/

/-- A table with further names, which belong to one table of symbols. -/
structure Grows (table : Nat) (globals grown : Globals) : Prop where
  /-- A name keeps its slot. -/
  slot?_eq : ∀ {name : Symbol} {slot : Nat}, globals.slot? name = some slot →
    grown.slot? name = some slot
  /-- The further names belong to the table of symbols. -/
  table_eq : ∀ {name : Symbol} {slot : Nat}, globals.slot? name = none →
    grown.slot? name = some slot → name.table = table

variable {table : Nat}

/-- Slots count the names before them. -/
theorem lt_size_of_slot? {name : Symbol} {slot : Nat} (h : globals.slot? name = some slot) :
    slot < globals.entries.size :=
  (Array.findIdx?_eq_some_iff_getElem.mp h).1

/-- A slot below the size belongs to some name. -/
theorem Distinct.exists_slot? (h : globals.Distinct) {slot : Nat}
    (hlt : slot < globals.entries.size) : ∃ name, globals.slot? name = some slot :=
  ⟨_, h.slot?_of_global? (Array.getElem?_eq_getElem hlt)⟩

/-- The further names come behind the others. -/
theorem Grows.size_le {grown : Globals} (h : Grows table globals grown)
    (hdistinct : globals.Distinct) {name : Symbol} {slot : Nat}
    (hnone : globals.slot? name = none) (hslot : grown.slot? name = some slot) :
    globals.entries.size ≤ slot := by
  refine Nat.le_of_not_lt fun hlt => ?_
  obtain ⟨other, hother⟩ := hdistinct.exists_slot? hlt
  rw [slot?_inj hslot (h.slot?_eq hother), hother] at hnone
  cases hnone

/-- If two tables have grown from one, names that are spelled alike come in the same order. -/
theorem Grows.lt_of_lt (hdistinct : globals.Distinct) (hfirst : Grows table globals first)
    (hsecond : Grows table globals second) {name other : Symbol} (hspelling : name.name = other.name)
    {left right left' right' : Nat} (hleft : first.slot? name = some left)
    (hright : first.slot? other = some right) (hleft' : second.slot? name = some left')
    (hright' : second.slot? other = some right') (hlt : left < right) : left' < right' := by
  cases hname : globals.slot? name with
  | some old =>
      cases (hfirst.slot?_eq hname).symm.trans hleft
      cases (hsecond.slot?_eq hname).symm.trans hleft'
      cases hother : globals.slot? other with
      | some place =>
          cases (hfirst.slot?_eq hother).symm.trans hright
          cases (hsecond.slot?_eq hother).symm.trans hright'
          exact hlt
      | none =>
          exact Nat.lt_of_lt_of_le (lt_size_of_slot? hname)
            (hsecond.size_le hdistinct hother hright')
  | none =>
      -- The other name is further too, and is then the same one.
      have hle := hfirst.size_le hdistinct hname hleft
      cases hother : globals.slot? other with
      | some place =>
          cases (hfirst.slot?_eq hother).symm.trans hright
          exact absurd (Nat.lt_trans hlt (lt_size_of_slot? hother)) (Nat.not_lt_of_le hle)
      | none =>
          have htable := (hfirst.table_eq hname hleft).trans (hfirst.table_eq hother hright).symm
          have hsame : name = other := congrArg₂ Symbol.mk htable hspelling
          cases hleft.symm.trans (hsame ▸ hright)
          exact absurd hlt (Nat.lt_irrefl _)

/-- If two tables have grown from one and the same names resolve in them, a spelling finds the same
name. -/
theorem Grows.rel_find? (hdistinct : globals.Distinct) (hfirst : Grows table globals first)
    (hsecond : Grows table globals second) (hfirstDistinct : first.Distinct)
    (hsecondDistinct : second.Distinct)
    (hlive : ∀ name, (first.resolve? name).isSome = (second.resolve? name).isSome)
    (spelling : String) :
    Option.Rel (fun left right => ∃ name, first.slot? name = some left
        ∧ second.slot? name = some right)
      (first.find? spelling) (second.find? spelling) := by
  cases hleft : first.find? spelling with
  | none =>
      have hnone : second.find? spelling = none := by
        rw [hsecondDistinct.find?_eq_none_iff]
        intro name hname
        rw [← hlive]
        exact hfirstDistinct.find?_eq_none_iff.mp hleft name hname
      rw [hnone]
      exact .none
  | some left =>
      obtain ⟨⟨name, rfl, hresolve⟩, hleast⟩ := hfirstDistinct.find?_eq_some_iff.mp hleft
      have hslot := (hfirstDistinct.resolve?_eq_some_iff.mp hresolve).1
      obtain ⟨right, hresolve'⟩ := Option.isSome_iff_exists.mp
        ((hlive name).symm.trans (by rw [hresolve]; rfl))
      have hslot' := (hsecondDistinct.resolve?_eq_some_iff.mp hresolve').1
      have hright : second.find? name.name = some right := by
        refine hsecondDistinct.find?_eq_some_iff.mpr ⟨⟨name, rfl, hresolve'⟩, ?_⟩
        -- A name before it in the second table would be before it in the first one.
        intro other place hother hplace
        have hotherSlot := (hsecondDistinct.resolve?_eq_some_iff.mp hplace).1
        obtain ⟨old, hold⟩ := Option.isSome_iff_exists.mp
          ((hlive other).trans (by rw [hplace]; rfl))
        refine Nat.le_of_not_lt fun hlt => ?_
        exact Nat.not_lt_of_le (hleast other old hother hold)
          (hsecond.lt_of_lt hdistinct hfirst hother hotherSlot hslot'
            (hfirstDistinct.resolve?_eq_some_iff.mp hold).1 hslot hlt)
      rw [hright]
      exact .some ⟨name, hslot, hslot'⟩

end StackLang.Globals
