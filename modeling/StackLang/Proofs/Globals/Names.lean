import StackLang.Proofs.Globals.Table

/-! # Tables as maps with an order

If no name has two slots, a table is nothing but the map that it is read as: the names in their
order settle the slots, and with the statuses of the names the whole table. So operations commute
where they lead to the same order and the same statuses.

* `Globals.Distinct.eq` — the same names in the same order and the same statuses are the same table.
* `Globals.names_declare`, `Globals.names_define` — the names of a table after an operation.
* `Globals.Distinct.declare_define` — a name may be declared before or after another one is given a
  unit. -/

namespace StackLang.Globals

open Bytecode (CodeUnit)

variable {first second globals : Globals}

/-- If no name has two slots, a global stands in the slot of its name, with its status. -/
theorem Distinct.global?_eq_some_iff (h : globals.Distinct) {slot : Nat} {entry : Global} :
    globals.global? slot = some entry
      ↔ globals.slot? entry.name = some slot ∧ globals.status? entry.name = some entry.status := by
  constructor
  · intro hentry
    have hslot := h.slot?_of_global? hentry
    obtain ⟨status, hfound, hstatus⟩ := global?_of_slot? hslot
    rw [hentry, Option.some.injEq] at hfound
    rw [hstatus, hfound]
    exact ⟨hslot, rfl⟩
  · rintro ⟨hslot, hstatus⟩
    obtain ⟨status, hfound, hsame⟩ := global?_of_slot? hslot
    rw [hstatus] at hsame
    cases hsame
    exact hfound

/-- The same names in the same order and the same statuses are the same table. -/
theorem Distinct.eq (hfirst : first.Distinct) (hsecond : second.Distinct)
    (hnames : first.names = second.names)
    (hstatus : ∀ name, first.status? name = second.status? name) : first = second := by
  have hentries : first.entries = second.entries := by
    apply Array.ext_getElem?
    intro slot
    apply Option.ext
    intro entry
    change first.global? slot = some entry ↔ second.global? slot = some entry
    rw [hfirst.global?_eq_some_iff, hsecond.global?_eq_some_iff, slot?_congr hnames, hstatus]
  exact congrArg Globals.mk hentries

/-- A name that is declared comes behind the others, unless it has a slot already. -/
theorem names_declare (globals : Globals) (name : Symbol) :
    (globals.declare name).2.names
      = if globals.slot? name = none then globals.names.push name else globals.names := by
  unfold declare
  cases globals.slot? name with
  | none => simp [names]
  | some slot =>
      rw [if_neg (Option.some_ne_none slot)]
      dsimp only
      split
      · exact names_setStatus globals slot .declared
      · rfl

/-- A name that has a slot adds no name when it is defined. -/
theorem names_define {name : Symbol} {slot : Nat} (hslot : globals.slot? name = some slot)
    (unit : CodeUnit) : (globals.define name unit).2.names = globals.names := by
  have hdeclare : (globals.declare name).2.names = globals.names := by
    rw [names_declare, hslot, if_neg (Option.some_ne_none slot)]
  exact (names_setStatus _ _ _).trans hdeclare

/-- A name that has a slot keeps it when another one is declared. -/
theorem slot?_declare_of_slot? {name : Symbol} {slot : Nat} (hslot : globals.slot? name = some slot)
    (other : Symbol) : (globals.declare other).2.slot? name = some slot := by
  rw [slot?_declare]
  split
  · next hsame => rw [slotOf_eq, ← hsame, hslot, Option.getD_some]
  · exact hslot

/-- A name may be declared before or after another one, which has a slot, is given a unit. -/
theorem Distinct.declare_define (h : globals.Distinct) {name : Symbol} {slot : Nat}
    (hslot : globals.slot? name = some slot) (unit : CodeUnit) (other : Symbol) :
    ((globals.define name unit).2.declare other).2
      = ((globals.declare other).2.define name unit).2 := by
  have hnames := names_define hslot unit
  refine ((h.define name unit).declare other).eq ((h.declare other).define name unit) ?_ ?_
  · rw [names_define (slot?_declare_of_slot? hslot other), names_declare, names_declare,
      slot?_congr hnames, hnames]
  · intro asked
    rw [status?_declare, status?_define, status?_define, status?_define, status?_declare]
    by_cases hname : asked = name
    · by_cases hother : asked = other
      · -- What has its unit keeps it.
        rw [if_pos hother, if_pos hname, if_pos (hother.symm.trans hname)]
        rfl
      · rw [if_neg hother, if_pos hname, if_pos hname]
    · by_cases hother : asked = other
      · rw [if_pos hother, if_neg hname, if_pos hother, if_neg (hother ▸ hname)]
      · rw [if_neg hother, if_neg hname, if_neg hother, if_neg hname]

end StackLang.Globals
