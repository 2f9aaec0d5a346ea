import StackLang.Globals

/-! # The table of globals as a map

What the table tells of a name is its slot and how far its global has come. Each operation changes
the second for one name, and gives at most that name a slot; a slot once given stays.

* `Globals.status?` — how far the global of a name has come.
* `Globals.Distinct` — no name has two slots.
* `Globals.Distinct.size_eq` — where the same names resolve, as many do.
* `Globals.Reached` — the tables that the operations lead to.
* `Globals.slot?_declare`, `Globals.status?_declare` and so on — the operations, read from the
  map. -/

namespace StackLang

open Bytecode (CodeUnit)

namespace Global.Status

/-- A status after its name has been declared, if the name had one. -/
def declareFrom : Option Status → Status
  | some (.defined unit) => .defined unit
  | _ => .declared

@[simp] theorem isLive_declareFrom (status : Option Status) : (declareFrom status).isLive := by
  match status with
  | none | some .withdrawn | some .declared | some (.defined _) => rfl

@[simp] theorem unit?_defined (unit : CodeUnit) : (defined unit).unit? = some unit := rfl

/-- A global with a unit resolves. -/
theorem isLive_of_unit? {status : Status} {unit : CodeUnit} (h : status.unit? = some unit) :
    status.isLive = true := by
  cases status with
  | withdrawn => cases h
  | declared => cases h
  | defined _ => rfl

end Global.Status

namespace Globals

/-! ## Slots and statuses -/

/-- The names in the order of their slots. -/
def names (globals : Globals) : Array Symbol :=
  globals.entries.map Global.name

/-- How far the global of a name has come, if the name was ever declared. -/
def status? (globals : Globals) (name : Symbol) : Option Global.Status :=
  (globals.slot? name).bind fun slot => (globals.global? slot).map Global.status

/-- No name has two slots. -/
def Distinct (globals : Globals) : Prop :=
  globals.names.toList.Nodup

theorem slot?_eq_names (globals : Globals) (name : Symbol) :
    globals.slot? name = globals.names.findIdx? (· = name) := by
  rw [names, Array.findIdx?_map]
  rfl

/-- The names settle the slots. -/
theorem slot?_congr {first second : Globals} (h : first.names = second.names) (name : Symbol) :
    first.slot? name = second.slot? name := by
  rw [slot?_eq_names, slot?_eq_names, h]

/-- In the slot of a name stands a global with this name. -/
theorem global?_of_slot? {globals : Globals} {name : Symbol} {slot : Nat}
    (h : globals.slot? name = some slot) :
    ∃ status, globals.global? slot = some ⟨name, status⟩ ∧ globals.status? name = some status := by
  obtain ⟨hlt, hname, -⟩ := Array.findIdx?_eq_some_iff_getElem.mp h
  have hentry : globals.global? slot = some globals.entries[slot] :=
    Array.getElem?_eq_getElem hlt
  refine ⟨globals.entries[slot].status, ?_, ?_⟩
  · rw [hentry, ← of_decide_eq_true hname]
  · rw [status?, h, Option.bind_some, hentry, Option.map_some]

/-- Two names have two slots. -/
theorem slot?_inj {globals : Globals} {first second : Symbol} {slot : Nat}
    (hfirst : globals.slot? first = some slot) (hsecond : globals.slot? second = some slot) :
    first = second := by
  obtain ⟨_, h₁, -⟩ := global?_of_slot? hfirst
  obtain ⟨_, h₂, -⟩ := global?_of_slot? hsecond
  rw [h₁] at h₂
  cases h₂
  rfl

theorem slot?_eq_none_iff {globals : Globals} {name : Symbol} :
    globals.slot? name = none ↔ ∀ entry ∈ globals.entries, entry.name ≠ name := by
  simp [slot?, Array.findIdx?_eq_none_iff]

theorem status?_eq_none_iff {globals : Globals} {name : Symbol} :
    globals.status? name = none ↔ globals.slot? name = none := by
  cases h : globals.slot? name with
  | none => simp [status?, h]
  | some slot =>
      obtain ⟨status, -, hstatus⟩ := global?_of_slot? h
      simp [hstatus]

/-- The unit in the slot of a name. -/
theorem unit?_of_slot? {globals : Globals} {name : Symbol} {slot : Nat}
    (h : globals.slot? name = some slot) :
    globals.unit? slot = (globals.status? name).bind Global.Status.unit? := by
  obtain ⟨status, hentry, hstatus⟩ := global?_of_slot? h
  rw [unit?, hentry, hstatus]
  rfl

/-- If no name has two slots, each slot is that of the name in it. -/
theorem Distinct.slot?_of_global? {globals : Globals} (h : globals.Distinct) {slot : Nat}
    {entry : Global} (hentry : globals.global? slot = some entry) :
    globals.slot? entry.name = some slot := by
  obtain ⟨hlt, rfl⟩ := Array.getElem?_eq_some_iff.mp hentry
  refine Array.findIdx?_eq_some_iff_getElem.mpr ⟨hlt, decide_eq_true rfl, ?_⟩
  -- An earlier slot of the name would be a second one.
  intro earlier hearlier hname
  have hne := List.pairwise_iff_getElem.mp h earlier slot
    (by simp [names]; omega) (by simpa [names] using hlt) hearlier
  exact hne (by simpa [names] using hname)

/-- If no name has two slots, a name resolves to its slot once it is live. -/
theorem Distinct.resolve?_eq_some_iff {globals : Globals} (h : globals.Distinct) {name : Symbol}
    {slot : Nat} :
    globals.resolve? name = some slot
      ↔ globals.slot? name = some slot ∧ ∃ status, globals.status? name = some status
          ∧ status.isLive := by
  constructor
  · intro hresolve
    obtain ⟨hlt, hlive, -⟩ := Array.findIdx?_eq_some_iff_getElem.mp hresolve
    obtain ⟨hname, hstatus⟩ := Bool.and_eq_true_iff.mp hlive
    have hname := of_decide_eq_true hname
    have hslot : globals.slot? name = some slot := by
      rw [← hname]
      exact h.slot?_of_global? (Array.getElem?_eq_getElem hlt)
    -- What was found live is what the name tells.
    obtain ⟨status, hentry, hfound⟩ := global?_of_slot? hslot
    have hsame : globals.entries[slot] = ⟨name, status⟩ :=
      Option.some.inj ((Array.getElem?_eq_getElem hlt).symm.trans hentry)
    rw [hsame] at hstatus
    exact ⟨hslot, status, hfound, hstatus⟩
  · rintro ⟨hslot, status, hstatus, hlive⟩
    obtain ⟨found, hentry, hfound⟩ := global?_of_slot? hslot
    obtain ⟨hlt, hsame⟩ := Array.getElem?_eq_some_iff.mp hentry
    obtain ⟨_, _, hfirst⟩ := Array.findIdx?_eq_some_iff_getElem.mp hslot
    rw [hstatus, Option.some.injEq] at hfound
    subst hfound
    refine Array.findIdx?_eq_some_iff_getElem.mpr ⟨hlt, ?_, fun earlier hearlier hboth => ?_⟩
    · simp [hsame, hlive]
    · exact hfirst earlier hearlier (Bool.and_eq_true_iff.mp hboth).1

/-- If no name has two slots, a name resolves just if it is live. -/
theorem Distinct.isSome_resolve? {globals : Globals} (h : globals.Distinct) (name : Symbol) :
    (globals.resolve? name).isSome = true
      ↔ ∃ status, globals.status? name = some status ∧ status.isLive := by
  constructor
  · intro hsome
    obtain ⟨slot, hresolve⟩ := Option.isSome_iff_exists.mp hsome
    exact (h.resolve?_eq_some_iff.mp hresolve).2
  · rintro ⟨status, hstatus, hlive⟩
    have hsome : globals.slot? name ≠ none := by
      intro hnone
      rw [status?_eq_none_iff.mpr hnone] at hstatus
      cases hstatus
    obtain ⟨slot, hslot⟩ := Option.ne_none_iff_exists'.mp hsome
    rw [h.resolve?_eq_some_iff.mpr ⟨hslot, status, hstatus, hlive⟩]
    rfl

/-! ## How many names resolve -/

/-- The names that resolve, in the order of their slots. -/
def liveNames (globals : Globals) : List Symbol :=
  (globals.entries.toList.filter fun entry => entry.status.isLive).map Global.name

theorem length_liveNames (globals : Globals) : globals.liveNames.length = globals.size := by
  rw [liveNames, List.length_map, ← List.countP_eq_length_filter, size, Array.countP_toList]

theorem Distinct.nodup_liveNames {globals : Globals} (h : globals.Distinct) :
    globals.liveNames.Nodup := by
  have hsublist : globals.liveNames.Sublist globals.names.toList := by
    rw [names, Array.toList_map]
    exact List.filter_sublist.map Global.name
  exact h.sublist hsublist

/-- These are the names that have a slot to which they resolve. -/
theorem mem_liveNames_iff {globals : Globals} {name : Symbol} :
    name ∈ globals.liveNames ↔ (globals.resolve? name).isSome := by
  rw [resolve?, Array.findIdx?_isSome, ← Array.any_toList, List.any_eq_true, liveNames,
    List.mem_map]
  simp only [List.mem_filter, Bool.and_eq_true, decide_eq_true_eq]
  exact exists_congr fun entry => ⟨fun ⟨⟨hmem, hlive⟩, hname⟩ => ⟨hmem, hname, hlive⟩,
    fun ⟨hmem, hname, hlive⟩ => ⟨⟨hmem, hlive⟩, hname⟩⟩

/-- Where the same names resolve, as many do. -/
theorem Distinct.size_eq {first second : Globals} (hfirst : first.Distinct)
    (hsecond : second.Distinct)
    (hlive : ∀ name, (first.resolve? name).isSome = (second.resolve? name).isSome) :
    first.size = second.size := by
  rw [← length_liveNames, ← length_liveNames]
  refine ((List.perm_ext_iff_of_nodup hfirst.nodup_liveNames hsecond.nodup_liveNames).mpr
    fun name => ?_).length_eq
  rw [mem_liveNames_iff, mem_liveNames_iff, hlive]
/-! ## The operations -/

theorem names_setStatus (globals : Globals) (slot : Nat) (status : Global.Status) :
    (globals.setStatus slot status).names = globals.names := by
  apply Array.ext
  · simp [names, setStatus]
  · intro index hleft hright
    simp only [names, setStatus, Array.getElem_map, Array.getElem_modify]
    split <;> rfl

@[simp] theorem slot?_setStatus (globals : Globals) (slot : Nat) (status : Global.Status)
    (name : Symbol) : (globals.setStatus slot status).slot? name = globals.slot? name :=
  slot?_congr (names_setStatus globals slot status) name

/-- Setting the status in the slot of a name changes what is told of this name only. -/
theorem status?_setStatus {globals : Globals} {name : Symbol} {slot : Nat}
    (h : globals.slot? name = some slot) (status : Global.Status) (other : Symbol) :
    (globals.setStatus slot status).status? other
      = if other = name then some status else globals.status? other := by
  rw [status?, slot?_setStatus]
  by_cases hother : other = name
  · subst hother
    obtain ⟨found, hentry, -⟩ := global?_of_slot? h
    rw [if_pos rfl, h, Option.bind_some, global?, setStatus, Array.getElem?_modify, if_pos rfl,
      ← global?, hentry]
    rfl
  · rw [if_neg hother, status?]
    cases hslot : globals.slot? other with
    | none => rfl
    | some place =>
        -- Another name has another slot, which is not set.
        have hne : slot ≠ place := fun hsame => hother (slot?_inj hslot (hsame ▸ h))
        rw [Option.bind_some, Option.bind_some, global?, setStatus, Array.getElem?_modify,
          if_neg hne, ← global?]

/-- The table with one more name. -/
theorem slot?_push (globals : Globals) (entry : Global) (name : Symbol) :
    slot? ⟨globals.entries.push entry⟩ name
      = (globals.slot? name).or
          (if entry.name = name then some globals.entries.size else none) := by
  simp [slot?, Array.findIdx?_push]

/-- The slot that a name has, or gets when it is declared. -/
def slotOf (globals : Globals) (name : Symbol) : Nat :=
  (globals.declare name).1

theorem slotOf_eq (globals : Globals) (name : Symbol) :
    globals.slotOf name = (globals.slot? name).getD globals.entries.size := by
  unfold slotOf declare
  cases globals.slot? name with
  | none => rfl
  | some slot =>
      dsimp only
      split <;> rfl

/-- A name that has a slot keeps it when it is declared, and so do all others. -/
theorem slot?_declare (globals : Globals) (name other : Symbol) :
    (globals.declare name).2.slot? other
      = if other = name then some (globals.slotOf name) else globals.slot? other := by
  rw [slotOf_eq]
  unfold declare
  cases hslot : globals.slot? name with
  | none =>
      dsimp only
      rw [slot?_push]
      by_cases hother : other = name
      · subst hother
        rw [if_pos rfl, if_pos rfl, hslot]
        rfl
      · rw [if_neg hother, if_neg (Ne.symm hother), Option.or_none]
  | some slot =>
      have hsame : globals.slot? other
          = if other = name then some slot else globals.slot? other := by
        by_cases hother : other = name
        · rw [if_pos hother, hother, hslot]
        · rw [if_neg hother]
      dsimp only
      split
      · rw [slot?_setStatus]
        exact hsame
      · exact hsame

/-- A name that is declared is live, and keeps its unit if it had one. -/
theorem status?_declare (globals : Globals) (name other : Symbol) :
    (globals.declare name).2.status? other
      = if other = name then some (.declareFrom (globals.status? name))
        else globals.status? other := by
  unfold declare
  cases hslot : globals.slot? name with
  | none =>
      dsimp only
      rw [status?, slot?_push]
      by_cases hother : other = name
      · subst hother
        rw [hslot, if_pos rfl, if_pos rfl, status?_eq_none_iff.mpr hslot]
        simp [global?, Global.Status.declareFrom]
      · rw [if_neg hother, if_neg (Ne.symm hother), Option.or_none, status?]
        cases hplace : globals.slot? other with
        | none => rfl
        | some place =>
            -- The new entry comes behind that of the other name.
            obtain ⟨_, hentry, -⟩ := global?_of_slot? hplace
            obtain ⟨hlt, -⟩ := Array.getElem?_eq_some_iff.mp hentry
            rw [Option.bind_some, Option.bind_some, global?, global?,
              Array.getElem?_push_lt hlt, Array.getElem?_eq_getElem hlt]
  | some slot =>
      obtain ⟨status, hentry, hstatus⟩ := global?_of_slot? hslot
      have hfound : (globals.global? slot).map Global.status = some status := by
        rw [hentry]
        rfl
      dsimp only
      rw [hfound, hstatus]
      -- Only a name that was withdrawn is touched.
      cases status with
      | withdrawn => exact status?_setStatus hslot .declared other
      | declared | defined _ =>
          dsimp only
          by_cases hother : other = name
          · rw [if_pos hother, hother, hstatus]
            rfl
          · rw [if_neg hother]

/-- Defining a name changes no slots but the one that declaring it gives. -/
theorem slot?_define (globals : Globals) (name other : Symbol) (unit : CodeUnit) :
    (globals.define name unit).2.slot? other
      = if other = name then some (globals.slotOf name) else globals.slot? other := by
  rw [← slot?_declare]
  exact slot?_setStatus _ _ _ _

/-- A name that is defined has its unit. -/
theorem status?_define (globals : Globals) (name other : Symbol) (unit : CodeUnit) :
    (globals.define name unit).2.status? other
      = if other = name then some (.defined unit) else globals.status? other := by
  have hslot : (globals.declare name).2.slot? name = some (globals.declare name).1 := by
    rw [slot?_declare, if_pos rfl]
    rfl
  have hset := status?_setStatus hslot (.defined unit) other
  rw [status?_declare] at hset
  rw [define]
  dsimp only
  rw [hset]
  by_cases hother : other = name
  · rw [if_pos hother, if_pos hother]
  · rw [if_neg hother, if_neg hother, if_neg hother]

/-- If no name has two slots, a name can be withdrawn just if it is declared and has no unit. -/
theorem Distinct.withdraw?_eq {globals : Globals} (h : globals.Distinct) (name : Symbol) :
    globals.withdraw? name
      = if globals.status? name = some .declared
        then some (globals.setStatus (globals.slotOf name) .withdrawn) else none := by
  rw [withdraw?]
  cases hresolve : globals.resolve? name with
  | none =>
      have hnot : globals.status? name ≠ some .declared := fun hstatus => by
        have hsome := (h.isSome_resolve? name).mpr ⟨.declared, hstatus, rfl⟩
        rw [hresolve] at hsome
        cases hsome
      rw [if_neg hnot]
      rfl
  | some slot =>
      obtain ⟨hslot, -⟩ := h.resolve?_eq_some_iff.mp hresolve
      obtain ⟨status, hentry, hstatus⟩ := global?_of_slot? hslot
      rw [Option.bind_some, hentry, hstatus, slotOf_eq, hslot]
      cases status <;> simp

/-- Withdrawing a name changes no slots. -/
theorem slot?_withdraw? {globals shrunk : Globals} {name : Symbol}
    (h : globals.withdraw? name = some shrunk) (other : Symbol) :
    shrunk.slot? other = globals.slot? other := by
  obtain ⟨slot, -, hstatus⟩ := Option.bind_eq_some_iff.mp h
  split at hstatus
  · cases hstatus
    exact slot?_setStatus _ _ _ _
  · cases hstatus

/-! ## Tables that are reached -/

/-- The tables that the operations lead to, from the empty one on. -/
inductive Reached : Globals → Prop
  /-- The empty table. -/
  | empty : Reached empty
  /-- A name is declared. -/
  | declare {globals : Globals} (h : Reached globals) (name : Symbol) :
      Reached (globals.declare name).2
  /-- A name is defined. -/
  | define {globals : Globals} (h : Reached globals) (name : Symbol) (unit : CodeUnit) :
      Reached (globals.define name unit).2
  /-- A name is withdrawn. -/
  | withdraw {globals shrunk : Globals} (h : Reached globals) {name : Symbol}
      (hwithdraw : globals.withdraw? name = some shrunk) : Reached shrunk

theorem Distinct.setStatus {globals : Globals} (h : globals.Distinct) (slot : Nat)
    (status : Global.Status) : (globals.setStatus slot status).Distinct := by
  rw [Distinct, names_setStatus]
  exact h

theorem Distinct.declare {globals : Globals} (h : globals.Distinct) (name : Symbol) :
    (globals.declare name).2.Distinct := by
  unfold Globals.declare
  cases hslot : globals.slot? name with
  | none =>
      have hnew : name ∉ globals.names.toList := by
        simpa [names] using slot?_eq_none_iff.mp hslot
      have hnames : names ⟨globals.entries.push ⟨name, .declared⟩⟩ = globals.names.push name := by
        simp [names]
      dsimp only
      rw [Distinct, hnames, Array.toList_push]
      exact List.nodup_append.mpr ⟨h, (List.pairwise_singleton _ _), fun other hmem last hlast => by
        rw [List.mem_singleton.mp hlast]
        exact fun hsame => hnew (hsame ▸ hmem)⟩
  | some slot =>
      dsimp only
      split
      · exact h.setStatus _ _
      · exact h

theorem Distinct.define {globals : Globals} (h : globals.Distinct) (name : Symbol)
    (unit : CodeUnit) : (globals.define name unit).2.Distinct :=
  (h.declare name).setStatus _ _

theorem Distinct.withdraw {globals shrunk : Globals} (h : globals.Distinct) {name : Symbol}
    (hwithdraw : globals.withdraw? name = some shrunk) : shrunk.Distinct := by
  rw [h.withdraw?_eq] at hwithdraw
  split at hwithdraw
  · cases hwithdraw
    exact h.setStatus _ _
  · cases hwithdraw

/-- No name ever has two slots. -/
theorem Reached.distinct {globals : Globals} (h : globals.Reached) : globals.Distinct := by
  induction h with
  | empty => simp [Distinct, names, Globals.empty]
  | declare _ name ih => exact ih.declare name
  | define _ name unit ih => exact ih.define name unit
  | withdraw _ hwithdraw ih => exact ih.withdraw hwithdraw

/-- Withdrawing a name changes what is told of this name only. -/
theorem Distinct.status?_withdraw? {globals shrunk : Globals} (h : globals.Distinct)
    {name : Symbol} (hwithdraw : globals.withdraw? name = some shrunk) (other : Symbol) :
    shrunk.status? other = if other = name then some .withdrawn else globals.status? other := by
  rw [h.withdraw?_eq] at hwithdraw
  split at hwithdraw
  · next hstatus =>
      cases hwithdraw
      cases hslot : globals.slot? name with
      | none =>
          rw [status?_eq_none_iff.mpr hslot] at hstatus
          cases hstatus
      | some slot =>
          rw [slotOf_eq, hslot]
          exact status?_setStatus hslot .withdrawn other
  · cases hwithdraw

end Globals

end StackLang
