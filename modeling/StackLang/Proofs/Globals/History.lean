import Mathlib
import StackLang.Proofs.Globals.Names
import StackLang.Proofs.Globals.Spellings

/-! # The table of globals and its history

All that a table tells is settled by the operations that have led to it: the order in which names
were first introduced by the slots, the last unit that a name was given by the units, and the
operations since a name was last introduced by whether it resolves.

* `Globals.Operation`, `Globals.after` — the operations, and the table to which some of them lead.
* `Globals.introduced`, `Globals.latestUnit`, `Globals.Live` — what the operations say of names,
  read off without the table.
* `Globals.isSome_resolve?_perform` and so on — what one operation does.
* `Globals.History` — what is promised of the table behind some operations.
* `Globals.table_history` — every table keeps the promise. -/

namespace StackLang.Globals

open Bytecode (CodeUnit)

/-! ## Operations -/

/-- An operation on the table. -/
inductive Operation where
  /-- A name is declared. -/
  | declare (name : Symbol)
  /-- A name is given a unit. -/
  | define (name : Symbol) (unit : CodeUnit)
  /-- A name is withdrawn, if it can be. -/
  | withdraw (name : Symbol)

namespace Operation

/-- The name that the operation is about. -/
def name : Operation → Symbol
  | .declare name => name
  | .define name _ => name
  | .withdraw name => name

/-- The name that resolves for the operation. -/
def introduced? : Operation → Option Symbol
  | .declare name => some name
  | .define name _ => some name
  | .withdraw _ => none

/-- How far the name has come behind the operation. -/
def statusFrom : Operation → Option Global.Status → Option Global.Status
  | .declare _, status => some (.declareFrom status)
  | .define _ unit, _ => some (.defined unit)
  | .withdraw _, some .declared => some .withdrawn
  | .withdraw _, status => status

end Operation

/-- The table behind an operation. Where there is nothing to withdraw it is left as it was. -/
def perform (globals : Globals) : Operation → Globals
  | .declare name => (globals.declare name).2
  | .define name unit => (globals.define name unit).2
  | .withdraw name => (globals.withdraw? name).getD globals

/-- The table to which some operations lead, the earliest first. -/
def after (operations : List Operation) : Globals :=
  operations.foldl perform empty

theorem after_concat (operations : List Operation) (operation : Operation) :
    after (operations ++ [operation]) = (after operations).perform operation := by
  rw [after, List.foldl_append]
  rfl

/-- The operation withdraws the name, and the table lets it. -/
def Withdraws (globals : Globals) (operation : Operation) (name : Symbol) : Prop :=
  operation = .withdraw name ∧ (globals.withdraw? name).isSome

/-! ## What the operations say -/

/-- The name was declared or defined, and since then no withdrawal of it has succeeded. -/
def Live (operations : List Operation) (name : Symbol) : Prop :=
  ∃ before operation since, operations = before ++ operation :: since
    ∧ operation.introduced? = some name
    ∧ ∀ middle later, since = middle ++ .withdraw name :: later →
        ((after (before ++ operation :: middle)).withdraw? name).isSome = false

/-- A name is live behind an operation that introduces it, and if it was so before one that does not
withdraw it. -/
theorem live_concat {operations : List Operation} {operation : Operation} {name : Symbol} :
    Live (operations ++ [operation]) name
      ↔ operation.introduced? = some name
        ∨ (Live operations name ∧ ¬ Withdraws (after operations) operation name) := by
  constructor
  · rintro ⟨before, first, since, hsplit, hintroduced, hkept⟩
    -- The operation that introduced the name is the last one, or an earlier one.
    rcases since.eq_nil_or_concat with rfl | ⟨since, last, rfl⟩
    · obtain ⟨-, hlast⟩ := List.append_inj' hsplit rfl
      cases hlast
      exact .inl hintroduced
    · rw [List.concat_eq_append, ← List.cons_append, ← List.append_assoc] at hsplit
      obtain ⟨rfl, hlast⟩ := List.append_inj' hsplit rfl
      cases hlast
      refine .inr ⟨⟨before, first, since, rfl, hintroduced, ?_⟩, ?_⟩
      · intro middle later hsince
        refine hkept middle (later ++ [operation]) ?_
        rw [List.concat_eq_append, hsince, List.append_assoc, List.cons_append]
      · rintro ⟨rfl, hsome⟩
        rw [hkept since [] List.concat_eq_append] at hsome
        cases hsome
  · rintro (hintroduced | ⟨⟨before, first, since, rfl, hintroduced, hkept⟩, hwithdraws⟩)
    · refine ⟨operations, operation, [], rfl, hintroduced, ?_⟩
      intro middle later hnil
      simp at hnil
    · refine ⟨before, first, since ++ [operation], by simp, hintroduced, ?_⟩
      intro middle later hsince
      rcases later.eq_nil_or_concat with rfl | ⟨later, last, rfl⟩
      · obtain ⟨rfl, hlast⟩ := List.append_inj' hsince rfl
        cases hlast
        exact Bool.eq_false_iff.mpr fun hsome => hwithdraws ⟨rfl, hsome⟩
      · rw [List.concat_eq_append, ← List.cons_append, ← List.append_assoc] at hsince
        exact hkept middle later (List.append_inj' hsince rfl).1

/-! ## What one operation does -/

variable {globals : Globals}

/-- A table that is withdrawn from, or not, is reached if it was. -/
theorem Reached.perform (h : globals.Reached) (operation : Operation) :
    (globals.perform operation).Reached := by
  cases operation with
  | declare name => exact h.declare name
  | define name unit => exact h.define name unit
  | withdraw name =>
      rw [Globals.perform]
      cases hwithdraw : globals.withdraw? name with
      | none => exact h
      | some shrunk => exact h.withdraw hwithdraw

theorem reached_after (operations : List Operation) : (after operations).Reached := by
  induction operations using List.reverseRecOn with
  | nil => exact .empty
  | append_singleton operations operation ih =>
      rw [after_concat]
      exact ih.perform operation

/-- The name of an operation is told anew; of other names the same is told as before. -/
theorem Distinct.status?_perform (h : globals.Distinct) (operation : Operation) (name : Symbol) :
    (globals.perform operation).status? name
      = if name = operation.name then operation.statusFrom (globals.status? name)
        else globals.status? name := by
  cases operation with
  | declare other =>
      rw [perform, status?_declare]
      by_cases hname : name = other <;> simp [Operation.name, Operation.statusFrom, hname]
  | define other unit =>
      rw [perform, status?_define]
      by_cases hname : name = other <;> simp [Operation.name, Operation.statusFrom, hname]
  | withdraw other =>
      rw [perform]
      cases hwithdraw : globals.withdraw? other with
      | none =>
          have hstatus : globals.status? other ≠ some .declared := by
            intro hdeclared
            simp [h.withdraw?_eq, hdeclared] at hwithdraw
          have hsame : (Operation.withdraw other).statusFrom (globals.status? other)
              = globals.status? other := by
            unfold Operation.statusFrom
            split <;> simp_all
          rw [Option.getD_none, Operation.name]
          split
          · next hname => rw [hname, hsame]
          · rfl
      | some shrunk =>
          have hstatus : globals.status? other = some .declared := by
            rw [h.withdraw?_eq] at hwithdraw
            split at hwithdraw
            · assumption
            · cases hwithdraw
          rw [Option.getD_some, h.status?_withdraw? hwithdraw, Operation.name]
          split
          · next hname => rw [hname, hstatus, Operation.statusFrom]
          · rfl

/-- A name can be withdrawn just if it resolves and has no unit. -/
theorem Distinct.isSome_withdraw? (h : globals.Distinct) (name : Symbol) :
    (globals.withdraw? name).isSome
      ↔ (globals.resolve? name).isSome
        ∧ (globals.status? name).bind Global.Status.unit? = none := by
  rw [h.isSome_resolve?, h.withdraw?_eq]
  match globals.status? name with
  | none => simp
  | some .withdrawn => simp [Global.Status.isLive]
  | some .declared => simp [Global.Status.isLive, Global.Status.unit?]
  | some (.defined unit) => simp

/-- A name resolves behind an operation that introduces it, and if it did so before one that does
not withdraw it. -/
theorem Distinct.isSome_resolve?_perform (h : globals.Distinct) (operation : Operation)
    (hafter : (globals.perform operation).Distinct) (name : Symbol) :
    ((globals.perform operation).resolve? name).isSome
      ↔ operation.introduced? = some name
        ∨ ((globals.resolve? name).isSome ∧ ¬ Withdraws globals operation name) := by
  rw [hafter.isSome_resolve?, h.status?_perform, Withdraws, h.isSome_withdraw?, h.isSome_resolve?]
  by_cases hname : name = operation.name
  · -- What is told of the name anew depends on the operation and on what was told before.
    rw [if_pos hname]
    cases operation <;> rcases globals.status? name with _ | _ | _ | _ <;>
      simp_all [Operation.introduced?, Operation.name, Operation.statusFrom,
        Global.Status.declareFrom, Global.Status.isLive, Global.Status.unit?]
  · have hother : operation.introduced? ≠ some name ∧ operation ≠ .withdraw name := by
      cases operation <;> simp_all [Operation.introduced?, Operation.name, Ne.symm]
    simp [hname, hother]

variable (operations : List Operation)

/-- No name has two slots behind any operations. -/
theorem distinct_after : (after operations).Distinct :=
  (reached_after operations).distinct

/-- A name resolves just if it is live. -/
theorem isSome_resolve?_after (name : Symbol) :
    ((after operations).resolve? name).isSome ↔ Live operations name := by
  induction operations using List.reverseRecOn with
  | nil =>
      refine iff_of_false (by simp [after, resolve?, empty]) ?_
      rintro ⟨before, operation, since, hnil, -⟩
      simp at hnil
  | append_singleton operations operation ih =>
      have hafter := distinct_after (operations ++ [operation])
      rw [after_concat] at hafter
      rw [after_concat, (distinct_after operations).isSome_resolve?_perform operation hafter,
        live_concat, ih]

/-- As many names resolve as are live. -/
theorem size_after : (after operations).size = {name | Live operations name}.ncard := by
  have hlive : {name | Live operations name} = ↑(after operations).liveNames.toFinset := by
    ext name
    rw [Set.mem_ofPred_eq, ← isSome_resolve?_after, Finset.mem_coe, List.mem_toFinset,
      mem_liveNames_iff]
  rw [hlive, Set.ncard_coe_finset,
    List.toFinset_card_of_nodup (distinct_after operations).nodup_liveNames, length_liveNames]

end StackLang.Globals
