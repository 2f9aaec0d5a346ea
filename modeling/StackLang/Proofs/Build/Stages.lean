import StackLang.Build
import StackLang.Proofs.Compile.Resolution
import StackLang.Proofs.Globals.Table

/-! # The stages of a build

A build declares all names, compiles definitions up to the first for which there is no code, and, if
it fails, withdraws names. Each stage is told by what it makes of the slots and the statuses of
names.

* `Definition.symbol`, `symbols` — the names that a build declares.
* `latest?` — the last of some definitions with a name.
* `rejectedAt` — the first definition for which there is no code.
* `Stage` — what compiling definitions does to the table.
* `Kept` — a property of tables that the operations keep, and so all stages do. -/

namespace StackLang

open Bytecode (CodeUnit)
open Compile (Environment)

/-- The symbol of a definition. -/
def Definition.symbol (table : Nat) (definition : Definition) : Symbol :=
  ⟨table, definition.name⟩

namespace Build

variable {table : Nat}

/-- The symbols of definitions. -/
def symbols (table : Nat) (definitions : List Definition) : List Symbol :=
  definitions.map (Definition.symbol table)

/-- The last of some definitions with a name. -/
def latest? (table : Nat) (definitions : List Definition) (name : Symbol) : Option Definition :=
  (definitions.filter fun definition => definition.symbol table = name).getLast?

/-- Whether there is no code for a definition. -/
def rejects (environment : Environment) (definition : Definition) : Bool :=
  match Compile.function environment definition with
  | .ok _ => false
  | .error _ => true

/-- The number of definitions before the first for which there is no code. -/
def rejectedAt (environment : Environment) (definitions : List Definition) : Nat :=
  definitions.findIdx (rejects environment)

@[simp] theorem symbols_cons (definition : Definition) (others : List Definition) :
    symbols table (definition :: others) = definition.symbol table :: symbols table others := rfl

@[simp] theorem latest?_nil (name : Symbol) : latest? table [] name = none := rfl

theorem latest?_cons (definition : Definition) (others : List Definition) (name : Symbol) :
    latest? table (definition :: others) name
      = (latest? table others name).or
          (if definition.symbol table = name then some definition else none) := by
  unfold latest?
  by_cases h : definition.symbol table = name
  · rw [List.filter_cons_of_pos (by simpa using h), if_pos h, List.getLast?_cons]
    cases (others.filter fun definition => definition.symbol table = name).getLast? <;> rfl
  · rw [List.filter_cons_of_neg (by simpa using h), if_neg h, Option.or_none]

/-- A name has a last definition just if it has one. -/
theorem latest?_eq_none_iff {definitions : List Definition} {name : Symbol} :
    latest? table definitions name = none ↔ name ∉ symbols table definitions := by
  simp [latest?, symbols]

/-- The last definition with a name is one of those with the name. -/
theorem mem_of_latest? {definitions : List Definition} {name : Symbol} {found : Definition}
    (h : latest? table definitions name = some found) :
    found ∈ definitions ∧ found.symbol table = name := by
  have hmem := List.mem_of_getLast? h
  simpa using hmem

theorem rejects_of_ok {environment : Environment} {definition : Definition} {unit : CodeUnit}
    (h : Compile.function environment definition = .ok unit) :
    rejects environment definition = false := by
  rw [rejects, h]

theorem rejects_of_error {environment : Environment} {definition : Definition}
    {error : CompileError} (h : Compile.function environment definition = .error error) :
    rejects environment definition = true := by
  rw [rejects, h]

/-! ## Declaring -/

@[simp] theorem declareFrom_declareFrom (status : Option Global.Status) :
    Global.Status.declareFrom (some (.declareFrom status)) = .declareFrom status := by
  match status with
  | none | some .withdrawn | some .declared | some (.defined _) => rfl

theorem declareAll_cons (definition : Definition) (others : List Definition) (globals : Globals) :
    declareAll table (definition :: others) globals
      = declareAll table others (globals.declare (definition.symbol table)).2 := rfl

/-- The names that are declared are live, and keep their units. -/
theorem status?_declareAll (definitions : List Definition) (globals : Globals) (name : Symbol) :
    (declareAll table definitions globals).status? name
      = if name ∈ symbols table definitions then some (.declareFrom (globals.status? name))
        else globals.status? name := by
  induction definitions generalizing globals with
  | nil => rfl
  | cons definition others ih =>
      rw [declareAll_cons, ih, Globals.status?_declare, symbols_cons]
      by_cases hname : name = definition.symbol table
      · rw [if_pos hname, if_pos (List.mem_cons.mpr (Or.inl hname)), declareFrom_declareFrom,
          ite_self, hname]
      · simp only [hname, List.mem_cons, false_or, if_false]

/-- A slot that a name has stays when names are declared. -/
theorem slot?_declareAll {globals : Globals} {name : Symbol} {slot : Nat}
    (h : globals.slot? name = some slot) (definitions : List Definition) :
    (declareAll table definitions globals).slot? name = some slot := by
  induction definitions generalizing globals with
  | nil => exact h
  | cons definition others ih =>
      rw [declareAll_cons]
      apply ih
      rw [Globals.slot?_declare]
      by_cases hname : name = definition.symbol table
      · rw [if_pos hname, Globals.slotOf_eq, ← hname, h]
        rfl
      · rw [if_neg hname, h]

/-! ## Compiling -/

/-- What compiling definitions does: with `environment` for what names mean, it turns the table
`before` into `after`, and it leaves off with `error` behind the definitions that have code. -/
structure Stage (table : Nat) (environment : Environment) (definitions : List Definition)
    (before after : Globals) (compiled : List Compiled) (error : Option CompileError) : Prop where
  /-- No slot changes. -/
  slot?_eq : ∀ name, after.slot? name = before.slot? name
  /-- A name has the unit of the last definition that was compiled for it. -/
  status?_latest : ∀ name definition,
    latest? table (definitions.take (rejectedAt environment definitions)) name = some definition →
      ∃ unit, Compile.function environment definition = .ok unit
        ∧ after.status? name = some (.defined unit)
  /-- For all other names nothing changes. -/
  status?_other : ∀ name,
    latest? table (definitions.take (rejectedAt environment definitions)) name = none →
      after.status? name = before.status? name
  /-- The names and the slots of what was compiled. -/
  slots_eq : compiled.map (fun made => (made.name, some made.slot))
    = (definitions.take (rejectedAt environment definitions)).map fun definition =>
        (definition.name, before.slot? (definition.symbol table))
  /-- The units of what was compiled. -/
  units_eq : compiled.map (fun made => .ok made.unit)
    = (definitions.take (rejectedAt environment definitions)).map (Compile.function environment)
  /-- The error is that of the first definition without code. -/
  error_eq : error = none ∧ rejectedAt environment definitions = definitions.length
    ∨ ∃ definition reason, definitions[rejectedAt environment definitions]? = some definition
        ∧ Compile.function environment definition = .error reason ∧ error = some reason

theorem compileAll_cons_error {globals : Globals} {definition : Definition} {reason : CompileError}
    (h : Compile.function ⟨globals, table⟩ definition = .error reason) (others : List Definition) :
    compileAll table globals (definition :: others) = (globals, [], some reason) := by
  rw [compileAll, h]

theorem compileAll_cons_ok {globals : Globals} {definition : Definition} {unit : CodeUnit}
    (h : Compile.function ⟨globals, table⟩ definition = .ok unit) (others : List Definition) :
    compileAll table globals (definition :: others)
      = ((compileAll table (globals.define (definition.symbol table) unit).2 others).1,
          ⟨definition.name, globals.slotOf (definition.symbol table), unit⟩
            :: (compileAll table (globals.define (definition.symbol table) unit).2 others).2.1,
          (compileAll table (globals.define (definition.symbol table) unit).2 others).2.2) := by
  rw [compileAll, h]
  rfl

theorem rejectedAt_cons_error {environment : Environment} {definition : Definition}
    {reason : CompileError} (h : Compile.function environment definition = .error reason)
    (others : List Definition) : rejectedAt environment (definition :: others) = 0 := by
  rw [rejectedAt, List.findIdx_cons, rejects_of_error h]
  rfl

theorem rejectedAt_cons_ok {environment : Environment} {definition : Definition} {unit : CodeUnit}
    (h : Compile.function environment definition = .ok unit) (others : List Definition) :
    rejectedAt environment (definition :: others) = rejectedAt environment others + 1 := by
  rw [rejectedAt, List.findIdx_cons, rejects_of_ok h]
  rfl

/-- Giving a unit to a name that is live changes no slots. -/
theorem slot?_define_of_live {globals : Globals} (hdistinct : globals.Distinct) {name : Symbol}
    (hlive : (globals.resolve? name).isSome) (unit : CodeUnit) (other : Symbol) :
    (globals.define name unit).2.slot? other = globals.slot? other := by
  obtain ⟨slot, hresolve⟩ := Option.isSome_iff_exists.mp hlive
  have hslot := (hdistinct.resolve?_eq_some_iff.mp hresolve).1
  rw [Globals.slot?_define]
  by_cases hother : other = name
  · rw [if_pos hother, hother, Globals.slotOf_eq, hslot]
    rfl
  · rw [if_neg hother]

/-- Giving a unit to a name that is live changes nothing of what names resolve to. -/
theorem resolve?_define_of_live {globals : Globals} (hdistinct : globals.Distinct) {name : Symbol}
    (hlive : (globals.resolve? name).isSome) (unit : CodeUnit) (other : Symbol) :
    (globals.define name unit).2.resolve? other = globals.resolve? other := by
  apply Option.ext
  intro slot
  rw [hdistinct.resolve?_eq_some_iff, (hdistinct.define name unit).resolve?_eq_some_iff,
    slot?_define_of_live hdistinct hlive, Globals.status?_define]
  by_cases hother : other = name
  · have hstatus := (hdistinct.isSome_resolve? name).mp hlive
    rw [if_pos hother, hother]
    exact and_congr_right fun _ => ⟨fun _ => hstatus, fun _ => ⟨_, rfl, rfl⟩⟩
  · rw [if_neg hother]

/-- There is nothing to compile. -/
theorem Stage.nil (environment : Environment) (globals : Globals) :
    Stage table environment [] globals globals [] none where
  slot?_eq _ := rfl
  status?_latest _ _ h := by cases h
  status?_other _ _ := rfl
  slots_eq := rfl
  units_eq := rfl
  error_eq := .inl ⟨rfl, rfl⟩

/-- There is no code for the first definition. -/
theorem Stage.stop {environment : Environment} {definition : Definition} {reason : CompileError}
    (h : Compile.function environment definition = .error reason) (others : List Definition)
    (globals : Globals) :
    Stage table environment (definition :: others) globals globals [] (some reason) := by
  have hzero := rejectedAt_cons_error h others
  refine ⟨fun _ => rfl, fun name found hfound => ?_, fun _ _ => rfl, ?_, ?_, ?_⟩
  · rw [hzero] at hfound
    cases hfound
  · rw [hzero]
    rfl
  · rw [hzero]
    rfl
  · rw [hzero]
    exact .inr ⟨definition, reason, rfl, h, rfl⟩

/-- The first definition gets its unit, and the others are compiled behind it. -/
theorem Stage.cons {environment : Environment} {globals after : Globals} {definition : Definition}
    {others : List Definition} {unit : CodeUnit} {compiled : List Compiled}
    {error : Option CompileError} (hdistinct : globals.Distinct)
    (hlive : (globals.resolve? (definition.symbol table)).isSome)
    (hcode : Compile.function environment definition = .ok unit)
    (hstage : Stage table environment others (globals.define (definition.symbol table) unit).2 after
      compiled error) :
    Stage table environment (definition :: others) globals after
      (⟨definition.name, globals.slotOf (definition.symbol table), unit⟩ :: compiled) error := by
  have hsucc := rejectedAt_cons_ok hcode others
  have hsame := slot?_define_of_live hdistinct hlive unit
  refine ⟨fun name => (hstage.slot?_eq name).trans (hsame name), ?_, ?_, ?_, ?_, ?_⟩
  · intro name found hfound
    rw [hsucc, List.take_succ_cons, latest?_cons] at hfound
    -- Either a later definition has the name, or this one is the last.
    cases hlater : latest? table (others.take (rejectedAt environment others)) name with
    | some later =>
        rw [hlater, Option.some_or, Option.some.injEq] at hfound
        rw [← hfound]
        exact hstage.status?_latest name later hlater
    | none =>
        rw [hlater, Option.none_or] at hfound
        split at hfound
        · next hname =>
            cases hfound
            refine ⟨unit, hcode, ?_⟩
            rw [hstage.status?_other name hlater, Globals.status?_define, if_pos hname.symm]
        · cases hfound
  · intro name hnone
    rw [hsucc, List.take_succ_cons, latest?_cons, Option.or_eq_none_iff] at hnone
    obtain ⟨hlater, hhere⟩ := hnone
    have hname : name ≠ definition.symbol table := by
      rintro rfl
      rw [if_pos rfl] at hhere
      cases hhere
    rw [hstage.status?_other name hlater, Globals.status?_define, if_neg hname]
  · obtain ⟨slot, hresolve⟩ := Option.isSome_iff_exists.mp hlive
    have hslot := (hdistinct.resolve?_eq_some_iff.mp hresolve).1
    have hslots := hstage.slots_eq
    simp only [hsame] at hslots
    rw [hsucc, List.take_succ_cons, List.map_cons, List.map_cons, hslots, Globals.slotOf_eq, hslot,
      Option.getD_some]
  · rw [hsucc, List.take_succ_cons, List.map_cons, List.map_cons, hstage.units_eq, hcode]
  · rw [hsucc]
    rcases hstage.error_eq with ⟨hnone, hlength⟩ | hfound
    · exact .inl ⟨hnone, by rw [hlength, List.length_cons]⟩
    · exact .inr hfound

/-- Compiling definitions whose names are live. -/
theorem stage_compileAll {environment : Environment} {globals : Globals}
    (definitions : List Definition) (hdistinct : globals.Distinct)
    (hagrees : environment.Agrees ⟨globals, table⟩)
    (hlive : ∀ name ∈ symbols table definitions, (globals.resolve? name).isSome) :
    Stage table environment definitions globals (compileAll table globals definitions).1
      (compileAll table globals definitions).2.1 (compileAll table globals definitions).2.2 := by
  induction definitions generalizing globals with
  | nil => exact Stage.nil environment globals
  | cons definition others ih =>
      -- What names mean never changes on the way, so the code is that in the first environment.
      have hcongr := Compile.function_congr hagrees definition
      cases hcode : Compile.function environment definition with
      | error reason =>
          rw [compileAll_cons_error (hcongr.symm.trans hcode)]
          exact Stage.stop hcode others globals
      | ok unit =>
          have hhere := hlive (definition.symbol table) List.mem_cons_self
          have hsame := resolve?_define_of_live hdistinct hhere unit
          rw [compileAll_cons_ok (hcongr.symm.trans hcode)]
          refine Stage.cons hdistinct hhere hcode (ih (hdistinct.define _ unit) ?_ ?_)
          · exact ⟨hagrees.table_eq, fun name =>
              (hagrees.resolve?_eq name).trans (hsame ⟨table, name⟩).symm⟩
          · intro name hmem
            rw [hsame]
            exact hlive name (List.mem_cons_of_mem _ hmem)

/-! ## Withdrawing -/

theorem withdrawAll_cons_none {globals : Globals} {definition : Definition}
    (h : globals.withdraw? (definition.symbol table) = none) (others : List Definition) :
    (withdrawAll table globals (definition :: others)).1
      = (withdrawAll table globals others).1 := by
  rw [withdrawAll]
  change globals.withdraw? ⟨table, definition.name⟩ = none at h
  rw [h]

theorem withdrawAll_cons_some {globals shrunk : Globals} {definition : Definition}
    (h : globals.withdraw? (definition.symbol table) = some shrunk) (others : List Definition) :
    (withdrawAll table globals (definition :: others)).1 = (withdrawAll table shrunk others).1 := by
  rw [withdrawAll]
  change globals.withdraw? ⟨table, definition.name⟩ = some shrunk at h
  rw [h]

/-- Withdrawing names leaves all slots as they were. -/
theorem slot?_withdrawAll (definitions : List Definition) (globals : Globals) (name : Symbol) :
    (withdrawAll table globals definitions).1.slot? name = globals.slot? name := by
  induction definitions generalizing globals with
  | nil => rfl
  | cons definition others ih =>
      cases hwithdraw : globals.withdraw? (definition.symbol table) with
      | none => rw [withdrawAll_cons_none hwithdraw, ih]
      | some shrunk =>
          rw [withdrawAll_cons_some hwithdraw, ih, Globals.slot?_withdraw? hwithdraw]

/-- The names that have no unit are withdrawn. -/
theorem status?_withdrawAll (definitions : List Definition) {globals : Globals}
    (hdistinct : globals.Distinct) (name : Symbol) :
    (withdrawAll table globals definitions).1.status? name
      = if name ∈ symbols table definitions ∧ globals.status? name = some .declared
        then some .withdrawn else globals.status? name := by
  induction definitions generalizing globals with
  | nil => rfl
  | cons definition others ih =>
      -- A second definition of the name finds it withdrawn, and does nothing.
      have hwithdraw := hdistinct.withdraw?_eq (definition.symbol table)
      rw [symbols_cons]
      simp only [List.mem_cons]
      by_cases hdeclared : globals.status? (definition.symbol table) = some .declared
      · rw [if_pos hdeclared] at hwithdraw
        rw [withdrawAll_cons_some hwithdraw, ih (hdistinct.withdraw hwithdraw),
          hdistinct.status?_withdraw? hwithdraw]
        by_cases hname : name = definition.symbol table
        · simp [hname, hdeclared]
        · simp [hname]
      · rw [if_neg hdeclared] at hwithdraw
        rw [withdrawAll_cons_none hwithdraw, ih hdistinct]
        by_cases hname : name = definition.symbol table
        · simp [hname, hdeclared]
        · simp [hname]

/-! ## What all stages keep -/

/-- A property of tables that is kept when symbols of a table of symbols are declared, defined and
withdrawn. -/
structure Kept (table : Nat) (property : Globals → Prop) : Prop where
  /-- It is kept by declaring. -/
  declare : ∀ {globals : Globals} (definition : Definition), property globals →
    property (globals.declare (definition.symbol table)).2
  /-- It is kept by defining. -/
  define : ∀ {globals : Globals} (definition : Definition) (unit : CodeUnit), property globals →
    property (globals.define (definition.symbol table) unit).2
  /-- It is kept by withdrawing. -/
  withdraw : ∀ {globals shrunk : Globals} {definition : Definition}, property globals →
    globals.withdraw? (definition.symbol table) = some shrunk → property shrunk

/-- Tables that are reached remain so. -/
theorem kept_reached (table : Nat) : Kept table Globals.Reached :=
  ⟨fun _ h => h.declare _, fun _ unit h => h.define _ unit, fun h hshrunk => h.withdraw hshrunk⟩

section

variable {property : Globals → Prop} (hkept : Kept table property) {globals : Globals}
  (h : property globals) (definitions : List Definition)

include hkept h

theorem Kept.after_declareAll : property (declareAll table definitions globals) := by
  induction definitions generalizing globals with
  | nil => exact h
  | cons definition others ih => exact ih (hkept.declare definition h)

theorem Kept.after_compileAll : property (compileAll table globals definitions).1 := by
  induction definitions generalizing globals with
  | nil => exact h
  | cons definition others ih =>
      cases hcode : Compile.function ⟨globals, table⟩ definition with
      | error reason =>
          rw [compileAll_cons_error hcode]
          exact h
      | ok unit =>
          rw [compileAll_cons_ok hcode]
          exact ih (hkept.define definition unit h)

theorem Kept.after_withdrawAll : property (withdrawAll table globals definitions).1 := by
  induction definitions generalizing globals with
  | nil => exact h
  | cons definition others ih =>
      cases hwithdraw : globals.withdraw? (definition.symbol table) with
      | none =>
          rw [withdrawAll_cons_none hwithdraw]
          exact ih h
      | some shrunk =>
          rw [withdrawAll_cons_some hwithdraw]
          exact ih (hkept.withdraw h hwithdraw)

end

theorem reached_declareAll (table : Nat) {globals : Globals} (h : globals.Reached)
    (definitions : List Definition) : (declareAll table definitions globals).Reached :=
  (kept_reached table).after_declareAll h definitions

end Build

end StackLang
