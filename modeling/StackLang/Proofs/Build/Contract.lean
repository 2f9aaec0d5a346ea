import Mathlib
import StackLang.Machine.Run
import StackLang.Proofs.Build.History

/-! # What a build does

A build is told by the definitions that it reads, the error behind them, and the first of them for
which there is no code once all their names are declared.

* `Contract` — the error, the compiled definitions, the slots, the units and the names that resolve.
* `status?_latest`, `status?_other` — how far a name has come after a build.
* `build_contract` — every build keeps the contract; so after a history of builds every name that
  resolves has a unit, and what a build does not compile can be called as before. -/

namespace StackLang

open Bytecode (CodeUnit)

/-- The status of a name that is withdrawn unless it has a unit, if the name had one. -/
def Global.Status.withdrawFrom : Option Global.Status → Global.Status
  | some (.defined unit) => .defined unit
  | _ => .withdrawn

@[simp] theorem Global.Status.unit?_withdrawFrom (status : Option Global.Status) :
    (withdrawFrom status).unit? = status.bind unit? := by
  match status with
  | none | some .withdrawn | some .declared | some (.defined _) => rfl

theorem Global.Status.isLive_withdrawFrom (status : Option Global.Status) :
    (withdrawFrom status).isLive = (status.bind unit?).isSome := by
  match status with
  | none | some .withdrawn | some .declared | some (.defined _) => rfl

namespace Build

variable {table : Nat}

/-- What is promised of a build that has read some definitions, and perhaps an error behind them,
and has worked on a table of globals. -/
structure Contract (table : Nat) (globals : Globals) (definitions : List Definition)
    (parseError : Option ParseError) (build : Build) : Prop where
  /-- It succeeds just if all was read and all has code. -/
  error_eq_none_iff : build.error = none ↔ parseError = none
    ∧ rejectedAt (declared table definitions globals) definitions = definitions.length
  /-- It fails with the error of the first definition for which there is no code. -/
  error_of_rejected :
    rejectedAt (declared table definitions globals) definitions < definitions.length →
      ∃ definition reason,
        definitions[rejectedAt (declared table definitions globals) definitions]? = some definition
          ∧ Compile.function (declared table definitions globals) definition = .error reason
          ∧ build.error = some (.compile reason)
  /-- If all have code, it fails with the error in the text. -/
  error_of_accepted :
    rejectedAt (declared table definitions globals) definitions = definitions.length →
      build.error = parseError.map .parse
  /-- It tells the names and slots of the definitions before the first without code, in order. -/
  compiled_eq : build.compiled.map (fun made => (made.name, some made.slot))
    = (accepted table definitions globals).map fun definition =>
        (definition.name, build.globals.slot? (definition.symbol table))
  /-- It tells their units. -/
  units_eq : build.compiled.map (fun made => .ok made.unit)
    = (accepted table definitions globals).map
        (Compile.function (declared table definitions globals))
  /-- A slot has the unit of the last of these definitions with its name. -/
  unit?_latest : ∀ slot entry definition, build.globals.global? slot = some entry →
    latest? table (accepted table definitions globals) entry.name = some definition →
      ∃ unit, Compile.function (declared table definitions globals) definition = .ok unit
        ∧ build.globals.unit? slot = some unit
  /-- If there is no such definition, a slot has the unit that it had. -/
  unit?_other : ∀ slot entry, build.globals.global? slot = some entry →
    latest? table (accepted table definitions globals) entry.name = none →
      build.globals.unit? slot = globals.unit? slot
  /-- A name keeps its slot. -/
  slot?_eq : ∀ name slot, globals.slot? name = some slot → build.globals.slot? name = some slot
  /-- A name resolves if it did before or was read, unless it was read and has no unit. -/
  resolves_iff : ∀ name, (build.globals.resolve? name).isSome
    ↔ ((globals.resolve? name).isSome ∨ name ∈ symbols table definitions)
      ∧ ¬ (name ∈ symbols table definitions
        ∧ (build.globals.slot? name).bind build.globals.unit? = none)

section

variable {globals : Globals} (h : globals.Reached) (definitions : List Definition)
  (parseError : Option ParseError)

include h

theorem slot?_ofDefinitions (name : Symbol) :
    (ofDefinitions table definitions parseError globals).globals.slot? name
      = (declareAll table definitions globals).slot? name := by
  have hslot := (stage_filled table h definitions).slot?_eq name
  rw [globals_ofDefinitions]
  split
  · exact hslot
  · rw [slot?_withdrawAll, hslot]

/-- The table of a build, told by statuses. -/
theorem status?_ofDefinitions (name : Symbol) :
    (ofDefinitions table definitions parseError globals).globals.status? name
      = if (ofDefinitions table definitions parseError globals).error ≠ none
            ∧ name ∈ symbols table definitions
            ∧ (filled table definitions globals).1.status? name = some .declared
        then some .withdrawn else (filled table definitions globals).1.status? name := by
  rw [globals_ofDefinitions]
  by_cases herror : (ofDefinitions table definitions parseError globals).error = none
  · simp [herror]
  · simp only [herror, ne_eq, not_false_eq_true, true_and, if_false]
    exact status?_withdrawAll definitions (reached_filled table h definitions).distinct name

/-- A name that was compiled has the unit of its last definition. -/
theorem status?_latest {name : Symbol} {definition : Definition}
    (hlatest : latest? table (accepted table definitions globals) name = some definition) :
    ∃ unit, Compile.function (declared table definitions globals) definition = .ok unit
      ∧ (ofDefinitions table definitions parseError globals).globals.status? name
        = some (.defined unit) := by
  obtain ⟨unit, hcode, hstatus⟩ :=
    (stage_filled table h definitions).status?_latest name definition hlatest
  refine ⟨unit, hcode, ?_⟩
  rw [status?_ofDefinitions h, hstatus, if_neg]
  rintro ⟨-, -, hdeclared⟩
  cases hdeclared

/-- A build that succeeds has compiled all that it read. -/
theorem accepted_eq_of_error_eq_none
    (hnone : (ofDefinitions table definitions parseError globals).error = none) :
    accepted table definitions globals = definitions := by
  rw [error_ofDefinitions, Option.or_eq_none_iff, Option.map_eq_none_iff] at hnone
  rcases (stage_filled table h definitions).error_eq with ⟨-, hlength⟩ | ⟨_, _, -, -, hsome⟩
  · rw [accepted, hlength, List.take_length]
  · rw [hsome] at hnone
    cases hnone.1

/-- A name that was not compiled keeps its unit; if it was read and has none, it is withdrawn. -/
theorem status?_other {name : Symbol}
    (hnone : latest? table (accepted table definitions globals) name = none) :
    (ofDefinitions table definitions parseError globals).globals.status? name
      = if name ∈ symbols table definitions then some (.withdrawFrom (globals.status? name))
        else globals.status? name := by
  have hfilled := (stage_filled table h definitions).status?_other name hnone
  rw [status?_declareAll] at hfilled
  rw [status?_ofDefinitions h, hfilled]
  by_cases hread : name ∈ symbols table definitions
  · -- The name was read and not compiled, so the build has failed.
    have herror : (ofDefinitions table definitions parseError globals).error ≠ none := by
      intro hsuccess
      rw [accepted_eq_of_error_eq_none h definitions parseError hsuccess, latest?_eq_none_iff]
        at hnone
      exact hnone hread
    simp only [herror, hread, if_true, ne_eq, not_false_eq_true, true_and]
    match globals.status? name with
    | none | some .withdrawn | some .declared | some (.defined _) =>
        simp [Global.Status.declareFrom, Global.Status.withdrawFrom]
  · simp [hread]

/-- The unit of a name that was not compiled is the one that it had. -/
theorem unit?_status?_other {name : Symbol}
    (hnone : latest? table (accepted table definitions globals) name = none) :
    ((ofDefinitions table definitions parseError globals).globals.status? name).bind
        Global.Status.unit?
      = (globals.status? name).bind Global.Status.unit? := by
  rw [status?_other h definitions parseError hnone]
  split
  · exact Global.Status.unit?_withdrawFrom _
  · rfl

/-- A slot that has been there before a build has the unit that its name had. -/
theorem unit?_eq_of_slot? {name : Symbol} {slot : Nat}
    (hslot : (ofDefinitions table definitions parseError globals).globals.slot? name = some slot) :
    globals.unit? slot = (globals.status? name).bind Global.Status.unit? := by
  have hkeep : ∀ other place, globals.slot? other = some place →
      (ofDefinitions table definitions parseError globals).globals.slot? other = some place := by
    intro other place hother
    rw [slot?_ofDefinitions h]
    exact slot?_declareAll hother definitions
  cases hbefore : globals.slot? name with
  | some place =>
      have hplace : place = slot :=
        Option.some.inj ((hkeep name place hbefore).symm.trans hslot)
      rw [← hplace]
      exact Globals.unit?_of_slot? hbefore
  | none =>
      rw [Globals.status?_eq_none_iff.mpr hbefore, Option.bind_none]
      cases hunit : globals.unit? slot with
      | none => rfl
      | some unit =>
          -- A unit in the slot would belong to a name that has kept the slot.
          obtain ⟨entry, hentry, -⟩ := Option.bind_eq_some_iff.mp hunit
          have hown := h.distinct.slot?_of_global? hentry
          rw [← Globals.slot?_inj (hkeep entry.name slot hown) hslot, hown] at hbefore
          cases hbefore

/-- A name resolves if it did before or was read, unless it was read and has no unit. -/
theorem resolves_ofDefinitions (name : Symbol) :
    ((ofDefinitions table definitions parseError globals).globals.resolve? name).isSome
      ↔ ((globals.resolve? name).isSome ∨ name ∈ symbols table definitions)
        ∧ ¬ (name ∈ symbols table definitions
          ∧ ((ofDefinitions table definitions parseError globals).globals.status? name).bind
              Global.Status.unit? = none) := by
  have hdistinct := (reached_ofDefinitions h definitions parseError table).distinct
  rw [hdistinct.isSome_resolve?, h.distinct.isSome_resolve?]
  cases hlatest : latest? table (accepted table definitions globals) name with
  | some definition =>
      obtain ⟨unit, -, hstatus⟩ := status?_latest h definitions parseError hlatest
      obtain ⟨hmem, hname⟩ := mem_of_latest? hlatest
      have hread : name ∈ symbols table definitions :=
        List.mem_map.mpr ⟨definition, List.mem_of_mem_take hmem, hname⟩
      simp [hstatus, hread, Global.Status.isLive]
  | none =>
      -- A name that was not compiled resolves just if it had a unit, or if it was not read.
      rw [status?_other h definitions parseError hlatest]
      by_cases hread : name ∈ symbols table definitions
      · simp [hread, Global.Status.isLive_withdrawFrom, Option.isSome_iff_ne_none]
      · simp [hread]

/-- The contract is kept when definitions are built. -/
theorem contract_ofDefinitions :
    Contract table globals definitions parseError
      (ofDefinitions table definitions parseError globals) := by
  have hstage := stage_filled table h definitions
  have hreached := reached_ofDefinitions h definitions parseError table
  have herror := error_ofDefinitions table definitions parseError globals
  refine ⟨?_, ?_, ?_, ?_, ?_, ?_, ?_, ?_, ?_⟩
  · rw [herror, Option.or_eq_none_iff, Option.map_eq_none_iff, Option.map_eq_none_iff]
    rcases hstage.error_eq with ⟨hnone, hlength⟩ | ⟨definition, reason, hat, -, hsome⟩
    · simp [hnone, hlength]
    · obtain ⟨hlt, -⟩ := List.getElem?_eq_some_iff.mp hat
      simp [hsome, Nat.ne_of_lt hlt]
  · intro hlt
    rcases hstage.error_eq with ⟨-, hlength⟩ | ⟨definition, reason, hat, hcode, hsome⟩
    · exact absurd hlength (Nat.ne_of_lt hlt)
    · exact ⟨definition, reason, hat, hcode, by rw [herror, hsome]; rfl⟩
  · intro hlength
    rcases hstage.error_eq with ⟨hnone, -⟩ | ⟨definition, reason, hat, -, -⟩
    · rw [herror, hnone]
      rfl
    · obtain ⟨hlt, -⟩ := List.getElem?_eq_some_iff.mp hat
      exact absurd hlength (Nat.ne_of_lt hlt)
  · rw [compiled_ofDefinitions, hstage.slots_eq]
    simp only [slot?_ofDefinitions h, accepted]
  · rw [compiled_ofDefinitions, hstage.units_eq, accepted]
  · intro slot entry definition hentry hlatest
    obtain ⟨unit, hcode, hstatus⟩ := status?_latest h definitions parseError hlatest
    refine ⟨unit, hcode, ?_⟩
    rw [Globals.unit?_of_slot? (hreached.distinct.slot?_of_global? hentry), hstatus]
    rfl
  · intro slot entry hentry hlatest
    have hslot := hreached.distinct.slot?_of_global? hentry
    rw [Globals.unit?_of_slot? hslot, unit?_status?_other h definitions parseError hlatest,
      unit?_eq_of_slot? h definitions parseError hslot]
  · intro name slot hslot
    rw [slot?_ofDefinitions h]
    exact slot?_declareAll hslot definitions
  · intro name
    rw [resolves_ofDefinitions h]
    cases hslot : (ofDefinitions table definitions parseError globals).globals.slot? name with
    | none => rw [Globals.status?_eq_none_iff.mpr hslot, Option.bind_none, Option.bind_none]
    | some slot => rw [Option.bind_some, Globals.unit?_of_slot? hslot]

/-- A name that resolves and is not compiled again keeps its slot and its unit. -/
theorem unit_kept {name : Symbol} {slot : Nat} {unit : CodeUnit}
    (hresolve : globals.resolve? name = some slot) (hunit : globals.unit? slot = some unit)
    (hnone : latest? table (accepted table definitions globals) name = none) :
    (ofDefinitions table definitions parseError globals).globals.resolve? name = some slot
      ∧ (ofDefinitions table definitions parseError globals).globals.unit? slot = some unit := by
  have hslot : (ofDefinitions table definitions parseError globals).globals.slot? name
      = some slot := by
    rw [slot?_ofDefinitions h]
    exact slot?_declareAll (h.distinct.resolve?_eq_some_iff.mp hresolve).1 definitions
  have hafter := unit?_status?_other h definitions parseError hnone
  rw [← Globals.unit?_of_slot? hslot, ← unit?_eq_of_slot? h definitions parseError hslot, hunit]
    at hafter
  refine ⟨?_, hafter⟩
  rw [Globals.unit?_of_slot? hslot] at hafter
  obtain ⟨status, hstatus, hsome⟩ := Option.bind_eq_some_iff.mp hafter
  exact (reached_ofDefinitions h definitions parseError table).distinct.resolve?_eq_some_iff.mpr
    ⟨hslot, status, hstatus, Global.Status.isLive_of_unit? hsome⟩

end

/-! ## Tables that are built -/

/-- The tables to which builds lead, whatever the tables of symbols are. -/
inductive Built : Globals → Prop
  /-- The empty table. -/
  | empty : Built Globals.empty
  /-- A source text is built, with success or not. -/
  | build {globals : Globals} (h : Built globals) (table : Nat) (source : List Char) :
      Built (ofSource table source globals).globals

theorem Built.reached {globals : Globals} (h : Built globals) : globals.Reached := by
  induction h with
  | empty => exact .empty
  | build _ table source ih => exact reached_ofSource ih source

/-- No build leaves a name that resolves and has no unit. -/
theorem Built.isSome_unit? {globals : Globals} (h : Built globals) {name : Symbol}
    {status : Global.Status} (hstatus : globals.status? name = some status)
    (hlive : status.isLive) : status.unit?.isSome := by
  induction h generalizing name status with
  | empty => simp [Globals.status?, Globals.slot?, Globals.empty] at hstatus
  | @build globals hbuilt table source ih =>
      rw [ofSource_eq] at hstatus
      cases hlatest : latest? table (accepted table (definitionsOf source) globals) name with
      | some definition =>
          obtain ⟨unit, -, hdefined⟩ :=
            status?_latest hbuilt.reached (definitionsOf source) (parseErrorOf source) hlatest
          cases hdefined.symm.trans hstatus
          rfl
      | none =>
          rw [status?_other hbuilt.reached _ _ hlatest] at hstatus
          split at hstatus
          · cases hstatus
            rw [Global.Status.unit?_withdrawFrom, ← Global.Status.isLive_withdrawFrom]
            exact hlive
          · exact ih hstatus hlive

/-- In a table that is built every name that resolves has a unit. -/
theorem Built.isSome_unit?_of_resolve? {globals : Globals} (h : Built globals) {name : Symbol}
    {slot : Nat} (hresolve : globals.resolve? name = some slot) :
    (globals.unit? slot).isSome := by
  obtain ⟨hslot, status, hstatus, hlive⟩ := h.reached.distinct.resolve?_eq_some_iff.mp hresolve
  rw [Globals.unit?_of_slot? hslot, hstatus]
  exact h.isSome_unit? hstatus hlive

/-- A history of builds leads to a table that is built. -/
theorem built_globalsAfter (table : Nat) (sources : List (List Char)) :
    Built (globalsAfter table sources) := by
  induction sources with
  | nil => exact .empty
  | cons latest earlier ih => exact ih.build table latest

/-- What a build does not compile is called as before. -/
theorem call_kept {sources : List (List Char)} {source : List Char} {name : String}
    {unit : CodeUnit}
    (hunit : ((globalsAfter table sources).find? name).bind (globalsAfter table sources).unit?
      = some unit)
    (hnone : latest? table
      (accepted table (definitionsOf source) (globalsAfter table sources)) ⟨table, name⟩ = none)
    (arguments : List Value) (before : Stack) :
    Machine.call (globalsAfter table (source :: sources)) name arguments before
      = Machine.run (globalsAfter table (source :: sources)) unit arguments := by
  obtain ⟨slot, hfind, hslot⟩ := Option.bind_eq_some_iff.mp hunit
  rw [(ownedBy_globalsAfter table sources).find?_eq] at hfind
  obtain ⟨hresolve, hkept⟩ := unit_kept (reached_globalsAfter table sources)
    (definitionsOf source) (parseErrorOf source) hfind hslot hnone
  rw [← ofSource_eq] at hresolve hkept
  rw [Machine.call, (ownedBy_globalsAfter table (source :: sources)).find?_eq, globalsAfter,
    hresolve, Option.bind_some, hkept]

/-- Every build keeps the contract. So in tables that are built every name that resolves has a
unit, and a function that a build does not compile again, be it for a failure, keeps its unit and is
called as before. -/
theorem build_contract :
    (∀ table source globals, globals.Reached →
      Contract table globals (definitionsOf source) (parseErrorOf source)
        (ofSource table source globals))
    ∧ (∀ globals, Built globals → ∀ name slot, globals.resolve? name = some slot →
        (globals.unit? slot).isSome)
    ∧ (∀ table source globals, globals.Reached → ∀ name slot unit,
        globals.resolve? name = some slot → globals.unit? slot = some unit →
          latest? table (accepted table (definitionsOf source) globals) name = none →
            (ofSource table source globals).globals.resolve? name = some slot
              ∧ (ofSource table source globals).globals.unit? slot = some unit)
    ∧ (∀ table source sources name unit,
        ((globalsAfter table sources).find? name).bind (globalsAfter table sources).unit?
            = some unit →
          latest? table (accepted table (definitionsOf source) (globalsAfter table sources))
              ⟨table, name⟩ = none →
            ∀ arguments before,
              Machine.call (globalsAfter table (source :: sources)) name arguments before
                = Machine.run (globalsAfter table (source :: sources)) unit arguments) := by
  refine ⟨?_, ?_, ?_, ?_⟩
  · intro table source globals h
    rw [ofSource_eq]
    exact contract_ofDefinitions h _ _
  · intro globals h name slot hresolve
    exact h.isSome_unit?_of_resolve? hresolve
  · intro table source globals h name slot unit hresolve hunit hnone
    rw [ofSource_eq]
    exact unit_kept h _ _ hresolve hunit hnone
  · intro table source sources name unit hunit hnone arguments before
    exact call_kept hunit hnone arguments before

/-- A function that refers to itself is built; a build of a text that gives the same name to a
function without code fails, and leaves the first one in its place. -/
theorem build_contract_redefinition :
    let first := ['d', 'e', 'f', 'u', 'n', ' ', 'f', '(', ')', '=', 'r', 'e', 't', 'u', 'r', 'n',
      ' ', 'f', ' ', 'e', 'n', 'd']
    let second := ['d', 'e', 'f', 'u', 'n', ' ', 'f', '(', ')', '=', 'x', ' ', 'e', 'n', 'd']
    let globals := globalsAfter 0 [first]
    globals.Reached ∧ Built globals
      ∧ Contract 0 globals (definitionsOf second) (parseErrorOf second) (ofSource 0 second globals)
      ∧ globals.resolve? ⟨0, "f"⟩ = some 0 ∧ (globals.unit? 0).isSome
      ∧ latest? 0 (accepted 0 (definitionsOf second) globals) ⟨0, "f"⟩ = none
      ∧ ∃ unit, globals.unit? 0 = some unit
        ∧ (ofSource 0 second globals).globals.resolve? ⟨0, "f"⟩ = some 0
        ∧ (ofSource 0 second globals).globals.unit? 0 = some unit
        ∧ (globals.find? "f").bind globals.unit? = some unit
        ∧ Machine.call (globalsAfter 0 [second, first]) "f" [] #[]
          = Machine.run (globalsAfter 0 [second, first]) unit [] := by
  intro first second globals
  have hfirst : Parse.definition (itemsOf first)
      = .done (some ⟨"f", [], [.returning (some (.name "f"))]⟩) [] := by cbv
  have hsecond : Parse.definition (itemsOf second)
      = .done (some ⟨"f", [], [.expression (.name "x")]⟩) [] := by cbv
  obtain ⟨hread, herror⟩ := definitionsOf_of_definition hfirst
  have hglobals : globals = (ofDefinitions 0 [⟨"f", [], [.returning (some (.name "f"))]⟩] none
      Globals.empty).globals := by
    rw [← hread, ← herror, ← ofSource_eq]
    rfl
  have hresolve : globals.resolve? ⟨0, "f"⟩ = some 0 := by
    rw [hglobals]
    cbv
  have hnone : latest? 0 (accepted 0 (definitionsOf second) globals) ⟨0, "f"⟩ = none := by
    rw [(definitionsOf_of_definition hsecond).1, hglobals]
    cbv
  obtain ⟨hcontract, hunits, hkept, hcall⟩ := build_contract
  have hreached := reached_globalsAfter 0 [first]
  have hbuilt := built_globalsAfter 0 [first]
  have hsome := hunits globals hbuilt ⟨0, "f"⟩ 0 hresolve
  obtain ⟨unit, hunit⟩ := Option.isSome_iff_exists.mp hsome
  obtain ⟨hafter, hsame⟩ := hkept 0 second globals hreached ⟨0, "f"⟩ 0 unit hresolve hunit hnone
  have hfind : (globals.find? "f").bind globals.unit? = some unit := by
    rw [(ownedBy_globalsAfter 0 [first]).find?_eq, hresolve]
    exact hunit
  exact ⟨hreached, hbuilt, hcontract 0 second globals hreached, hresolve, hsome, hnone, unit, hunit,
    hafter, hsame, hfind, hcall 0 second [first] "f" unit hfind hnone [] #[]⟩

end Build

end StackLang
