import StackLang.Proofs.Build.Contract
import StackLang.Proofs.Compile.Extension
import StackLang.Proofs.Globals.Names
import StackLang.Proofs.Grammar.Concatenation

/-! # Building in one go or bit by bit

Two source texts may be built one after the other, or as one text with a newline between them. The
one build declares the names of the second text before it compiles the first one. Where the two
builds succeed this makes no difference: the code of the first text does not use the further names,
and a name may be declared before or after another one is given its unit.

* `extends_declareAll` — names that are declared leave the others their meaning.
* `compileAll_declareAll` — definitions are compiled before or after further names are declared.
* `ofDefinitions_append` — definitions are built in one go or in two.
* `ofSource_newline` — texts are built in one go or in two. -/

namespace StackLang.Build

open Bytecode (CodeUnit)
open Compile (Environment)

variable {table : Nat} {globals : Globals}

/-! ## Declaring further names -/

theorem declareAll_append (first second : List Definition) (globals : Globals) :
    declareAll table (first ++ second) globals
      = declareAll table second (declareAll table first globals) :=
  List.foldl_append

/-- Names may be declared before or after another one, which has a slot, is given a unit. -/
theorem declareAll_define (h : globals.Reached) {name : Symbol} {slot : Nat}
    (hslot : globals.slot? name = some slot) (unit : CodeUnit) (definitions : List Definition) :
    declareAll table definitions (globals.define name unit).2
      = ((declareAll table definitions globals).define name unit).2 := by
  induction definitions generalizing globals with
  | nil => rfl
  | cons definition others ih =>
      rw [declareAll_cons, declareAll_cons, h.distinct.declare_define hslot]
      exact ih (h.declare _) (Globals.slot?_declare_of_slot? hslot _)

/-- A name that resolves does so when further names are declared. -/
theorem resolve?_declareAll (h : globals.Reached) {name : Symbol} {slot : Nat}
    (hresolve : globals.resolve? name = some slot) (definitions : List Definition) :
    (declareAll table definitions globals).resolve? name = some slot := by
  obtain ⟨hslot, status, hstatus, hlive⟩ := h.distinct.resolve?_eq_some_iff.mp hresolve
  refine (reached_declareAll table h definitions).distinct.resolve?_eq_some_iff.mpr
    ⟨slot?_declareAll hslot definitions, ?_⟩
  rw [status?_declareAll]
  split
  · exact ⟨_, rfl, Global.Status.isLive_declareFrom _⟩
  · exact ⟨status, hstatus, hlive⟩

/-- Names that are declared leave the others their meaning. -/
theorem extends_declareAll (h : globals.Reached) (definitions : List Definition) :
    Environment.Extends ⟨globals, table⟩ ⟨declareAll table definitions globals, table⟩ where
  table_eq := rfl
  reference?_eq := by
    intro name reference hreference
    obtain ⟨slot, hresolve, rfl⟩ := Option.map_eq_some_iff.mp hreference
    exact Option.map_eq_some_iff.mpr ⟨slot, resolve?_declareAll h hresolve definitions, rfl⟩

/-! ## Compiling -/

/-- Definitions that all have code may be compiled before or after further names are declared. -/
theorem compileAll_declareAll (h : globals.Reached) {first : List Definition}
    (hlive : ∀ name ∈ symbols table first, ∃ slot, globals.slot? name = some slot)
    (hcode : (compileAll table globals first).2.2 = none) (second : List Definition) :
    compileAll table (declareAll table second globals) first
      = (declareAll table second (compileAll table globals first).1,
          (compileAll table globals first).2) := by
  induction first generalizing globals with
  | nil => rfl
  | cons definition others ih =>
      cases hunit : Compile.function ⟨globals, table⟩ definition with
      | error reason =>
          rw [compileAll_cons_error hunit] at hcode
          cases hcode
      | ok unit =>
          obtain ⟨slot, hslot⟩ := hlive (definition.symbol table) List.mem_cons_self
          have hlater := Compile.extends_function (extends_declareAll h second) definition unit hunit
          have hplace : (declareAll table second globals).slotOf (definition.symbol table)
              = globals.slotOf (definition.symbol table) := by
            rw [Globals.slotOf_eq, Globals.slotOf_eq, slot?_declareAll hslot, hslot,
              Option.getD_some, Option.getD_some]
          have hkept : ∀ name ∈ symbols table others,
              ∃ place, (globals.define (definition.symbol table) unit).2.slot? name = some place := by
            intro name hname
            rw [Globals.slot?_congr (Globals.names_define hslot unit)]
            exact hlive name (List.mem_cons_of_mem _ hname)
          rw [compileAll_cons_ok hunit] at hcode ⊢
          rw [compileAll_cons_ok hlater, hplace, ← declareAll_define h hslot,
            ih (h.define _ unit) hkept hcode]

/-- Definitions are compiled one after the other. -/
theorem compileAll_append {first : List Definition}
    (hcode : (compileAll table globals first).2.2 = none) (second : List Definition) :
    compileAll table globals (first ++ second)
      = ((compileAll table (compileAll table globals first).1 second).1,
          (compileAll table globals first).2.1
            ++ (compileAll table (compileAll table globals first).1 second).2.1,
          (compileAll table (compileAll table globals first).1 second).2.2) := by
  induction first generalizing globals with
  | nil => rfl
  | cons definition others ih =>
      cases hunit : Compile.function ⟨globals, table⟩ definition with
      | error reason =>
          rw [compileAll_cons_error hunit] at hcode
          cases hcode
      | ok unit =>
          rw [compileAll_cons_ok hunit] at hcode ⊢
          rw [List.cons_append, compileAll_cons_ok hunit, ih hcode]
          rfl

/-- Definitions fill a table in one go as they do in two. -/
theorem filled_append (h : globals.Reached) {first : List Definition}
    (hcode : (filled table first globals).2.2 = none) (second : List Definition) :
    filled table (first ++ second) globals
      = ((filled table second (filled table first globals).1).1,
          (filled table first globals).2.1
            ++ (filled table second (filled table first globals).1).2.1,
          (filled table second (filled table first globals).1).2.2) := by
  have hlive : ∀ name ∈ symbols table first,
      ∃ slot, (declareAll table first globals).slot? name = some slot := by
    intro name hname
    refine Option.ne_none_iff_exists'.mp fun hnone => ?_
    have hstatus := Globals.status?_eq_none_iff.mpr hnone
    rw [status?_declareAll, if_pos hname] at hstatus
    cases hstatus
  -- All names are declared; then the first definitions are compiled, as if only theirs were.
  have hfirst := compileAll_declareAll (reached_declareAll table h first) hlive hcode second
  rw [filled, declareAll_append, compileAll_append (by rw [hfirst]; exact hcode), hfirst]
  rfl

/-! ## Builds -/

/-- A build succeeds just if all was read and all has code. -/
theorem error_ofDefinitions_eq_none_iff {definitions : List Definition}
    {parseError : Option ParseError} :
    (ofDefinitions table definitions parseError globals).error = none
      ↔ parseError = none ∧ (filled table definitions globals).2.2 = none := by
  rw [error_ofDefinitions, Option.or_eq_none_iff, Option.map_eq_none_iff, Option.map_eq_none_iff,
    and_comm]

/-- A build that succeeds withdraws nothing. -/
theorem ofDefinitions_eq_of_filled {definitions : List Definition}
    (hcode : (filled table definitions globals).2.2 = none) :
    ofDefinitions table definitions none globals
      = ⟨(filled table definitions globals).1, (filled table definitions globals).2.1, [], none⟩ := by
  rw [filled] at hcode ⊢
  rw [ofDefinitions]
  dsimp only
  rw [hcode]
  rfl

/-- Definitions are built in one go as they are in two. -/
theorem ofDefinitions_append (h : globals.Reached) {first second : List Definition}
    (hfirst : (ofDefinitions table first none globals).error = none)
    (hsecond : (ofDefinitions table second none
      (ofDefinitions table first none globals).globals).error = none) :
    ofDefinitions table (first ++ second) none globals
      = ⟨(ofDefinitions table second none (ofDefinitions table first none globals).globals).globals,
          (ofDefinitions table first none globals).compiled
            ++ (ofDefinitions table second none
              (ofDefinitions table first none globals).globals).compiled, [], none⟩ := by
  have hcode := (error_ofDefinitions_eq_none_iff.mp hfirst).2
  rw [ofDefinitions_eq_of_filled hcode] at hsecond ⊢
  have hcode' := (error_ofDefinitions_eq_none_iff.mp hsecond).2
  have happend := filled_append h hcode second
  rw [ofDefinitions_eq_of_filled hcode',
    ofDefinitions_eq_of_filled (by rw [happend]; exact hcode'), happend]

/-- A text is read to its end if there is no error behind the definitions. -/
theorem definitions_of_parseErrorOf_eq_none {source : List Char} (h : parseErrorOf source = none) :
    Parse.definitions (itemsOf source) = (definitionsOf source, .done () []) := by
  have hending : (Parse.definitions (itemsOf source)).2 = .done () [] := by
    rw [parseErrorOf] at h
    cases hending : (Parse.definitions (itemsOf source)).2 with
    | failed error rest =>
        rw [hending] at h
        cases h
    | done _ rest =>
        have hrest := (Grammar.definitions_sound (Prod.ext rfl hending)).1
        rw [hrest]
  exact Prod.ext rfl hending

theorem definitionsOf_of_definitions {source : List Char} {found : List Definition}
    (h : Parse.definitions (itemsOf source) = (found, .done () [])) :
    definitionsOf source = found ∧ parseErrorOf source = none := by
  rw [definitionsOf, parseErrorOf, h]
  exact ⟨rfl, rfl⟩

/-- Two texts that are built one after the other, both with success, are built in one go as one text
with a newline between them: there is no error, the table is the same, and the same definitions are
compiled, those of the first text before those of the second. -/
theorem ofSource_newline (table : Nat) (first second : List Char) (globals : Globals)
    (h : globals.Reached) (hfirst : (ofSource table first globals).error = none)
    (hsecond : (ofSource table second (ofSource table first globals).globals).error = none) :
    (ofSource table (first ++ '\n' :: second) globals).error = none
      ∧ (ofSource table (first ++ '\n' :: second) globals).globals
        = (ofSource table second (ofSource table first globals).globals).globals
      ∧ (ofSource table (first ++ '\n' :: second) globals).compiled
        = (ofSource table first globals).compiled
          ++ (ofSource table second (ofSource table first globals).globals).compiled := by
  rw [ofSource_eq table first] at hfirst hsecond ⊢
  rw [ofSource_eq table second] at hsecond ⊢
  have hread := (error_ofDefinitions_eq_none_iff.mp hfirst).1
  have hread' := (error_ofDefinitions_eq_none_iff.mp hsecond).1
  obtain ⟨hdefinitions, hend⟩ := definitionsOf_of_definitions
    (Grammar.definitions_newline (definitions_of_parseErrorOf_eq_none hread)
      (definitions_of_parseErrorOf_eq_none hread'))
  rw [hread] at hfirst hsecond ⊢
  rw [hread'] at hsecond ⊢
  rw [ofSource_eq, hdefinitions, hend, ofDefinitions_append h hfirst hsecond]
  exact ⟨rfl, rfl, rfl⟩

/-- A function that refers to itself, and on the next line another one with its name. -/
theorem ofSource_newline_redefinition :
    let first := ['d', 'e', 'f', 'u', 'n', ' ', 'f', '(', ')', '=', 'r', 'e', 't', 'u', 'r', 'n',
      ' ', 'f', ' ', 'e', 'n', 'd']
    let second := ['d', 'e', 'f', 'u', 'n', ' ', 'f', '(', ')', '=', 'f', ' ', 'e', 'n', 'd']
    let middle := (ofSource 0 first Globals.empty).globals
    let whole := ofSource 0 (first ++ '\n' :: second) Globals.empty
    Globals.empty.Reached ∧ (ofSource 0 first Globals.empty).error = none
      ∧ (ofSource 0 second middle).error = none
      ∧ whole.error = none ∧ whole.globals = (ofSource 0 second middle).globals
      ∧ whole.compiled
        = (ofSource 0 first Globals.empty).compiled ++ (ofSource 0 second middle).compiled
      ∧ whole.compiled.map Compiled.name = ["f", "f"] := by
  intro first second middle whole
  have hfirst : Parse.definition (itemsOf first)
      = .done (some ⟨"f", [], [.returning (some (.name "f"))]⟩) [] := by cbv
  have hsecond : Parse.definition (itemsOf second)
      = .done (some ⟨"f", [], [.expression (.name "f")]⟩) [] := by cbv
  have hmiddle : middle = (ofDefinitions 0 [⟨"f", [], [.returning (some (.name "f"))]⟩] none
      Globals.empty).globals :=
    congrArg Build.globals (ofSource_of_definition hfirst 0 Globals.empty)
  have hbuilt : (ofSource 0 first Globals.empty).error = none := by
    rw [ofSource_of_definition hfirst]
    cbv
  have hbuilt' : (ofSource 0 second middle).error = none := by
    rw [ofSource_of_definition hsecond, hmiddle]
    cbv
  obtain ⟨herror, hglobals, hcompiled⟩ :=
    ofSource_newline 0 first second Globals.empty .empty hbuilt hbuilt'
  refine ⟨.empty, hbuilt, hbuilt', herror, hglobals, hcompiled, ?_⟩
  rw [hcompiled, ofSource_of_definition hfirst, ofSource_of_definition hsecond]
  cbv

end StackLang.Build
