import StackLang.Proofs.Build.Stages

/-! # Histories of builds

Builds follow one another over one table of globals. What is left of them is, for each name, the
last definition that was compiled for it.

* `definitionsOf`, `parseErrorOf` — what is read from a source text.
* `accepted` — those of the definitions of a build that are compiled.
* `globalsAfter`, `compiledIn` — the table and the compiled definitions after a history of builds.
* `globalsAfterAll`, `compiledFor` — the same for a history over several tables of symbols.
* `Globals.OwnedBy` — all names belong to one table of symbols, so spellings tell them apart. -/

namespace StackLang

open Bytecode (CodeUnit)
open Compile (Environment)

/-- The error of an outcome, if there is one. -/
def Outcome.error? {α : Type} : Outcome α → Option ParseError
  | .done _ _ => none
  | .failed error _ => some error

/-! ## Names of one table of symbols -/

namespace Globals

/-- All names belong to the given table of symbols. -/
def OwnedBy (table : Nat) (globals : Globals) : Prop :=
  ∀ entry ∈ globals.entries, entry.name.table = table

variable {table : Nat}

theorem OwnedBy.setStatus {globals : Globals} (h : globals.OwnedBy table) (slot : Nat)
    (status : Global.Status) : (globals.setStatus slot status).OwnedBy table := by
  intro entry hmem
  obtain ⟨index, hlt, hentry⟩ := Array.mem_iff_getElem.mp hmem
  have hinside : index < globals.entries.size := by simpa [Globals.setStatus] using hlt
  have hname := h globals.entries[index] (Array.getElem_mem hinside)
  rw [← hentry]
  simp only [Globals.setStatus, Array.getElem_modify]
  split
  · exact hname
  · exact hname

theorem OwnedBy.declare {globals : Globals} (h : globals.OwnedBy table) {name : Symbol}
    (hname : name.table = table) : (globals.declare name).2.OwnedBy table := by
  unfold Globals.declare
  split
  · split
    · exact h.setStatus _ _
    · exact h
  · intro entry hmem
    rcases Array.mem_push.mp hmem with hold | rfl
    · exact h entry hold
    · exact hname

theorem OwnedBy.withdraw {globals shrunk : Globals} (h : globals.OwnedBy table) {name : Symbol}
    (hwithdraw : globals.withdraw? name = some shrunk) : shrunk.OwnedBy table := by
  obtain ⟨slot, -, hstatus⟩ := Option.bind_eq_some_iff.mp hwithdraw
  split at hstatus
  · cases hstatus
    exact h.setStatus _ _
  · cases hstatus

/-- In a table of one owner a spelling means the symbol of the owner. -/
theorem OwnedBy.find?_eq {globals : Globals} (h : globals.OwnedBy table) (spelling : String) :
    globals.find? spelling = globals.resolve? ⟨table, spelling⟩ := by
  have hsame : ∀ entry ∈ globals.entries, (entry.name.name = spelling)
      = (entry.name = ⟨table, spelling⟩) := by
    intro entry hmem
    apply propext
    constructor
    · intro hname
      rw [← hname, ← h entry hmem]
    · intro hname
      rw [hname]
  apply Option.ext
  intro slot
  rw [find?, resolve?, Array.findIdx?_eq_some_iff_getElem, Array.findIdx?_eq_some_iff_getElem]
  refine exists_congr fun hlt => ?_
  rw [decide_eq_decide.mpr (iff_of_eq (hsame _ (Array.getElem_mem hlt)))]
  refine and_congr_right fun _ => forall_congr' fun earlier => forall_congr' fun hearlier => ?_
  rw [decide_eq_decide.mpr
    (iff_of_eq (hsame _ (Array.getElem_mem (Nat.lt_trans hearlier hlt))))]

end Globals

namespace Build

variable {table : Nat}

/-! ## One build -/

/-- The definitions at the start of a source text, up to its end or to the first error. -/
def definitionsOf (source : List Char) : List Definition :=
  (Parse.definitions (itemsOf source)).1

/-- The error behind these definitions, if there is one. -/
def parseErrorOf (source : List Char) : Option ParseError :=
  (Parse.definitions (itemsOf source)).2.error?

/-- What is read from a text with one definition and nothing behind it. -/
theorem definitionsOf_of_definition {source : List Char} {found : Definition}
    (h : Parse.definition (itemsOf source) = .done (some found) []) :
    definitionsOf source = [found] ∧ parseErrorOf source = none := by
  have hend : Parse.definitions [] = ([], .done () []) := Parse.definitions_eq []
  have hread : Parse.definitions (itemsOf source) = ([found], .done () []) := by
    rw [Parse.definitions_eq, h]
    dsimp only
    rw [hend]
  rw [definitionsOf, parseErrorOf, hread]
  exact ⟨rfl, rfl⟩

/-- What names mean once all definitions are declared. -/
def declared (table : Nat) (definitions : List Definition) (globals : Globals) : Environment :=
  ⟨declareAll table definitions globals, table⟩

/-- Those of the definitions that are compiled: the ones before the first without code. -/
def accepted (table : Nat) (definitions : List Definition) (globals : Globals) : List Definition :=
  definitions.take (rejectedAt (declared table definitions globals) definitions)

theorem ofSource_eq (table : Nat) (source : List Char) (globals : Globals) :
    ofSource table source globals
      = ofDefinitions table (definitionsOf source) (parseErrorOf source) globals := by
  rw [ofSource, ofItems, definitionsOf, parseErrorOf]
  obtain ⟨definitions, ending⟩ := Parse.definitions (itemsOf source)
  cases ending <;> rfl

/-- A text with one definition and nothing behind it is built by compiling this definition. -/
theorem ofSource_of_definition {source : List Char} {found : Definition}
    (h : Parse.definition (itemsOf source) = .done (some found) []) (table : Nat)
    (globals : Globals) :
    ofSource table source globals = ofDefinitions table [found] none globals := by
  obtain ⟨hread, herror⟩ := definitionsOf_of_definition h
  rw [ofSource_eq, hread, herror]

/-- The table that is filled with the units of definitions, what was compiled for it, and the error
at which compiling stopped. -/
def filled (table : Nat) (definitions : List Definition) (globals : Globals) :
    Globals × List Compiled × Option CompileError :=
  compileAll table (declareAll table definitions globals) definitions

theorem error_ofDefinitions (table : Nat) (definitions : List Definition)
    (parseError : Option ParseError) (globals : Globals) :
    (ofDefinitions table definitions parseError globals).error
      = ((filled table definitions globals).2.2.map .compile).or (parseError.map .parse) := by
  rw [ofDefinitions, filled]
  dsimp only
  split
  · next hnone => exact hnone.symm
  · next error hsome => exact hsome.symm

theorem compiled_ofDefinitions (table : Nat) (definitions : List Definition)
    (parseError : Option ParseError) (globals : Globals) :
    (ofDefinitions table definitions parseError globals).compiled
      = (filled table definitions globals).2.1 := by
  rw [ofDefinitions, filled]
  dsimp only
  split <;> rfl

/-- The table is filled, and then withdrawn from if the build fails. -/
theorem globals_ofDefinitions (table : Nat) (definitions : List Definition)
    (parseError : Option ParseError) (globals : Globals) :
    (ofDefinitions table definitions parseError globals).globals
      = if (ofDefinitions table definitions parseError globals).error = none
        then (filled table definitions globals).1
        else (withdrawAll table (filled table definitions globals).1 definitions).1 := by
  rw [error_ofDefinitions, ofDefinitions, filled]
  dsimp only
  split
  · next hnone => rw [if_pos hnone]
  · next error hsome =>
      rw [if_neg]
      rw [hsome]
      exact Option.some_ne_none error

/-- Once they are declared, the definitions are compiled one after the other. -/
theorem stage_filled (table : Nat) {globals : Globals} (h : globals.Reached)
    (definitions : List Definition) :
    Stage table (declared table definitions globals) definitions
      (declareAll table definitions globals) (filled table definitions globals).1
      (filled table definitions globals).2.1 (filled table definitions globals).2.2 := by
  have hdistinct := (reached_declareAll table h definitions).distinct
  refine stage_compileAll definitions hdistinct ⟨rfl, fun _ => rfl⟩ fun name hmem => ?_
  rw [hdistinct.isSome_resolve?, status?_declareAll, if_pos hmem]
  exact ⟨_, rfl, Global.Status.isLive_declareFrom _⟩

theorem reached_filled (table : Nat) {globals : Globals} (h : globals.Reached)
    (definitions : List Definition) : (filled table definitions globals).1.Reached :=
  (kept_reached table).after_compileAll (reached_declareAll table h definitions) definitions

/-- What the operations keep is kept by a build, be it a success or not. -/
theorem Kept.after_ofDefinitions {property : Globals → Prop} (hkept : Kept table property)
    {globals : Globals} (h : property globals) (definitions : List Definition)
    (parseError : Option ParseError) :
    property (ofDefinitions table definitions parseError globals).globals := by
  have hfilled : property (filled table definitions globals).1 :=
    hkept.after_compileAll (hkept.after_declareAll h definitions) definitions
  rw [globals_ofDefinitions]
  split
  · exact hfilled
  · exact hkept.after_withdrawAll hfilled definitions

/-- A build leads from tables that are reached to tables that are reached. -/
theorem reached_ofDefinitions {globals : Globals} (h : globals.Reached)
    (definitions : List Definition) (parseError : Option ParseError) (table : Nat) :
    (ofDefinitions table definitions parseError globals).globals.Reached :=
  (kept_reached table).after_ofDefinitions h definitions parseError

theorem reached_ofSource {globals : Globals} (h : globals.Reached) (source : List Char) :
    (ofSource table source globals).globals.Reached := by
  rw [ofSource_eq]
  exact reached_ofDefinitions h _ _ table

/-! ## Histories -/

/-- The table after a history of builds, the latest first, whose names belong to one table of
symbols. -/
def globalsAfter (table : Nat) : List (List Char) → Globals
  | [] => Globals.empty
  | latest :: earlier => (ofSource table latest (globalsAfter table earlier)).globals

/-- The definitions that were compiled in a history of builds, the latest last. -/
def compiledIn (table : Nat) : List (List Char) → List Definition
  | [] => []
  | latest :: earlier =>
      compiledIn table earlier ++ accepted table (definitionsOf latest) (globalsAfter table earlier)

theorem latest?_append (first second : List Definition) (name : Symbol) :
    latest? table (first ++ second) name
      = (latest? table second name).or (latest? table first name) := by
  rw [latest?, List.filter_append, List.getLast?_append, latest?, latest?]

/-- A history of builds leads to tables that are reached. -/
theorem reached_globalsAfter (table : Nat) (sources : List (List Char)) :
    (globalsAfter table sources).Reached := by
  induction sources with
  | nil => exact .empty
  | cons latest earlier ih => exact reached_ofSource ih latest

/-- Where all names belong to a table of symbols, only its symbols are added. -/
theorem kept_ownedBy (table : Nat) : Kept table (Globals.OwnedBy table) :=
  ⟨fun _ h => h.declare rfl, fun _ _ h => (h.declare rfl).setStatus _ _,
    fun h hshrunk => h.withdraw hshrunk⟩

/-- After a history over one table of symbols all names belong to it. -/
theorem ownedBy_globalsAfter (table : Nat) (sources : List (List Char)) :
    (globalsAfter table sources).OwnedBy table := by
  induction sources with
  | nil =>
      intro entry hmem
      simp [globalsAfter, Globals.empty] at hmem
  | cons latest earlier ih =>
      rw [globalsAfter, ofSource_eq]
      exact (kept_ownedBy table).after_ofDefinitions ih _ _

/-! ## Histories over several tables of symbols -/

/-- A source text, and the table of symbols to which its names belong. -/
structure Source where
  /-- The table of symbols. -/
  table : Nat
  /-- The text. -/
  text : List Char

/-- The table after a history of builds, the latest first. -/
def globalsAfterAll : List Source → Globals
  | [] => Globals.empty
  | latest :: earlier => (ofSource latest.table latest.text (globalsAfterAll earlier)).globals

/-- The definitions whose names belong to a table of symbols, of those that were compiled in a
history of builds. -/
def compiledFor (table : Nat) : List Source → List Definition
  | [] => []
  | latest :: earlier =>
      compiledFor table earlier
        ++ if latest.table = table then
            accepted latest.table (definitionsOf latest.text) (globalsAfterAll earlier)
          else []

/-- The last definition of a name is that of the latest build, or else the one before. -/
theorem latest?_compiledFor_cons (latest : Source) (earlier : List Source) (name : Symbol) :
    latest? name.table (compiledFor name.table (latest :: earlier)) name
      = (latest? latest.table
            (accepted latest.table (definitionsOf latest.text) (globalsAfterAll earlier)) name).or
          (latest? name.table (compiledFor name.table earlier) name) := by
  rw [compiledFor, latest?_append]
  split
  · next hsame => rw [hsame]
  · next hother =>
      -- A definition of the latest build has a name of another table.
      cases hlatest : latest? latest.table
          (accepted latest.table (definitionsOf latest.text) (globalsAfterAll earlier)) name with
      | none => rw [latest?_nil]
      | some found => exact absurd (congrArg Symbol.table (mem_of_latest? hlatest).2) hother

/-- A history of builds leads to tables that are reached, whatever their tables of symbols are. -/
theorem reached_globalsAfterAll (sources : List Source) : (globalsAfterAll sources).Reached := by
  induction sources with
  | nil => exact .empty
  | cons latest earlier ih => exact reached_ofSource ih latest.text

end Build

end StackLang
