import StackLang.Compile.Statement
import StackLang.Event
import StackLang.Parse.Definition

/-! # Builds

A build compiles the definitions of a source text into the table of globals. All their names are
declared before any of them is compiled, so they may refer to each other in any order. A build that
fails keeps what it has compiled, and withdraws the names that are left without a unit.

* `Build` — what a build does to the table, and how far it comes.
* `Build.ofItems`, `Build.ofSource` — build a source text.
* `Build.events`, `Build.reports` — what is reported of a build, with the code and without it. -/

namespace StackLang

open Bytecode (CodeUnit)

/-- Why a build fails. -/
inductive BuildError where
  /-- The text is not a list of definitions. -/
  | parse (error : ParseError)
  /-- There is no code for a definition. -/
  | compile (error : CompileError)
  deriving DecidableEq, Repr

/-- The message of an error. -/
def BuildError.message : BuildError → String
  | .parse error => error.message
  | .compile error => error.message

/-- A definition that has been compiled. -/
structure Compiled where
  /-- The name of the function. -/
  name : String
  /-- The slot of the function in the table of globals. -/
  slot : Nat
  /-- The code of the function. -/
  unit : CodeUnit
  deriving DecidableEq, Repr

/-- The result of a build. -/
structure Build where
  /-- The table of globals afterwards. -/
  globals : Globals
  /-- The definitions that were compiled, in the order of the source. -/
  compiled : List Compiled
  /-- The names that were withdrawn, in the order of the source. -/
  withdrawn : List String
  /-- Why the build failed, if it did. -/
  error : Option BuildError

namespace Build

/-- Declare the names of definitions. -/
def declareAll (table : Nat) (definitions : List Definition) (globals : Globals) : Globals :=
  definitions.foldl (fun globals definition => (globals.declare ⟨table, definition.name⟩).2) globals

/-- Compile definitions one after the other, up to the first for which there is no code. -/
def compileAll (table : Nat) (globals : Globals) :
    List Definition → Globals × List Compiled × Option CompileError
  | [] => (globals, [], none)
  | definition :: others =>
      match Compile.function ⟨globals, table⟩ definition with
      | .error error => (globals, [], some error)
      | .ok unit =>
          let (slot, extended) := globals.define ⟨table, definition.name⟩ unit
          let (final, compiled, error) := compileAll table extended others
          (final, ⟨definition.name, slot, unit⟩ :: compiled, error)

/-- Withdraw those names of definitions that have no unit. -/
def withdrawAll (table : Nat) (globals : Globals) : List Definition → Globals × List String
  | [] => (globals, [])
  | definition :: others =>
      match globals.withdraw? ⟨table, definition.name⟩ with
      | none => withdrawAll table globals others
      | some shrunk =>
          let (final, withdrawn) := withdrawAll table shrunk others
          (final, definition.name :: withdrawn)

/-- Build definitions that were read before the text ended or an error was met. An error in their
code comes before the error in the text, which lies behind them. -/
def ofDefinitions (table : Nat) (definitions : List Definition) (parseError : Option ParseError)
    (globals : Globals) : Build :=
  -- A definition may refer to itself and to those behind it.
  let (filled, compiled, compileError) :=
    compileAll table (declareAll table definitions globals) definitions
  match (compileError.map BuildError.compile).or (parseError.map BuildError.parse) with
  | none => ⟨filled, compiled, [], none⟩
  | some error =>
      let (final, withdrawn) := withdrawAll table filled definitions
      ⟨final, compiled, withdrawn, some error⟩

/-- Build the items of a source text whose names belong to the given table of symbols. -/
def ofItems (table : Nat) (items : List Item) (globals : Globals) : Build :=
  let (definitions, ending) := Parse.definitions items
  match ending with
  | .done _ _ => ofDefinitions table definitions none globals
  | .failed error _ => ofDefinitions table definitions (some error) globals

/-- Build a source text. -/
def ofSource (table : Nat) (source : List Char) (globals : Globals) : Build :=
  ofItems table (itemsOf source) globals

/-- The slot of the first compiled definition with a name. -/
def slot? (build : Build) (name : String) : Option Nat :=
  (build.compiled.find? fun definition => definition.name = name).map Compiled.slot

/-- All that is reported of a build. -/
def events (build : Build) : List Event :=
  (build.compiled.flatMap fun definition => [.compiled definition.unit, .listed definition.unit])
    ++ build.withdrawn.map .withdrawn

/-- What is reported of a build without the code. -/
def reports (build : Build) : List Event :=
  build.compiled.map (fun definition => .compiled definition.unit)
    ++ build.withdrawn.map .withdrawn

end Build

end StackLang
