import StackLang.Proofs.Build.Contract
import StackLang.Proofs.Simulation.Statement

/-! # Calls after a history of builds

After a history of builds the table implements the program that maps each name to the definition
that was compiled for it last. So calling a function runs as evaluating the last definitions does.

* `programAfter` — the program that a history of builds leaves.
* `Stands` — how far a name has come in a table.
* `implements_programAfter` — the table of the history implements it.
* `call_eq_interpreter` — a call gives what the interpreter gives, be it a value or an error. -/

namespace StackLang.Simulation

open Build (accepted compiledIn declared definitionsOf globalsAfter latest? parseErrorOf)
open Bytecode (CodeUnit)
open Compile (Environment)
open Interpreter (Failure)
open Machine (Ending)

/-- The program that a history of builds leaves: behind a name stands the last definition that was
compiled for it, and a global name means the slot that it has. -/
def programAfter (table : Nat) (sources : List (List Char)) : Program where
  definition? := latest? table (compiledIn table sources)
  reference name := ⟨(globalsAfter table sources).slotOf ⟨table, name⟩, ⟨table, name⟩⟩

/-- What a build that was not the last one knew of names: they belong to the table of symbols, and
have kept the slots that they had. -/
structure Earlier (table : Nat) (globals : Globals) (environment : Environment) : Prop where
  /-- The names belong to the table of symbols. -/
  table_eq : environment.table = table
  /-- Names have kept their slots. -/
  slot?_eq : ∀ name slot, environment.globals.resolve? name = some slot →
    globals.slot? name = some slot

/-- How far a name has come: it has the unit of the definition that was compiled for it, or none. -/
def Stands (globals : Globals) (name : Symbol) (definition? : Option Definition) : Prop :=
  match definition? with
  | none => (globals.status? name).bind Global.Status.unit? = none
  | some definition => ∃ environment unit,
      (globals.status? name).bind Global.Status.unit? = some unit
        ∧ Earlier name.table globals environment
        ∧ Compile.function environment definition = .ok unit

theorem stands_empty (name : Symbol) : Stands Globals.empty name none := by
  simp [Stands, Globals.status?, Globals.slot?, Globals.empty]

/-- After a build a name stands for the last definition that was compiled for it then, or else for
the one before. -/
theorem Stands.build {globals : Globals} (hreached : globals.Reached) {name : Symbol}
    {definition? : Option Definition} (h : Stands globals name definition?) (table : Nat)
    (source : List Char) :
    Stands (Build.ofSource table source globals).globals name
      ((latest? table (accepted table (definitionsOf source) globals) name).or definition?) := by
  have hslots : ∀ other, (Build.ofDefinitions table (definitionsOf source) (parseErrorOf source)
      globals).globals.slot? other
        = (declared table (definitionsOf source) globals).globals.slot? other :=
    Build.slot?_ofDefinitions hreached (definitionsOf source) (parseErrorOf source)
  rw [Build.ofSource_eq]
  cases hlatest : latest? table (accepted table (definitionsOf source) globals) name with
  | some definition =>
      obtain ⟨unit, hcode, hstatus⟩ :=
        Build.status?_latest hreached _ (parseErrorOf source) hlatest
      have htable : table = name.table := congrArg Symbol.table (Build.mem_of_latest? hlatest).2
      refine ⟨_, unit, by rw [hstatus]; rfl, ⟨htable, ?_⟩, hcode⟩
      intro other slot hresolve
      rw [hslots]
      exact ((Build.reached_declareAll table hreached _).distinct.resolve?_eq_some_iff.mp
        hresolve).1
  | none =>
      -- The build has left the name alone, so it is as it was before.
      rw [Option.none_or]
      have hsame := Build.unit?_status?_other hreached _ (parseErrorOf source) hlatest
      match definition?, h with
      | none, hnone => exact hsame.trans hnone
      | some definition, ⟨environment, unit, hunit, hearlier, hcode⟩ =>
          refine ⟨environment, unit, hsame.trans hunit, ⟨hearlier.table_eq, ?_⟩, hcode⟩
          intro other slot hresolve
          rw [hslots]
          exact Build.slot?_declareAll (hearlier.slot?_eq other slot hresolve) _

/-- After a history of builds a name stands for the last definition that was compiled for it. -/
theorem stands_globalsAfter (table : Nat) (sources : List (List Char)) (name : Symbol) :
    Stands (globalsAfter table sources) name (latest? table (compiledIn table sources) name) := by
  induction sources with
  | nil => exact stands_empty name
  | cons latest earlier ih =>
      rw [compiledIn, Build.latest?_append]
      exact ih.build (Build.reached_globalsAfter table earlier) table latest

/-- A name of the table of symbols has the unit of the last definition that was compiled for it, or
none. -/
theorem unit?_globalsAfter (table : Nat) (sources : List (List Char)) (name : Symbol) :
    match latest? table (compiledIn table sources) name with
    | none => ((globalsAfter table sources).status? name).bind Global.Status.unit? = none
    | some definition => ∃ environment unit,
        ((globalsAfter table sources).status? name).bind Global.Status.unit? = some unit
          ∧ Earlier table (globalsAfter table sources) environment
          ∧ Compile.function environment definition = .ok unit := by
  have hstands := stands_globalsAfter table sources name
  cases hlatest : latest? table (compiledIn table sources) name with
  | none =>
      rw [hlatest] at hstands
      exact hstands
  | some definition =>
      rw [hlatest] at hstands
      obtain ⟨environment, unit, hunit, hearlier, hcode⟩ := hstands
      have htable : name.table = table :=
        (congrArg Symbol.table (Build.mem_of_latest? hlatest).2).symm
      exact ⟨environment, unit, hunit, htable ▸ hearlier, hcode⟩

/-- How far a name has come after a history over several tables of symbols. -/
theorem stands_globalsAfterAll (sources : List Build.Source) (name : Symbol) :
    Stands (Build.globalsAfterAll sources) name
      (latest? name.table (Build.compiledFor name.table sources) name) := by
  induction sources with
  | nil => exact stands_empty name
  | cons latest earlier ih =>
      rw [Build.latest?_compiledFor_cons]
      exact ih.build (Build.reached_globalsAfterAll earlier) latest.table latest.text

/-- What names meant when a definition was compiled is what they mean in a program whose references
have the slots of the table. -/
theorem faithful_of_earlier {program : Program} {table : Nat} {globals : Globals}
    (hreference : ∀ name, program.reference name = ⟨globals.slotOf ⟨table, name⟩, ⟨table, name⟩⟩)
    {environment : Environment} (h : Earlier table globals environment) :
    Faithful program globals environment := by
  intro name reference hmeans
  obtain ⟨slot, hresolve, rfl⟩ := Option.map_eq_some_iff.mp hmeans
  have hslot := h.slot?_eq _ _ hresolve
  have hsymbol : environment.symbol name = ⟨table, name⟩ := by
    rw [Environment.symbol, h.table_eq]
  rw [hsymbol] at hslot ⊢
  refine ⟨?_, hslot⟩
  rw [hreference, Globals.slotOf_eq, hslot, Option.getD_some]

theorem Earlier.faithful {table : Nat} {sources : List (List Char)} {environment : Environment}
    (h : Earlier table (globalsAfter table sources) environment) :
    Faithful (programAfter table sources) (globalsAfter table sources) environment :=
  faithful_of_earlier (fun _ => rfl) h

/-- A table implements a program if names stand for its definitions, which all belong to one table
of symbols, and if its references have the slots of the table. -/
theorem implements_of_stands {program : Program} {table : Nat} {globals : Globals}
    (hreference : ∀ name, program.reference name = ⟨globals.slotOf ⟨table, name⟩, ⟨table, name⟩⟩)
    (htable : ∀ name definition, program.definition? name = some definition → name.table = table)
    (hstands : ∀ name, Stands globals name (program.definition? name)) :
    Implements program globals := by
  constructor
  · intro name slot hslot hnone
    have hunit := hstands name
    rw [hnone] at hunit
    rw [Globals.unit?_of_slot? hslot]
    exact hunit
  · intro name slot definition hslot hsome
    have hunit := hstands name
    rw [hsome] at hunit
    obtain ⟨environment, unit, hstatus, hearlier, hcode⟩ := hunit
    rw [htable name definition hsome] at hearlier
    refine ⟨environment, unit, ?_, faithful_of_earlier hreference hearlier, hcode⟩
    rw [Globals.unit?_of_slot? hslot, hstatus]

/-- The table that a history of builds leaves implements the program that it leaves. -/
theorem implements_programAfter (table : Nat) (sources : List (List Char)) :
    Implements (programAfter table sources) (globalsAfter table sources) :=
  implements_of_stands (fun _ => rfl)
    (fun _ _ hlatest => (congrArg Symbol.table (Build.mem_of_latest? hlatest).2).symm)
    (stands_globalsAfter table sources)

/-- The unit of a name that resolves is the one that its status tells. -/
theorem unit?_of_resolve? {globals : Globals} (h : globals.Distinct) (name : Symbol) :
    (globals.resolve? name).bind globals.unit?
      = (globals.status? name).bind Global.Status.unit? := by
  cases hresolve : globals.resolve? name with
  | some slot =>
      rw [Option.bind_some, Globals.unit?_of_slot? (h.resolve?_eq_some_iff.mp hresolve).1]
  | none =>
      rw [Option.bind_none, eq_comm, Option.bind_eq_none_iff]
      intro status hstatus
      -- A status with a unit would be live.
      cases hunit : status.unit? with
      | none => rfl
      | some unit =>
          have hlive := (h.isSome_resolve? name).mpr
            ⟨status, hstatus, Global.Status.isLive_of_unit? hunit⟩
          rw [hresolve] at hlive
          cases hlive

/-- A run that agrees with a result and comes to it ends with it. -/
theorem Simulated.result_eq {ending : Ending} {goal : Option Value → Prop}
    {outcome : Interpreter.Result (Option Value)} (h : Simulated ending goal outcome)
    (hgoal : ∀ value, goal value → ending.result = .ok value) :
    ending.result.mapError Failure.runtime = outcome := by
  match outcome with
  | .ok value => rw [hgoal value h]; rfl
  | .error (.runtime error) =>
      rw [show ending.result = .error error from h]
      rfl
  | .error .meaningless => cases h

/-- What is needed to run the code of a unit from outside: all calls but its own are handled. -/
theorem running_outermost {program : Program} {globals : Globals} (h : Implements program globals)
    {environment : Environment} (hfaithful : Faithful program globals environment)
    (unit : CodeUnit) :
    Running program globals
      (Machine.execute globals (globals.codeLimit unit)
        fun _ _ known => Globals.size_le_codeLimit_of_unit? known unit)
      (Interpreter.invoke program (Machine.maxFrames - 1)) environment (Machine.maxFrames - 1) [] :=
  have hruns := Machine.runs_execute globals (globals.codeLimit unit)
    fun _ _ known => Globals.size_le_codeLimit_of_unit? known unit
  ⟨hruns, h, hfaithful, serves_invoke hruns h (Machine.maxFrames - 1), rfl⟩

/-- A run of the unit of a definition gives what its body gives. -/
theorem run_eq_body {program : Program} {globals : Globals} (h : Implements program globals)
    {environment : Environment} (hfaithful : Faithful program globals environment)
    {definition : Definition} {unit : CodeUnit}
    (hcode : Compile.function environment definition = .ok unit) {arguments : List Value}
    (harguments : ∀ value ∈ arguments, globals.Knows value) :
    (Machine.run globals unit arguments).result.mapError Failure.runtime
      = if definition.parameters.length = arguments.length then
          Interpreter.body program (Interpreter.invoke program (Machine.maxFrames - 1)) definition
            arguments 0
        else
          .error (.runtime (.arityMismatch definition.name
            (UInt8.ofNat definition.parameters.length) arguments.length)) := by
  obtain ⟨hname, harity, hcount⟩ := displayName_arity_of_function hcode
  have hnumber : unit.arity.toNat = definition.parameters.length := by
    rw [harity]
    exact Compile.toNat_ofNat_of_le_maxArguments hcount
  rw [Machine.run, hnumber]
  by_cases hlength : definition.parameters.length = arguments.length
  · rw [if_pos hlength, if_pos hlength]
    have hsimulated := simulated_body (running_outermost h hfaithful unit) hcode harguments hlength
      #[]
    rw [Array.empty_append] at hsimulated
    refine hsimulated.result_eq ?_
    rintro result ⟨-, offset, stack, hshrink, hending⟩
    refine (congrArg Ending.result hending).trans ?_
    cases result with
    | none => rfl
    | some value =>
        rw [Machine.leave, hshrink]
        rfl
  · rw [if_neg hlength, if_neg hlength, hname, harity]
    rfl

/-- After any history of builds, a call gives what the interpreter gives for the last definitions
that were compiled, whatever was run before: the same value, or the same error. -/
theorem call_eq_interpreter (table : Nat) (sources : List (List Char)) (name : String)
    (arguments : List Value) (before : Stack)
    (hknown : ∀ value ∈ arguments, (globalsAfter table sources).Knows value) :
    (Machine.call (globalsAfter table sources) name arguments before).result.mapError
        Failure.runtime
      = Interpreter.call (programAfter table sources) ⟨table, name⟩ arguments := by
  have hstatus := unit?_globalsAfter table sources ⟨table, name⟩
  rw [Machine.call, (Build.ownedBy_globalsAfter table sources).find?_eq,
    unit?_of_resolve? (Build.reached_globalsAfter table sources).distinct, Interpreter.call]
  cases hlatest : latest? table (compiledIn table sources) ⟨table, name⟩ with
  | none =>
      rw [hlatest] at hstatus
      rw [hstatus, show (programAfter table sources).definition? ⟨table, name⟩ = none from hlatest]
      rfl
  | some definition =>
      rw [hlatest] at hstatus
      obtain ⟨environment, unit, hunit, hearlier, hcode⟩ := hstatus
      rw [hunit,
        show (programAfter table sources).definition? ⟨table, name⟩ = some definition from hlatest]
      exact run_eq_body (implements_programAfter table sources) hearlier.faithful hcode hknown

/-- A function gives back its argument, a reference to itself. A later build fails to redefine it,
so the first definition is the last that was compiled. -/
theorem call_eq_interpreter_redefinition :
    let first := ['d', 'e', 'f', 'u', 'n', ' ', 'f', '(', 'x', ')', '=', 'r', 'e', 't', 'u', 'r',
      'n', ' ', 'x', ' ', 'e', 'n', 'd']
    let second := ['d', 'e', 'f', 'u', 'n', ' ', 'f', '(', 'x', ')', '=', 'y', ' ', 'e', 'n', 'd']
    let argument : Value := .function ⟨0, ⟨0, "f"⟩⟩
    (globalsAfter 0 [second, first]).Knows argument
      ∧ (programAfter 0 [second, first]).definition? ⟨0, "f"⟩
        = some ⟨"f", ["x"], [.returning (some (.name "x"))]⟩
      ∧ (Machine.call (globalsAfter 0 [second, first]) "f" [argument] #[]).result.mapError
          Failure.runtime
        = Interpreter.call (programAfter 0 [second, first]) ⟨0, "f"⟩ [argument]
      ∧ Interpreter.call (programAfter 0 [second, first]) ⟨0, "f"⟩ [argument]
        = .ok (some argument) := by
  intro first second argument
  have hfirst : Parse.definition (itemsOf first)
      = .done (some ⟨"f", ["x"], [.returning (some (.name "x"))]⟩) [] := by cbv
  have hsecond : Parse.definition (itemsOf second)
      = .done (some ⟨"f", ["x"], [.expression (.name "y")]⟩) [] := by cbv
  obtain ⟨hread, herror⟩ := Build.definitionsOf_of_definition hfirst
  obtain ⟨hreadSecond, herrorSecond⟩ := Build.definitionsOf_of_definition hsecond
  have hbefore : globalsAfter 0 [first]
      = (Build.ofDefinitions 0 [⟨"f", ["x"], [.returning (some (.name "x"))]⟩] none
          Globals.empty).globals := by
    rw [globalsAfter, Build.ofSource_eq, hread, herror]
    rfl
  have hafter : globalsAfter 0 [second, first]
      = (Build.ofDefinitions 0 [⟨"f", ["x"], [.expression (.name "y")]⟩] none
          (globalsAfter 0 [first])).globals := by
    rw [globalsAfter, Build.ofSource_eq, hreadSecond, herrorSecond]
  have hknown : (globalsAfter 0 [second, first]).Knows argument := by
    show (globalsAfter 0 [second, first]).slot? ⟨0, "f"⟩ = some 0
    rw [hafter, hbefore]
    cbv
  have hdefinition : (programAfter 0 [second, first]).definition? ⟨0, "f"⟩
      = some ⟨"f", ["x"], [.returning (some (.name "x"))]⟩ := by
    show latest? 0 (compiledIn 0 [second, first]) ⟨0, "f"⟩ = _
    rw [compiledIn, compiledIn, compiledIn, hread, hreadSecond, hbefore]
    cbv
  refine ⟨hknown, hdefinition, call_eq_interpreter 0 [second, first] "f" [argument] #[] ?_, ?_⟩
  · intro value hmem
    rw [List.mem_singleton.mp hmem]
    exact hknown
  · rw [Interpreter.call, hdefinition]
    rfl

end StackLang.Simulation
