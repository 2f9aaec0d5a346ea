import StackLang.Proofs.Compile.Counterparts
import StackLang.Proofs.Simulation.History

/-! # Expressions and statements that stand alone

The unit of an expression or a statement that stands alone has no last instruction that leaves it:
the run ends where the code ends, with what lies on top of the stack then. That is the value of an
expression or of a binding; every other statement has dropped all that it has put there.

The builds before may have worked for several tables of symbols. Code of one of them never comes
upon names of another, so it runs as if these had been withdrawn.

* `Globals.only` — a table in which only the names of one table of symbols are left.
* `programFor` — the program that a history of builds leaves for the names of a table of symbols.
* `lone_eq_interpreter` — a unit that stands alone gives what the interpreter gives. -/

namespace StackLang

namespace Globals

/-! ## The names of one table of symbols -/

/-- The table in which all names are withdrawn but those of one table of symbols. -/
def only (globals : Globals) (table : Nat) : Globals :=
  ⟨globals.entries.map fun entry =>
    if entry.name.table = table then entry else { entry with status := .withdrawn }⟩

/-- Names have the slots that they had. -/
theorem slot?_only (globals : Globals) (table : Nat) (name : Symbol) :
    (globals.only table).slot? name = globals.slot? name := by
  apply slot?_congr
  rw [names, names, only, Array.map_map]
  refine Array.map_congr_left fun entry _ => ?_
  dsimp only [Function.comp]
  split <;> rfl

theorem slotOf_only (globals : Globals) (table : Nat) (name : Symbol) :
    (globals.only table).slotOf name = globals.slotOf name := by
  rw [slotOf_eq, slotOf_eq, slot?_only, only, Array.size_map]

/-- The names of the table of symbols are as they were. -/
theorem status?_only (globals : Globals) (table : Nat) (name : Symbol) :
    (globals.only table).status? name
      = if name.table = table then globals.status? name
        else (globals.status? name).map fun _ => .withdrawn := by
  rw [status?, slot?_only]
  cases hslot : globals.slot? name with
  | none =>
      rw [status?_eq_none_iff.mpr hslot]
      split <;> rfl
  | some slot =>
      obtain ⟨status, hentry, hstatus⟩ := global?_of_slot? hslot
      have honly : (globals.only table).global? slot
          = (globals.global? slot).map fun entry =>
            if entry.name.table = table then entry else { entry with status := .withdrawn } :=
        Array.getElem?_map
      rw [Option.bind_some, honly, hentry, hstatus]
      dsimp only [Option.map_some]
      split <;> rfl

end Globals

namespace Simulation

open Bytecode (CodeUnit Pool)
open Build (Source compiledFor globalsAfterAll latest?)
open Compile (Environment)
open Interpreter (Failure)
open Machine (Ending)

/-! ## Runs -/

variable {program : Program} {globals : Globals} {environment : Environment} {unit : CodeUnit}

/-- A run that agrees with a result, which is all that it leaves, has this result and this stack. -/
theorem Simulated.ends {ending : Ending} {outcome : Interpreter.Result (Option Value)}
    (h : Simulated ending (fun result => ending = ⟨.ok result, result.toArray⟩) outcome) :
    ending.result.mapError Failure.runtime = outcome
      ∧ ∀ result, outcome = .ok result → ending.stack = result.toArray := by
  refine ⟨h.result_eq fun result hending => by rw [hending], ?_⟩
  rintro result rfl
  exact congrArg Ending.stack h

/-- Leaving the outermost unit ends the run with the result, and nothing else on the stack. -/
theorem ofTransition_leave (run : Machine → Ending) (offset : Nat) {stack : Stack}
    (hshrink : stack.shrink 0 = #[]) (result : Option Value) :
    Ending.ofTransition run (Machine.leave ⟨unit, offset, 0⟩ [] result stack)
      = ⟨.ok result, result.toArray⟩ := by
  cases result with
  | none =>
      rw [Machine.leave, hshrink]
      rfl
  | some value =>
      rw [Machine.leave, hshrink]
      rfl

/-- A unit that stands alone starts without locals. -/
theorem sound_nil : Sound globals [] :=
  ⟨fun _ hmem => absurd hmem List.not_mem_nil, Nat.zero_le _⟩

/-- The run of an expression that stands alone ends with its value, and with nothing else on the
stack. -/
theorem simulated_loneExpression (h : Implements program globals)
    (hfaithful : Faithful program globals environment) {evaluated : Expression}
    (hcode : Compile.loneExpression environment evaluated = .ok unit) :
    Simulated (Machine.run globals unit [])
      (fun value => Machine.run globals unit [] = ⟨.ok (some value), #[value]⟩)
      (Interpreter.loneExpression program evaluated) := by
  rw [Compile.loneExpression] at hcode
  obtain ⟨⟨code, pool⟩, hexpression, hunit⟩ := Compile.bind_eq_ok hcode
  cases hunit
  have hrunning := running_outermost h hfaithful (.ofInstructions none 0 code pool)
  have hsimulated := simulated_evaluation hrunning sound_nil #[]
    (Compile.expressionCode evaluated hexpression) (CodeUnit.holds_ofInstructions none 0 code pool)
    (Pool.Extends.refl _)
  refine hsimulated.mono ?_
  rintro value ⟨-, -, hending⟩
  refine hending.trans ?_
  rw [List.nil_append, hrunning.runs.standing_end rfl]
  rfl

/-- The unit of a binding that stands alone is that of its value. -/
theorem loneExpression_of_binding {name : String} {initializer : Expression}
    (hcode : Compile.loneStatement environment (.binding name initializer) = .ok unit) :
    Compile.loneExpression environment initializer = .ok unit := by
  rw [Compile.loneStatement, Compile.statement] at hcode
  obtain ⟨emission, hemission, hunit⟩ := Compile.bind_eq_ok hcode
  obtain ⟨⟨code, pool⟩, hexpression, hlocal⟩ := Compile.bind_eq_ok hemission
  cases hlocal
  rw [Compile.loneExpression, hexpression]
  exact hunit

/-- All statements but a binding leave the locals as they were. -/
theorem scope_eq_of_statement {executed : Statement} {scope : Compile.Scope} {pool : Pool}
    {emission : Compile.Emission}
    (hcode : Compile.statement environment scope pool executed = .ok emission)
    (hother : ∀ name initializer, executed ≠ .binding name initializer) :
    emission.scope = scope := by
  obtain ⟨code, inner, extended⟩ := emission
  have hstatement : Compile.StatementCode environment scope pool executed code inner extended :=
    Compile.statementCode executed hcode
  cases hstatement with
  | binding name => exact absurd rfl (hother name _)
  | returningVoid => rfl
  | returningValue => rfl
  | expression => rfl
  | block => rfl

/-- The run of a statement that stands alone, and is no binding, ends with what it returns, and with
nothing else on the stack. -/
theorem simulated_unbound (h : Implements program globals)
    (hfaithful : Faithful program globals environment) {executed : Statement}
    (hcode : Compile.loneStatement environment executed = .ok unit)
    (hother : ∀ name initializer, executed ≠ .binding name initializer) :
    Simulated (Machine.run globals unit [])
      (fun result => Machine.run globals unit [] = ⟨.ok result, result.toArray⟩)
      (Interpreter.loneStatement program executed) := by
  rw [Compile.loneStatement] at hcode
  obtain ⟨emission, hemission, hunit⟩ := Compile.bind_eq_ok hcode
  cases hunit
  have hrunning := running_outermost h hfaithful
    (.ofInstructions none 0 emission.code emission.pool)
  have hsimulated := simulated_statement hrunning sound_nil #[] rfl
    (CodeUnit.holds_ofInstructions none 0 emission.code emission.pool) (Pool.Extends.refl _)
    (Compile.statementCode executed hemission)
  rw [scope_eq_of_statement hemission hother] at hsimulated
  rw [Interpreter.loneStatement]
  · refine hsimulated.bind ?_
    rintro (extended | result) hflow
    · -- The code has run out, and no locals are left.
      obtain ⟨hlocals, -, -, hending⟩ := hflow
      obtain rfl := List.map_eq_nil_iff.mp hlocals.symm
      refine hending.trans ?_
      rw [List.nil_append, hrunning.runs.standing_end rfl]
      rfl
    · obtain ⟨-, offset, stack, hshrink, hending⟩ := hflow
      exact hending.trans (ofTransition_leave _ offset hshrink result)
  · exact hother

/-- The run of a statement that stands alone ends with its result, and with nothing else on the
stack. -/
theorem simulated_loneStatement (h : Implements program globals)
    (hfaithful : Faithful program globals environment) {executed : Statement}
    (hcode : Compile.loneStatement environment executed = .ok unit) :
    Simulated (Machine.run globals unit [])
      (fun result => Machine.run globals unit [] = ⟨.ok result, result.toArray⟩)
      (Interpreter.loneStatement program executed) := by
  cases executed with
  | binding name initializer =>
      exact (simulated_loneExpression h hfaithful (loneExpression_of_binding hcode)).bind
        fun _ hrun => hrun
  | returning value => exact simulated_unbound h hfaithful hcode nofun
  | expression evaluated => exact simulated_unbound h hfaithful hcode nofun
  | block inside => exact simulated_unbound h hfaithful hcode nofun

/-! ## Histories over several tables of symbols -/

/-- The program that a history of builds leaves for the names of a table of symbols: behind a name
stands the last definition that was compiled for it, and a global name means the slot that it
has. -/
def programFor (table : Nat) (sources : List Source) : Program where
  definition? := latest? table (compiledFor table sources)
  reference name := ⟨(globalsAfterAll sources).slotOf ⟨table, name⟩, ⟨table, name⟩⟩

variable {table : Nat} {sources : List Source}

theorem table_eq_of_definition? {name : Symbol} {definition : Definition}
    (h : (programFor table sources).definition? name = some definition) : name.table = table :=
  (congrArg Symbol.table (Build.mem_of_latest? h).2).symm

/-- What names mean after a history of builds, they meant before code was compiled behind it. -/
theorem earlier_now (table : Nat) (sources : List Source) :
    Earlier table (globalsAfterAll sources) ⟨globalsAfterAll sources, table⟩ where
  table_eq := rfl
  slot?_eq _ _ hresolve :=
    ((Build.reached_globalsAfterAll sources).distinct.resolve?_eq_some_iff.mp hresolve).1

/-- What names meant before others were withdrawn is what they mean afterwards. -/
theorem Earlier.only (h : Earlier table globals environment) :
    Earlier table (globals.only table) environment where
  table_eq := h.table_eq
  slot?_eq name slot hresolve := by
    rw [Globals.slot?_only]
    exact h.slot?_eq name slot hresolve

/-- In a program for the names of a table of symbols, references have the slots of the table in
which only these are left. -/
theorem reference_programFor (table : Nat) (sources : List Source) (name : String) :
    (programFor table sources).reference name
      = ⟨((globalsAfterAll sources).only table).slotOf ⟨table, name⟩, ⟨table, name⟩⟩ := by
  rw [Globals.slotOf_only]
  rfl

/-- A name stands for the same definition when those of other tables of symbols are withdrawn. -/
theorem Stands.only {name : Symbol} {definition? : Option Definition}
    (h : Stands globals name definition?) : Stands (globals.only name.table) name definition? := by
  have hsame : ((globals.only name.table).status? name).bind Global.Status.unit?
      = (globals.status? name).bind Global.Status.unit? := by
    rw [Globals.status?_only, if_pos rfl]
  match definition?, h with
  | none, hnone => exact hsame.trans hnone
  | some definition, ⟨environment, unit, hunit, hearlier, hcode⟩ =>
      exact ⟨environment, unit, hsame.trans hunit, hearlier.only, hcode⟩

/-- The table in which only the names of a table of symbols are left implements the program for
these. -/
theorem implements_programFor (table : Nat) (sources : List Source) :
    Implements (programFor table sources) ((globalsAfterAll sources).only table) := by
  refine implements_of_stands (reference_programFor table sources)
    (fun _ _ hsome => table_eq_of_definition? hsome) fun name => ?_
  by_cases hname : name.table = table
  · subst hname
    exact (stands_globalsAfterAll sources name).only
  · -- The program has no definition for the name, and it is withdrawn.
    cases hsome : (programFor table sources).definition? name with
    | some definition => exact absurd (table_eq_of_definition? hsome) hname
    | none =>
        show (((globalsAfterAll sources).only table).status? name).bind Global.Status.unit? = none
        rw [Globals.status?_only, if_neg hname]
        cases (globalsAfterAll sources).status? name <;> rfl

/-- The references to names of a table of symbols that a table gives a meaning to. Each of them is
its own counterpart. -/
def Own (globals : Globals) (table : Nat) (first second : FunctionRef) : Prop :=
  first = second ∧ first.name.table = table ∧ globals.Knows (.function first)

/-- In code for a table of symbols, names mean its own references. -/
theorem Earlier.alike (h : Earlier table globals environment) :
    environment.Alike (Own globals table) environment where
  table_eq := rfl
  reference? name := by
    cases hreference : environment.reference? name with
    | none => exact .none
    | some reference =>
        obtain ⟨slot, hresolve, rfl⟩ := Option.map_eq_some_iff.mp hreference
        exact .some ⟨rfl, h.table_eq, h.slot?_eq _ _ hresolve⟩

/-- For references to the names of a table of symbols nothing changes when all other names are
withdrawn. -/
theorem interchangeable_only (table : Nat) (sources : List Source) :
    (globalsAfterAll sources).Interchangeable (Own (globalsAfterAll sources) table)
      ((globalsAfterAll sources).only table) where
  name_eq := by
    rintro left right ⟨rfl, -, -⟩
    rfl
  unit? := by
    rintro left right ⟨rfl, htable, hslot⟩
    have honly := (Globals.slot?_only _ table left.name).trans hslot
    have hstands := stands_globalsAfterAll sources left.name
    rw [Globals.unit?_of_slot? hslot, Globals.unit?_of_slot? honly, Globals.status?_only,
      if_pos htable]
    cases hlatest : latest? left.name.table (compiledFor left.name.table sources) left.name with
    | none =>
        rw [hlatest] at hstands
        rw [show ((globalsAfterAll sources).status? left.name).bind Global.Status.unit? = none
          from hstands]
        exact .none
    | some definition =>
        rw [hlatest] at hstands
        obtain ⟨environment, unit, hunit, hearlier, hcode⟩ := hstands
        have hcompiled := Compile.alike_function hearlier.alike definition
        rw [hcode, htable] at hcompiled
        rw [hunit]
        exact .some hcompiled.of_ok

/-- Code for the names of a table of symbols runs as if all others were withdrawn. -/
theorem run_only (hunit : unit.Alike (Own (globalsAfterAll sources) table) unit) :
    Machine.run ((globalsAfterAll sources).only table) unit []
      = Machine.run (globalsAfterAll sources) unit [] :=
  ((Machine.alike_run (interchangeable_only table sources) hunit AllAlike.empty).eq
    fun _ _ hsame => hsame.1).symm

/-- After any history of builds, the unit of an expression or a statement that stands alone gives
what the interpreter gives for the last definitions that were compiled: the same result, or the same
error. It leaves its value on the stack, if there is one, and nothing else. -/
theorem lone_eq_interpreter (table : Nat) (sources : List Source) :
    (∀ evaluated unit,
      Compile.loneExpression ⟨globalsAfterAll sources, table⟩ evaluated = .ok unit →
        (Machine.run (globalsAfterAll sources) unit []).result.mapError Failure.runtime
            = (Interpreter.loneExpression (programFor table sources) evaluated).map some
          ∧ ∀ value, Interpreter.loneExpression (programFor table sources) evaluated = .ok value →
            (Machine.run (globalsAfterAll sources) unit []).stack = #[value])
    ∧ ∀ executed unit,
      Compile.loneStatement ⟨globalsAfterAll sources, table⟩ executed = .ok unit →
        (Machine.run (globalsAfterAll sources) unit []).result.mapError Failure.runtime
            = Interpreter.loneStatement (programFor table sources) executed
          ∧ ∀ result, Interpreter.loneStatement (programFor table sources) executed = .ok result →
            (Machine.run (globalsAfterAll sources) unit []).stack = result.toArray := by
  have hearlier := earlier_now table sources
  have himplements := implements_programFor table sources
  have hfaithful : Faithful (programFor table sources) _ _ :=
    faithful_of_earlier (reference_programFor table sources) hearlier.only
  refine ⟨fun evaluated unit hcode => ?_, fun executed unit hcode => ?_⟩
  · have hunit := Compile.alike_loneExpression hearlier.alike evaluated
    rw [hcode] at hunit
    have hsimulated := simulated_loneExpression himplements hfaithful hcode
    rw [run_only hunit.of_ok] at hsimulated
    have hlifted : Simulated (Machine.run (globalsAfterAll sources) unit [])
        (fun result => Machine.run (globalsAfterAll sources) unit [] = ⟨.ok result, result.toArray⟩)
        ((Interpreter.loneExpression (programFor table sources) evaluated).map some) :=
      hsimulated.bind fun value hrun => hrun
    refine ⟨hlifted.ends.1, fun value hvalue => ?_⟩
    exact hlifted.ends.2 (some value) (by rw [hvalue]; rfl)
  · have hunit := Compile.alike_loneStatement hearlier.alike executed
    rw [hcode] at hunit
    have hsimulated := simulated_loneStatement himplements hfaithful hcode
    rw [run_only hunit.of_ok] at hsimulated
    exact hsimulated.ends

/-- Two tables of symbols have a function of the same name, and the one that gives back its argument
belongs to the code: a call of it, and a block with a local that returns from the middle. -/
theorem lone_eq_interpreter_two_tables :
    let own : Source := ⟨0, ['d', 'e', 'f', 'u', 'n', ' ', 'f', '(', 'x', ')', '=', 'r', 'e', 't',
      'u', 'r', 'n', ' ', 'x', ' ', 'e', 'n', 'd']⟩
    let other : Source := ⟨1, ['d', 'e', 'f', 'u', 'n', ' ', 'f', '(', ')', '=', 'f', ' ', 'e', 'n',
      'd']⟩
    let globals := globalsAfterAll [own, other]
    let reference : Value := .function ⟨1, ⟨0, "f"⟩⟩
    let evaluated : Expression := .call (.name "f") [.name "f"]
    let executed : Statement :=
      .block [.binding "y" (.name "f"), .returning (some (.call (.name "f") [.name "y"]))]
    let unit : CodeUnit := .ofInstructions none 0 [.loadGlobal 0, .loadGlobal 1, .call 1]
      #[reference, reference]
    let unit' : CodeUnit := .ofInstructions none 0
      [.loadGlobal 0, .loadLocal 0, .loadGlobal 1, .call 1, .returnValue, .pop]
      #[reference, reference]
    (Compile.loneExpression ⟨globals, 0⟩ evaluated = .ok unit
      ∧ (Machine.run globals unit []).result.mapError Failure.runtime = .ok (some reference)
      ∧ (Machine.run globals unit []).stack = #[reference])
    ∧ Compile.loneStatement ⟨globals, 0⟩ executed = .ok unit'
      ∧ (Machine.run globals unit' []).result.mapError Failure.runtime = .ok (some reference)
      ∧ (Machine.run globals unit' []).stack = #[reference] := by
  intro own other globals reference evaluated executed unit unit'
  have hown : Parse.definition (itemsOf own.text)
      = .done (some ⟨"f", ["x"], [.returning (some (.name "x"))]⟩) [] := by cbv
  have hother : Parse.definition (itemsOf other.text)
      = .done (some ⟨"f", [], [.expression (.name "f")]⟩) [] := by cbv
  have hbefore : globalsAfterAll [other]
      = (Build.ofDefinitions 1 [⟨"f", [], [.expression (.name "f")]⟩] none
          Globals.empty).globals :=
    congrArg Build.globals (Build.ofSource_of_definition hother 1 Globals.empty)
  have hafter : globals
      = (Build.ofDefinitions 0 [⟨"f", ["x"], [.returning (some (.name "x"))]⟩] none
          (globalsAfterAll [other])).globals :=
    congrArg Build.globals (Build.ofSource_of_definition hown 0 (globalsAfterAll [other]))
  have hexpression : Compile.loneExpression ⟨globals, 0⟩ evaluated = .ok unit := by
    rw [hafter, hbefore]
    cbv
  have hstatement : Compile.loneStatement ⟨globals, 0⟩ executed = .ok unit' := by
    rw [hafter, hbefore]
    cbv
  have hdefinition : (programFor 0 [own, other]).definition? ⟨0, "f"⟩
      = some ⟨"f", ["x"], [.returning (some (.name "x"))]⟩ := by
    show latest? 0 (compiledFor 0 [own, other]) ⟨0, "f"⟩ = _
    rw [compiledFor, compiledFor, compiledFor, (Build.definitionsOf_of_definition hown).1,
      (Build.definitionsOf_of_definition hother).1, hbefore]
    cbv
  have hreference : (programFor 0 [own, other]).reference "f" = ⟨1, ⟨0, "f"⟩⟩ := by
    show (⟨globals.slotOf ⟨0, "f"⟩, ⟨0, "f"⟩⟩ : FunctionRef) = _
    rw [hafter, hbefore]
    cbv
  have hinvoke (program : Program) : Interpreter.invoke program (Machine.maxFrames - 1)
      = Interpreter.body program (Interpreter.invoke program 1022) := rfl
  have hvalue : Interpreter.loneExpression (programFor 0 [own, other]) evaluated
      = .ok reference := by
    rw [Interpreter.loneExpression, hinvoke]
    simp [evaluated, Interpreter.expression, Interpreter.expressions, hreference, Interpreter.apply,
      hdefinition, Interpreter.load, Machine.maxValues, Interpreter.body, Interpreter.statements,
      Interpreter.statement, bind, Except.bind, reference]
  have hresult : Interpreter.loneStatement (programFor 0 [own, other]) executed
      = .ok (some reference) := by
    rw [Interpreter.loneStatement, hinvoke]
    · simp [executed, Interpreter.expression, Interpreter.expressions, hreference, List.lookup,
        Interpreter.apply, hdefinition, Interpreter.load, Machine.maxValues, Interpreter.body,
        Interpreter.statements, Interpreter.statement, bind, Except.bind, reference]
    · intro name initializer hsame
      simp [executed] at hsame
  obtain ⟨hexpressions, hstatements⟩ := lone_eq_interpreter 0 [own, other]
  obtain ⟨hends, hstack⟩ := hexpressions evaluated unit hexpression
  obtain ⟨hends', hstack'⟩ := hstatements executed unit' hstatement
  rw [hvalue] at hends
  rw [hresult] at hends'
  exact ⟨⟨hexpression, hends, hstack reference hvalue⟩,
    hstatement, hends', hstack' (some reference) hresult⟩

end Simulation

end StackLang
