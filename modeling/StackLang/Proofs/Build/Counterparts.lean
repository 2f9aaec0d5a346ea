import StackLang.Proofs.Build.Contract
import StackLang.Proofs.Compile.Counterparts

/-! # Builds over two tables

Two tables may have come about by different builds and yet have alike functions: each name has alike
units in both of them, or none. References are counterparts then if they are references to the same
name, each with the slot that the name has in its table. A build leads from alike tables to alike
tables, and comes equally far.

* `Globals.Counterpart`, `Globals.Alike` — references to the same name, and alike tables.
* `Globals.Alike.interchangeable` — code runs alike over alike tables.
* `Build.alike_ofDefinitions` — a build keeps tables alike.
* `Build.Built.alike_self` — a table that is built is like itself. -/

namespace StackLang

open Bytecode (CodeUnit)
open Compile (Both Environment)

namespace Globals

/-- References to the same name, each with the slot that its table has for it. -/
def Counterpart (first second : Globals) (left right : FunctionRef) : Prop :=
  left.name = right.name ∧ first.slot? left.name = some left.slot
    ∧ second.slot? right.name = some right.slot

/-- The unit of a name, if it has one. -/
def unitOf? (globals : Globals) (name : Symbol) : Option CodeUnit :=
  (globals.status? name).bind Global.Status.unit?

/-- Tables in which names have alike units, or none. -/
def Alike (first second : Globals) : Prop :=
  ∀ name, Option.Rel (CodeUnit.Alike (Counterpart first second)) (first.unitOf? name)
    (second.unitOf? name)

variable {first second : Globals}

/-- Counterparts remain so in tables in which names keep their slots. -/
theorem Counterpart.mono {first' second' : Globals}
    (hfirst : ∀ name slot, first.slot? name = some slot → first'.slot? name = some slot)
    (hsecond : ∀ name slot, second.slot? name = some slot → second'.slot? name = some slot)
    (left right : FunctionRef) (h : Counterpart first second left right) :
    Counterpart first' second' left right :=
  ⟨h.1, hfirst _ _ h.2.1, hsecond _ _ h.2.2⟩

/-- In alike tables, references to the same name lead to alike units. -/
theorem Alike.interchangeable (h : first.Alike second) :
    first.Interchangeable (Counterpart first second) second where
  name_eq hcounterpart := congrArg Symbol.name hcounterpart.1
  unit? := by
    rintro left right ⟨hname, hleft, hright⟩
    rw [unit?_of_slot? hleft, unit?_of_slot? hright, ← hname]
    exact h left.name

/-- Where the same names resolve, they mean counterparts. -/
theorem alike_environment (hfirst : first.Distinct) (hsecond : second.Distinct)
    (hlive : ∀ name, (first.resolve? name).isSome = (second.resolve? name).isSome) (table : Nat) :
    Environment.Alike (Counterpart first second) ⟨first, table⟩ ⟨second, table⟩ where
  table_eq := rfl
  reference? name := by
    have hname := hlive ⟨table, name⟩
    rw [Environment.reference?, Environment.reference?, Environment.symbol, Environment.symbol]
    cases hleft : first.resolve? ⟨table, name⟩ with
    | none =>
        cases hright : second.resolve? ⟨table, name⟩ with
        | none => exact .none
        | some slot => simp [hleft, hright] at hname
    | some slot =>
        cases hright : second.resolve? ⟨table, name⟩ with
        | none => simp [hleft, hright] at hname
        | some slot' =>
            exact .some ⟨rfl, (hfirst.resolve?_eq_some_iff.mp hleft).1,
              (hsecond.resolve?_eq_some_iff.mp hright).1⟩

end Globals

namespace Build

variable {table : Nat} {first second : Globals}

/-! ## Compiling -/

/-- Where names mean counterparts, there is code for the same definitions. -/
theorem rejects_eq {counterpart : FunctionRef → FunctionRef → Prop}
    {environment environment' : Environment} (h : environment.Alike counterpart environment') :
    rejects environment = rejects environment' := by
  funext definition
  rcases Compile.both_cases (Compile.alike_function h definition) with
    ⟨unit, unit', hunit, hunit', -⟩ | ⟨reason, hreason, hreason'⟩
  · rw [rejects_of_ok hunit, rejects_of_ok hunit']
  · rw [rejects_of_error hreason, rejects_of_error hreason']

/-- Where names mean counterparts, the first definition without code is the same. -/
theorem rejectedAt_eq {counterpart : FunctionRef → FunctionRef → Prop}
    {environment environment' : Environment} (h : environment.Alike counterpart environment')
    (definitions : List Definition) :
    rejectedAt environment definitions = rejectedAt environment' definitions := by
  rw [rejectedAt, rejectedAt, rejects_eq h]

/-- What names mean once all definitions are declared in two tables in which the same names
resolve. -/
theorem alike_declared (table : Nat) (hfirst : first.Reached) (hsecond : second.Reached)
    (hlive : ∀ name, (first.resolve? name).isSome = (second.resolve? name).isSome)
    (definitions : List Definition) :
    Environment.Alike (Globals.Counterpart (declareAll table definitions first)
        (declareAll table definitions second))
      (declared table definitions first) (declared table definitions second) := by
  have hdistinct := (reached_declareAll table hfirst definitions).distinct
  have hdistinct' := (reached_declareAll table hsecond definitions).distinct
  refine Globals.alike_environment hdistinct hdistinct' (fun name => ?_) table
  rw [Bool.eq_iff_iff, hdistinct.isSome_resolve?, hdistinct'.isSome_resolve?, status?_declareAll,
    status?_declareAll]
  by_cases hname : name ∈ symbols table definitions
  · rw [if_pos hname, if_pos hname]
    exact iff_of_true ⟨_, rfl, Global.Status.isLive_declareFrom _⟩
      ⟨_, rfl, Global.Status.isLive_declareFrom _⟩
  · rw [if_neg hname, if_neg hname, ← hfirst.distinct.isSome_resolve?,
      ← hsecond.distinct.isSome_resolve?, hlive]

/-- In a table that is built, the names that resolve are those with a unit. -/
theorem Built.isSome_resolve? {globals : Globals} (h : Built globals) (name : Symbol) :
    (globals.resolve? name).isSome = (globals.unitOf? name).isSome := by
  rw [Bool.eq_iff_iff, h.reached.distinct.isSome_resolve?]
  constructor
  · rintro ⟨status, hstatus, hlive⟩
    rw [Globals.unitOf?, hstatus]
    exact h.isSome_unit? hstatus hlive
  · intro hunit
    obtain ⟨unit, hunit⟩ := Option.isSome_iff_exists.mp hunit
    obtain ⟨status, hstatus, hsome⟩ := Option.bind_eq_some_iff.mp hunit
    exact ⟨status, hstatus, Global.Status.isLive_of_unit? hsome⟩

/-- In alike tables that are built the same names resolve. -/
theorem resolve?_alike (hfirst : Built first) (hsecond : Built second) (h : first.Alike second)
    (name : Symbol) : (first.resolve? name).isSome = (second.resolve? name).isSome := by
  rw [hfirst.isSome_resolve?, hsecond.isSome_resolve?]
  rcases rel_cases (h name) with ⟨hnone, hnone'⟩ | ⟨_, _, hsome, hsome', -⟩
  · rw [hnone, hnone']
  · rw [hsome, hsome']
    rfl

/-! ## Builds -/

section

variable {globals : Globals} (h : globals.Reached) (definitions : List Definition)
  (parseError : Option ParseError)

include h

/-- The names of what is compiled are those of the definitions. -/
theorem names_compiled :
    (ofDefinitions table definitions parseError globals).compiled.map Compiled.name
      = (accepted table definitions globals).map Definition.name := by
  have hslots := congrArg (List.map Prod.fst) (stage_filled table h definitions).slots_eq
  rw [List.map_map, List.map_map] at hslots
  rw [compiled_ofDefinitions]
  exact hslots

/-- A name keeps the slot that it has. -/
theorem slot?_kept (name : Symbol) (slot : Nat) (hslot : globals.slot? name = some slot) :
    (ofDefinitions table definitions parseError globals).globals.slot? name = some slot := by
  rw [slot?_ofDefinitions h]
  exact slot?_declareAll hslot definitions

/-- A name that is not compiled keeps its unit, if it has one. -/
theorem unitOf?_other {name : Symbol}
    (hnone : latest? table (accepted table definitions globals) name = none) :
    (ofDefinitions table definitions parseError globals).globals.unitOf? name
      = globals.unitOf? name :=
  unit?_status?_other h definitions parseError hnone

end

section

variable (hfirst : Built first) (hsecond : Built second) (h : first.Alike second)
  (definitions : List Definition) (parseError : Option ParseError)

include hfirst hsecond h

/-- The same definitions are compiled. -/
theorem accepted_alike : accepted table definitions first = accepted table definitions second := by
  rw [accepted, accepted, rejectedAt_eq (alike_declared table hfirst.reached hsecond.reached
    (resolve?_alike hfirst hsecond h) definitions)]

/-- The build fails with the same error, if it fails. -/
theorem error_alike :
    (ofDefinitions table definitions parseError first).error
      = (ofDefinitions table definitions parseError second).error := by
  have henvironment := alike_declared table hfirst.reached hsecond.reached
    (resolve?_alike hfirst hsecond h) definitions
  have hstage := (stage_filled table hfirst.reached definitions).error_eq
  have hstage' := (stage_filled table hsecond.reached definitions).error_eq
  rw [rejectedAt_eq henvironment] at hstage
  rw [error_ofDefinitions, error_ofDefinitions]
  rcases hstage with ⟨hnone, hlength⟩ | ⟨definition, reason, hfound, hreason, hsome⟩
  · rcases hstage' with ⟨hnone', -⟩ | ⟨definition, reason, hfound, -, -⟩
    · rw [hnone, hnone']
    · rw [hlength] at hfound
      simp at hfound
  · rcases hstage' with ⟨-, hlength⟩ | ⟨definition', reason', hfound', hreason', hsome'⟩
    · rw [hlength] at hfound
      simp at hfound
    · cases hfound.symm.trans hfound'
      have hboth := Compile.alike_function henvironment definition
      rw [hreason, hreason'] at hboth
      cases hboth
      rw [hsome, hsome']

/-- Definitions with the same names are compiled. -/
theorem compiled_alike :
    (ofDefinitions table definitions parseError first).compiled.map Compiled.name
      = (ofDefinitions table definitions parseError second).compiled.map Compiled.name := by
  rw [names_compiled hfirst.reached, names_compiled hsecond.reached,
    accepted_alike hfirst hsecond h]

/-- Alike tables are alike after a build. -/
theorem alike_ofDefinitions :
    (ofDefinitions table definitions parseError first).globals.Alike
      (ofDefinitions table definitions parseError second).globals := by
  intro name
  have haccepted : accepted table definitions first = accepted table definitions second :=
    accepted_alike hfirst hsecond h definitions
  cases hlatest : latest? table (accepted table definitions first) name with
  | none =>
      have hlatest' := haccepted ▸ hlatest
      rw [unitOf?_other hfirst.reached _ _ hlatest, unitOf?_other hsecond.reached _ _ hlatest']
      exact rel_mono (h name) fun _ _ hunit => hunit.mono (Globals.Counterpart.mono
        (slot?_kept hfirst.reached definitions parseError)
        (slot?_kept hsecond.reached definitions parseError))
  | some definition =>
      have hlatest' := haccepted ▸ hlatest
      obtain ⟨unit, hcode, hstatus⟩ := status?_latest hfirst.reached _ parseError hlatest
      obtain ⟨unit', hcode', hstatus'⟩ := status?_latest hsecond.reached _ parseError hlatest'
      have hboth := Compile.alike_function (alike_declared table hfirst.reached hsecond.reached
        (resolve?_alike hfirst hsecond h) definitions) definition
      rw [hcode, hcode'] at hboth
      rw [Globals.unitOf?, Globals.unitOf?, hstatus, hstatus']
      refine .some (hboth.of_ok.mono (Globals.Counterpart.mono (fun other slot hslot => ?_)
        fun other slot hslot => ?_))
      · rw [slot?_ofDefinitions hfirst.reached, hslot]
      · rw [slot?_ofDefinitions hsecond.reached, hslot]

end

/-- A table that is built is like itself: its code refers to nothing but its names. -/
theorem Built.alike_self {globals : Globals} (h : Built globals) : globals.Alike globals := by
  induction h with
  | empty =>
      intro name
      have hnone : Globals.empty.unitOf? name = none := by
        simp [Globals.unitOf?, Globals.status?, Globals.slot?, Globals.empty]
      rw [hnone]
      exact .none
  | build hbuilt table source ih =>
      rw [ofSource_eq]
      exact alike_ofDefinitions hbuilt hbuilt ih _ _

/-- A build that compiles nothing leaves a table that is like the one before. -/
theorem alike_of_compiled_eq_nil {globals : Globals} (h : Built globals)
    {definitions : List Definition} {parseError : Option ParseError}
    (hnothing : (ofDefinitions table definitions parseError globals).compiled = []) :
    globals.Alike (ofDefinitions table definitions parseError globals).globals := by
  have haccepted : accepted table definitions globals = [] :=
    List.map_eq_nil_iff.mp ((names_compiled h.reached definitions parseError).symm.trans
      (by rw [hnothing]; rfl))
  intro name
  rw [unitOf?_other h.reached definitions parseError (by rw [haccepted]; rfl)]
  exact rel_mono (h.alike_self name) fun _ _ hunit =>
    hunit.mono (Globals.Counterpart.mono (fun _ _ => id) (slot?_kept h.reached _ _))

end Build

end StackLang
