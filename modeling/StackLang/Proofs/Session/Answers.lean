import StackLang.Proofs.Build.Counterparts
import StackLang.Session

/-! # Answers of sessions

What a session tells of its functions are their names, their values and how many there are, never
their slots. So sessions over alike tables answer alike from then on.

* `Answer`, `Session.answers` — what is told of inputs.
* `Session.after` — the sessions that inputs lead to.
* `Session.Alike` — sessions over alike tables.
* `Session.alike_evaluate` — an input leads them to alike sessions, with the same answer.
* `Session.answers_eq` — they answer all inputs alike. -/

namespace StackLang

open Bytecode (CodeUnit)
open Compile (Both alike_loneExpression alike_loneStatement both_cases)

/-! ## Errors without slots -/

/-- A value in which no slot is told. -/
def Value.withoutSlot : Value → Value
  | .number value => .number value
  | .function reference => .function { reference with slot := 0 }

/-- An error in which no slots are told. -/
def RuntimeError.withoutSlots : RuntimeError → RuntimeError
  | .invalidArithmetic left right => .invalidArithmetic left.withoutSlot right.withoutSlot
  | .notCallable callee => .notCallable callee.withoutSlot
  | other => other

/-- An error in which no slots are told. -/
def SessionError.withoutSlots : SessionError → SessionError
  | .runtime error => .runtime error.withoutSlots
  | other => other

/-- Texts tell no slots. -/
theorem Value.toText_withoutSlot (value : Value) : value.withoutSlot.toText = value.toText := by
  cases value with
  | number value => rw [withoutSlot]
  | function reference => rw [withoutSlot, toText, toText, shown, shown]

/-- Messages tell no slots. -/
theorem RuntimeError.message_withoutSlots (error : RuntimeError) :
    error.withoutSlots.message = error.message := by
  cases error with
  | invalidArithmetic left right =>
      show s!"Invalid arithmetic values: {left.withoutSlot.toText} {right.withoutSlot.toText}"
        = s!"Invalid arithmetic values: {left.toText} {right.toText}"
      rw [left.toText_withoutSlot, right.toText_withoutSlot]
  | notCallable callee =>
      show s!"Value {callee.withoutSlot.toText} is not callable"
        = s!"Value {callee.toText} is not callable"
      rw [callee.toText_withoutSlot]
  | decode | arityMismatch | undefinedFunction | voidResult | stackUnderflow | stackOverflow
  | frameOverflow | invalidConstant | invalidLocal => rfl

/-- Messages tell no slots. -/
theorem SessionError.message_withoutSlots (error : SessionError) :
    error.withoutSlots.message = error.message := by
  cases error with
  | runtime error => exact error.message_withoutSlots
  | incomplete | topLevelBinding name | build error => rfl

/-! ## Answers -/

/-- What is told of an input. -/
structure Answer where
  /-- A text to show, if there is one, or an error and its message. -/
  reply : Except (SessionError × String) (Option String)
  /-- How many names resolve afterwards. -/
  size : Nat

/-- What a reply tells. -/
def SessionError.told (reply : Except SessionError (Option String)) :
    Except (SessionError × String) (Option String) :=
  reply.mapError fun error => (error.withoutSlots, error.message)

/-- What is told of an input that was evaluated. -/
def Evaluation.answer (evaluation : Evaluation) : Answer :=
  ⟨SessionError.told evaluation.reply, evaluation.session.globals.size⟩

namespace Session

/-- The answers to inputs that are taken one after the other. -/
def answers (session : Session) : List (List Char) → List Answer
  | [] => []
  | input :: later =>
      (session.evaluate input).answer :: answers (session.evaluate input).session later

/-- The session after some inputs, the earliest first. -/
def after (inputs : List (List Char)) : Session :=
  inputs.foldl (fun session input => (session.evaluate input).session) empty

/-! ## Sessions over alike tables -/

/-- Sessions over alike tables, to which builds have led. -/
structure Alike (first second : Session) : Prop where
  /-- Builds have led to the first. -/
  first_built : Build.Built first.globals
  /-- Builds have led to the second. -/
  second_built : Build.Built second.globals
  /-- The tables are alike. -/
  globals : first.globals.Alike second.globals

variable {first second : Session}

/-- The same names resolve. -/
theorem Alike.isSome_resolve? (h : first.Alike second) (name : Symbol) :
    (first.globals.resolve? name).isSome = (second.globals.resolve? name).isSome :=
  Build.resolve?_alike h.first_built h.second_built h.globals name

/-- As many names resolve. -/
theorem Alike.size_eq (h : first.Alike second) : first.globals.size = second.globals.size :=
  h.first_built.reached.distinct.size_eq h.second_built.reached.distinct h.isSome_resolve?

/-- Names mean counterparts. -/
theorem Alike.environment (h : first.Alike second) :
    Compile.Environment.Alike (Globals.Counterpart first.globals second.globals)
      ⟨first.globals, table⟩ ⟨second.globals, table⟩ :=
  Globals.alike_environment h.first_built.reached.distinct h.second_built.reached.distinct
    h.isSome_resolve? table

/-! ## Statements -/

section

variable {counterpart : FunctionRef → FunctionRef → Prop}
  (hname : ∀ left right, counterpart left right → left.name = right.name)

include hname

/-- Values that are alike are the same but for slots. -/
theorem withoutSlot_eq {left right : Value} (h : left.Alike counterpart right) :
    left.withoutSlot = right.withoutSlot := by
  cases h with
  | number value => rfl
  | function h => rw [Value.withoutSlot, Value.withoutSlot, hname _ _ h]

/-- Values that are alike have the same text. -/
theorem toText_eq {left right : Value} (h : left.Alike counterpart right) :
    left.toText = right.toText := by
  rw [← left.toText_withoutSlot, withoutSlot_eq hname h, right.toText_withoutSlot]

/-- Errors that are alike are the same but for slots. -/
theorem withoutSlots_eq {left right : RuntimeError} (h : left.Alike counterpart right) :
    left.withoutSlots = right.withoutSlots := by
  cases h with
  | same error => rfl
  | invalidArithmetic hleft hright =>
      rw [RuntimeError.withoutSlots, RuntimeError.withoutSlots, withoutSlot_eq hname hleft,
        withoutSlot_eq hname hright]

end

/-- What is told of an error does not depend on its slots. -/
theorem told_error {left right : SessionError} (h : left.withoutSlots = right.withoutSlots) :
    SessionError.told (.error left) = SessionError.told (.error right) := by
  have hmessage : left.message = right.message := by
    rw [← left.message_withoutSlots, h, right.message_withoutSlots]
  exact congrArg Except.error (Prod.ext h hmessage)

/-- Alike units are answered alike. -/
theorem told_runReply (h : first.Alike second) {unit unit' : CodeUnit}
    (hunit : unit.Alike (Globals.Counterpart first.globals second.globals) unit') :
    SessionError.told (first.runReply unit) = SessionError.told (second.runReply unit') := by
  have hname : ∀ left right, Globals.Counterpart first.globals second.globals left right →
      left.name = right.name := fun _ _ hcounterpart => hcounterpart.1
  have hrun := Machine.alike_run h.globals.interchangeable hunit AllAlike.empty
  rw [runReply, runReply]
  generalize Machine.run first.globals unit [] = ending at hrun ⊢
  generalize Machine.run second.globals unit' [] = ending' at hrun ⊢
  cases hrun with
  | finished hresult hstack =>
      rcases rel_cases hresult with ⟨rfl, rfl⟩ | ⟨left, right, rfl, rfl, hvalue⟩
      · rfl
      · exact congrArg (fun text => Except.ok (some text)) (toText_eq hname hvalue)
  | failed herror hstack =>
      exact told_error (congrArg SessionError.runtime (withoutSlots_eq hname herror))

/-- A statement has alike units in both sessions, or none for the same reason. -/
theorem alike_unitOf (h : first.Alike second) (statement : Statement) :
    Both (CodeUnit.Alike (Globals.Counterpart first.globals second.globals))
      (first.unitOf statement) (second.unitOf statement) := by
  cases statement with
  | binding name initializer => exact .error (SessionError.topLevelBinding name)
  | expression evaluated => exact (alike_loneExpression h.environment evaluated).mapError _
  | returning value => exact (alike_loneStatement h.environment _).mapError _
  | block inside => exact (alike_loneStatement h.environment _).mapError _

/-- An input that is run is answered alike, and leaves the sessions as they were. -/
theorem alike_execute (h : first.Alike second) (items : List Item) :
    (first.execute items).session.Alike (second.execute items).session
      ∧ SessionError.told (first.execute items).reply
        = SessionError.told (second.execute items).reply := by
  rw [execute, execute]
  cases single items with
  | failed error rest => exact ⟨h, rfl⟩
  | done found rest =>
      cases found with
      | none => exact ⟨h, rfl⟩
      | some statement =>
          dsimp only
          rcases both_cases (alike_unitOf h statement) with
            ⟨unit, unit', hunit, hunit', halike⟩ | ⟨error, herror, herror'⟩
          · rw [hunit, hunit']
            exact ⟨h, told_runReply h halike⟩
          · rw [herror, herror']
            exact ⟨h, rfl⟩

/-! ## Definitions -/

/-- The reply to definitions depends on the error and on the names of what was compiled. -/
theorem buildReply_congr {build build' : Build} (herror : build.error = build'.error)
    (hnames : build.compiled.map Compiled.name = build'.compiled.map Compiled.name) :
    buildReply build = buildReply build' := by
  have htext : definedText build.compiled = definedText build'.compiled := by
    have hwords := congrArg (List.map fun name => "defined " ++ name) hnames
    rw [List.map_map, List.map_map] at hwords
    exact congrArg "\n".intercalate hwords
  rw [buildReply, buildReply, herror]
  cases build'.error with
  | none => exact congrArg (fun text => Except.ok (some text)) htext
  | some error =>
      cases hcompiled : build.compiled with
      | nil =>
          rw [hcompiled, List.map_nil] at hnames
          rw [List.map_eq_nil_iff.mp hnames.symm]
      | cons first others =>
          rw [hcompiled, List.map_cons] at hnames
          cases hcompiled' : build'.compiled with
          | nil =>
              rw [hcompiled'] at hnames
              cases hnames
          | cons first' others' => cases error <;> rfl

/-- What is built of an input are the definitions that are read from it. -/
theorem ofItems_eq (input : List Char) (globals : Globals) :
    Build.ofItems table (itemsOf input) globals
      = Build.ofDefinitions table (Build.definitionsOf input) (Build.parseErrorOf input) globals :=
  Build.ofSource_eq table input globals

/-- An input that is built is answered alike, and leads to alike sessions. -/
theorem alike_define (h : first.Alike second) (input : List Char) :
    (first.define (itemsOf input)).session.Alike (second.define (itemsOf input)).session
      ∧ (first.define (itemsOf input)).reply = (second.define (itemsOf input)).reply := by
  have hfirst := h.first_built.build table input
  have hsecond := h.second_built.build table input
  rw [Build.ofSource_eq] at hfirst hsecond
  rw [define, define, ofItems_eq, ofItems_eq]
  refine ⟨⟨hfirst, hsecond, ?_⟩, buildReply_congr ?_ ?_⟩
  · exact Build.alike_ofDefinitions h.first_built h.second_built h.globals _ _
  · exact Build.error_alike h.first_built h.second_built h.globals _ _
  · exact Build.compiled_alike h.first_built h.second_built h.globals _ _

/-! ## Inputs -/

/-- Alike sessions answer an input alike, and are alike afterwards. -/
theorem alike_evaluate (h : first.Alike second) (input : List Char) :
    (first.evaluate input).session.Alike (second.evaluate input).session
      ∧ (first.evaluate input).answer = (second.evaluate input).answer := by
  have hboth : (first.evaluate input).session.Alike (second.evaluate input).session
      ∧ SessionError.told (first.evaluate input).reply
        = SessionError.told (second.evaluate input).reply := by
    simp only [evaluate]
    split
    · obtain ⟨hsessions, hreply⟩ := alike_define h input
      exact ⟨hsessions, congrArg SessionError.told hreply⟩
    · exact alike_execute h (itemsOf input)
  obtain ⟨hsessions, htold⟩ := hboth
  refine ⟨hsessions, ?_⟩
  rw [Evaluation.answer, Evaluation.answer, htold, hsessions.size_eq]

/-- Alike sessions answer all inputs alike. -/
theorem answers_eq (h : first.Alike second) (inputs : List (List Char)) :
    first.answers inputs = second.answers inputs := by
  induction inputs generalizing first second with
  | nil => rfl
  | cons input later ih =>
      obtain ⟨hsessions, hanswer⟩ := alike_evaluate h input
      rw [answers, answers, hanswer, ih hsessions]

/-- Every session has come about by builds. -/
theorem built_after (inputs : List (List Char)) : Build.Built (after inputs).globals := by
  have hbuilt : ∀ session : Session, Build.Built session.globals →
      Build.Built (inputs.foldl (fun session input => (session.evaluate input).session)
        session).globals := by
    induction inputs with
    | nil => exact fun _ h => h
    | cons input later ih =>
        intro session h
        exact ih _ (alike_evaluate ⟨h, h, h.alike_self⟩ input).1.first_built
  exact hbuilt empty .empty

end Session

end StackLang
