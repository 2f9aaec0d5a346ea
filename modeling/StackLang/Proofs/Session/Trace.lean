import StackLang.Proofs.Session.Answers

/-! # Inputs that leave no trace

An input may declare names and withdraw them again, and these keep the slots that they got. If it
compiles no definition, no later answer tells so.

* `Evaluation.compiled` — the definitions that were compiled for an input.
* `Session.alike_of_compiled_eq_nil` — an input that compiles nothing leads to an alike session.
* `Session.Unfinished` — reading an input fails only because it ends.
* `Session.reply_evaluate_iff` — such inputs are answered as incomplete, and no others.
* `Session.evaluate_without_trace` — inputs that compile nothing leave no trace. -/

namespace StackLang

open Bytecode (CodeUnit)

/-- The definitions that were compiled for an input. -/
def Evaluation.compiled (evaluation : Evaluation) : List Compiled :=
  match evaluation.activity with
  | .built build => build.compiled
  | _ => []

namespace Session

/-! ## Inputs that compile nothing -/

variable {session : Session} {input : List Char}

/-- Running an input leaves the session as it was. -/
theorem session_execute (session : Session) (items : List Item) :
    (session.execute items).session = session ∧ (session.execute items).compiled = [] := by
  rw [execute]
  split
  · exact ⟨rfl, rfl⟩
  · exact ⟨rfl, rfl⟩
  · split <;> exact ⟨rfl, rfl⟩

/-- An input that compiles nothing leads to an alike session. -/
theorem alike_of_compiled_eq_nil (h : Build.Built session.globals)
    (hnothing : (session.evaluate input).compiled = []) :
    session.Alike (session.evaluate input).session := by
  simp only [evaluate] at hnothing ⊢
  split at hnothing
  · next hdefines =>
      rw [if_pos hdefines]
      have hbuilt := h.build table input
      rw [Build.ofSource_eq] at hbuilt
      rw [define, ofItems_eq] at hnothing ⊢
      exact ⟨h, hbuilt, Build.alike_of_compiled_eq_nil h hnothing⟩
  · next hruns =>
      rw [if_neg hruns, (session_execute session _).1]
      exact ⟨h, h, h.alike_self⟩

/-- An input that does not begin with `defun` compiles nothing. -/
theorem compiled_of_defines_eq_false (h : defines (itemsOf input) = false) :
    (session.evaluate input).compiled = [] := by
  simp only [evaluate]
  rw [h]
  exact (session_execute session _).2

/-- Definitions compile nothing if there is no code for the first of them. -/
theorem compiled_of_first_rejected (h : session.globals.Reached)
    (hfirst : ∀ definition ∈ (Build.definitionsOf input).head?, ∃ reason,
      Compile.function (Build.declared table (Build.definitionsOf input) session.globals) definition
        = .error reason) :
    (session.evaluate input).compiled = [] := by
  simp only [evaluate]
  split
  · rw [define, ofItems_eq]
    have haccepted : Build.accepted table (Build.definitionsOf input) session.globals = [] := by
      rw [Build.accepted]
      cases hread : Build.definitionsOf input with
      | nil => rfl
      | cons definition others =>
          rw [hread] at hfirst
          obtain ⟨reason, hreason⟩ := hfirst definition rfl
          rw [Build.rejectedAt_cons_error hreason, List.take_zero]
    exact List.map_eq_nil_iff.mp ((Build.names_compiled h _ _).trans (by rw [haccepted]; rfl))
  · exact (session_execute session _).2

/-! ## Incomplete inputs -/

/-- Whether reading an input fails only because it ends: there is no complete definition in an input
that begins with `defun`, or the only statement in any other is not complete. -/
def Unfinished (items : List Item) : Prop :=
  if defines items then
    ∃ error rest, Parse.definitions items = ([], .failed error rest) ∧ error.isIncomplete
  else ∃ error rest, single items = .failed error rest ∧ error.isIncomplete

theorem ofParse_eq_incomplete_iff (error : ParseError) :
    SessionError.ofParse error = .incomplete ↔ error.isIncomplete = true := by
  rw [SessionError.ofParse]
  split
  · next h => exact iff_of_true rfl h
  · next h => exact iff_of_false nofun h

/-- The reply to definitions asks for more text if the error is that the text ends, and nothing was
compiled. -/
theorem buildReply_eq_incomplete_iff (build : Build) :
    buildReply build = .error .incomplete
      ↔ ∃ error, build.error = some (.parse error) ∧ error.isIncomplete ∧ build.compiled = [] := by
  obtain ⟨globals, compiled, withdrawn, error⟩ := build
  match error, compiled with
  | none, compiled => exact iff_of_false nofun fun ⟨_, hsome, _⟩ => nomatch hsome
  | some (.compile error), compiled => exact iff_of_false nofun fun ⟨_, hsome, _⟩ => nomatch hsome
  | some (.parse error), _ :: _ => exact iff_of_false nofun fun ⟨_, _, _, hnil⟩ => nomatch hnil
  | some (.parse error), [] =>
      rw [buildReply, Except.error.injEq, ofParse_eq_incomplete_iff]
      constructor
      · intro hincomplete
        exact ⟨error, rfl, hincomplete, rfl⟩
      · rintro ⟨_, hsame, hincomplete, -⟩
        cases hsame
        exact hincomplete

/-- A build stops at an error in the text, with nothing compiled, just if nothing was read before
the error. -/
theorem stops_at_parseError_iff {globals : Globals} (h : globals.Reached)
    (definitions : List Definition) (parseError : Option ParseError) (error : ParseError) :
    (Build.ofDefinitions table definitions parseError globals).error = some (.parse error)
        ∧ (Build.ofDefinitions table definitions parseError globals).compiled = []
      ↔ definitions = [] ∧ parseError = some error := by
  rw [Build.error_ofDefinitions]
  constructor
  · rintro ⟨hstops, hnothing⟩
    have hnames : _ = (Build.accepted table definitions globals).map Definition.name :=
      Build.names_compiled h definitions parseError
    rw [hnothing] at hnames
    cases hreason : (Build.filled table definitions globals).2.2 with
    | some reason =>
        rw [hreason] at hstops
        cases hstops
    | none =>
        -- All that was read is compiled, and that is nothing.
        have haccepted : Build.accepted table definitions globals = definitions :=
          Build.accepted_eq_of_error_eq_none h definitions none
            (by rw [Build.error_ofDefinitions, hreason]; rfl)
        rw [haccepted] at hnames
        rw [hreason] at hstops
        refine ⟨List.map_eq_nil_iff.mp hnames.symm, ?_⟩
        cases parseError with
        | none => cases hstops
        | some found =>
            cases hstops
            rfl
  · rintro ⟨rfl, rfl⟩
    rw [Build.compiled_ofDefinitions]
    exact ⟨rfl, rfl⟩

/-- Nothing but definitions, and nothing but the end of the text, makes definitions incomplete. -/
theorem reply_define_iff (h : session.globals.Reached) :
    (session.define (itemsOf input)).reply = .error .incomplete
      ↔ ∃ error rest, Parse.definitions (itemsOf input) = ([], .failed error rest)
        ∧ error.isIncomplete := by
  have hstops := stops_at_parseError_iff h (Build.definitionsOf input) (Build.parseErrorOf input)
  rw [define, ofItems_eq, buildReply_eq_incomplete_iff]
  rw [Build.definitionsOf, Build.parseErrorOf] at hstops ⊢
  generalize Parse.definitions (itemsOf input) = read at hstops ⊢
  obtain ⟨definitions, ending⟩ := read
  constructor
  · rintro ⟨error, herror, hincomplete, hnothing⟩
    obtain ⟨hnil, hfailed⟩ := (hstops error).mp ⟨herror, hnothing⟩
    cases ending with
    | done value rest => cases hfailed
    | failed found rest =>
        cases hfailed
        exact ⟨error, rest, congrArg (·, _) hnil, hincomplete⟩
  · rintro ⟨error, rest, hread, hincomplete⟩
    cases hread
    obtain ⟨herror, hnothing⟩ := (hstops error).mpr ⟨rfl, rfl⟩
    exact ⟨error, herror, hincomplete, hnothing⟩

/-- If there is no code for a statement, this is not because the text ends. -/
theorem unitOf_ne_incomplete (session : Session) (statement : Statement) :
    session.unitOf statement ≠ .error .incomplete := by
  have hwords : ∀ compiled : Except CompileError CodeUnit,
      compiled.mapError (fun error => SessionError.build (.compile error))
        ≠ .error .incomplete := by
    rintro (reason | unit) <;> exact nofun
  cases statement with
  | binding name initializer => exact nofun
  | expression evaluated => exact hwords _
  | returning value => exact hwords _
  | block inside => exact hwords _

/-- If a run fails, this is not because the text ends. -/
theorem runReply_ne_incomplete (session : Session) (unit : CodeUnit) :
    session.runReply unit ≠ .error .incomplete := by
  rw [runReply]
  split
  · intro hsame
    cases hsame
  · intro hsame
    cases hsame

/-- Nothing but a statement, and nothing but the end of the text, makes any other input
incomplete. -/
theorem reply_execute_iff (session : Session) (items : List Item) :
    (session.execute items).reply = .error .incomplete
      ↔ ∃ error rest, single items = .failed error rest ∧ error.isIncomplete := by
  rw [execute]
  cases single items with
  | failed error rest =>
      show Except.error (SessionError.ofParse error) = .error .incomplete ↔ _
      rw [Except.error.injEq, ofParse_eq_incomplete_iff]
      constructor
      · intro hincomplete
        exact ⟨error, rest, rfl, hincomplete⟩
      · rintro ⟨_, _, hsame, hincomplete⟩
        cases hsame
        exact hincomplete
  | done found rest =>
      constructor
      · intro hincomplete
        cases found with
        | none => cases hincomplete
        | some statement =>
            dsimp only at hincomplete
            cases hunit : session.unitOf statement with
            | error error =>
                rw [hunit] at hincomplete
                cases hincomplete
                exact absurd hunit (session.unitOf_ne_incomplete statement)
            | ok unit =>
                rw [hunit] at hincomplete
                exact absurd hincomplete (session.runReply_ne_incomplete unit)
      · rintro ⟨_, _, hfailed, -⟩
        cases hfailed

/-- An input is answered as incomplete if reading it fails only because it ends. -/
theorem reply_evaluate_iff (h : session.globals.Reached) :
    (session.evaluate input).reply = .error .incomplete ↔ Unfinished (itemsOf input) := by
  simp only [evaluate, Unfinished]
  split
  · exact reply_define_iff h
  · exact reply_execute_iff session _

/-- An input that is answered as incomplete compiles nothing. -/
theorem compiled_of_incomplete
    (hincomplete : (session.evaluate input).reply = .error .incomplete) :
    (session.evaluate input).compiled = [] := by
  simp only [evaluate] at hincomplete ⊢
  split at hincomplete
  · next hdefines =>
      rw [if_pos hdefines]
      obtain ⟨_, _, _, hnothing⟩ := (buildReply_eq_incomplete_iff _).mp hincomplete
      exact hnothing
  · next hruns =>
      rw [if_neg hruns]
      exact (session_execute session _).2

/-- In any session that inputs lead to, an input that compiles nothing leaves no trace: all later
inputs are answered as if it had not been there. Such are the inputs that do not begin with `defun`,
those that are answered as incomplete, and definitions without code for the first of them. An input
is answered as incomplete just if reading it fails only because it ends. -/
theorem evaluate_without_trace (earlier : List (List Char)) (input : List Char) :
    ((((after earlier).evaluate input).compiled = [] → ∀ later,
        ((after earlier).evaluate input).session.answers later = (after earlier).answers later)
      ∧ (defines (itemsOf input) = false → ((after earlier).evaluate input).compiled = [])
      ∧ (((after earlier).evaluate input).reply = .error .incomplete →
        ((after earlier).evaluate input).compiled = [])
      ∧ ((∀ definition ∈ (Build.definitionsOf input).head?, ∃ reason, Compile.function
            (Build.declared table (Build.definitionsOf input) (after earlier).globals) definition
              = .error reason) →
          ((after earlier).evaluate input).compiled = []))
    ∧ (((after earlier).evaluate input).reply = .error .incomplete
      ↔ Unfinished (itemsOf input)) := by
  have hbuilt := built_after earlier
  refine ⟨⟨?_, ?_, ?_, ?_⟩, reply_evaluate_iff hbuilt.reached⟩
  · intro hnothing later
    exact (answers_eq (alike_of_compiled_eq_nil hbuilt hnothing) later).symm
  · exact compiled_of_defines_eq_false
  · exact compiled_of_incomplete
  · exact compiled_of_first_rejected hbuilt.reached

/-- A session with a function takes an input that refers to a name that is not there, and declares
and withdraws a name for it; then the start of a definition, and a statement. -/
theorem evaluate_without_trace_withdrawal :
    let first := ['d', 'e', 'f', 'u', 'n', ' ', 'f', '(', 'x', ')', '=', 'r', 'e', 't', 'u', 'r',
      'n', ' ', 'x', ' ', 'e', 'n', 'd']
    let rejected := ['d', 'e', 'f', 'u', 'n', ' ', 'g', '(', ')', '=', 'h', ' ', 'e', 'n', 'd']
    let unfinished := ['d', 'e', 'f', 'u', 'n', ' ', 'g', '(']
    let statement := ['f']
    ((after [first]).evaluate rejected).session.globals.slot? ⟨table, "g"⟩ = some 1
      ∧ (after [first]).globals.slot? ⟨table, "g"⟩ = none
      ∧ (∀ later, ((after [first]).evaluate rejected).session.answers later
          = (after [first]).answers later)
      ∧ ((after [first]).evaluate unfinished).compiled = []
      ∧ ((after [first]).evaluate statement).compiled = [] := by
  intro first rejected unfinished statement
  have hfirst : Parse.definition (itemsOf first)
      = .done (some ⟨"f", ["x"], [.returning (some (.name "x"))]⟩) [] := by cbv
  have hrejected : Parse.definition (itemsOf rejected)
      = .done (some ⟨"g", [], [.expression (.name "h")]⟩) [] := by cbv
  have hunfinished : Parse.definition (itemsOf unfinished)
      = .failed (.unexpectedEnd .identifier) [] := by cbv
  have hread := (Build.definitionsOf_of_definition hrejected).1
  have hglobals : (after [first]).globals
      = (Build.ofDefinitions 0 [⟨"f", ["x"], [.returning (some (.name "x"))]⟩] none
          Globals.empty).globals := by
    have hdefines : defines (itemsOf first) = true := by cbv
    show (evaluate empty first).session.globals = _
    simp only [evaluate]
    rw [if_pos hdefines]
    exact congrArg Build.globals (Build.ofSource_of_definition hfirst table Globals.empty)
  have hdefines : defines (itemsOf rejected) = true := by cbv
  have hcode : Compile.function (Build.declared table [⟨"g", [], [.expression (.name "h")]⟩]
      (after [first]).globals) ⟨"g", [], [.expression (.name "h")]⟩
        = .error (.unresolvedIdentifier "h") := by
    rw [hglobals]
    cbv
  obtain ⟨⟨hleaves, -, -, hnothing⟩, -⟩ := evaluate_without_trace [first] rejected
  obtain ⟨⟨-, -, hincomplete, -⟩, hreply⟩ := evaluate_without_trace [first] unfinished
  obtain ⟨⟨-, hruns, -, -⟩, -⟩ := evaluate_without_trace [first] statement
  refine ⟨?_, ?_, ?_, ?_, ?_⟩
  · have hbuild := Build.ofSource_of_definition hrejected table (after [first]).globals
    simp only [evaluate]
    rw [if_pos hdefines]
    refine (congrArg (fun build => build.globals.slot? ⟨table, "g"⟩) hbuild).trans ?_
    rw [hglobals]
    cbv
  · rw [hglobals]
    cbv
  · refine hleaves (hnothing ?_)
    rw [hread]
    rintro definition hmem
    cases hmem
    exact ⟨_, hcode⟩
  · refine hincomplete (hreply.mpr ?_)
    have hbegins : defines (itemsOf unfinished) = true := by cbv
    rw [Unfinished, if_pos hbegins]
    exact ⟨_, _, by rw [Parse.definitions_eq, hunfinished], rfl⟩
  · exact hruns (by cbv)

end Session

end StackLang
