import StackLang.CommandLine.Report
import StackLang.Proofs.Session.Trace

/-! # Lines and inputs

A console gives its session a growing text, line by line, until it is not answered as incomplete.
The attempts before that change nothing and tell nothing. So what a console tells of lines is what a
session tells of groups of them, each taken once.

* `Notice`, `Step`, `Console.steps` — what a console shows line by line; `transcript_eq` — as text.
* `Session.evaluate_of_incomplete` — an incomplete input changes nothing.
* `Group`, `Grouped` — lines cut into blank lines and inputs, with lines behind them that wait.
* `Grouped.unique` — there is one way to cut them.
* `feed_blank`, `feed_incomplete`, `feed_complete` — what one line does.
* `exists_grouped` — what all lines do.
* `linesOf_flatten` — lines that end with their newlines are the lines of their text.
* `lines_grouped` — a console serves the groups of its lines, and these only. -/

namespace StackLang

open CommandLine (logText transcript)

/-! ## Sessions -/

namespace Session

/-- The session after further inputs. -/
def afterAll (session : Session) (inputs : List (List Char)) : Session :=
  inputs.foldl (fun session input => (session.evaluate input).session) session

/-- What is done for inputs, one after the other. -/
def evaluations (session : Session) : List (List Char) → List Evaluation
  | [] => []
  | input :: later => session.evaluate input :: (session.evaluate input).session.evaluations later

theorem afterAll_append (session : Session) (first second : List (List Char)) :
    session.afterAll (first ++ second) = (session.afterAll first).afterAll second :=
  List.foldl_append

theorem evaluations_append (session : Session) (first second : List (List Char)) :
    session.evaluations (first ++ second)
      = session.evaluations first ++ (session.afterAll first).evaluations second := by
  induction first generalizing session with
  | nil => rfl
  | cons input later ih => exact congrArg (_ :: ·) (ih _)

/-- An incomplete input changes nothing, and nothing is reported of it. -/
theorem evaluate_of_incomplete {session : Session} {input : List Char}
    (h : session.globals.Reached)
    (hincomplete : (session.evaluate input).reply = .error .incomplete) :
    (session.evaluate input).session = session ∧ (session.evaluate input).reports = [] := by
  simp only [evaluate] at hincomplete ⊢
  split at hincomplete
  · next hdefines =>
      obtain ⟨error, rest, hread, -⟩ := (reply_define_iff h).mp hincomplete
      rw [if_pos hdefines, define, Build.ofItems, hread]
      exact ⟨rfl, rfl⟩
  · next hruns =>
      obtain ⟨error, rest, hread, -⟩ := (reply_execute_iff session _).mp hincomplete
      rw [if_neg hruns, execute, hread]
      exact ⟨rfl, rfl⟩

/-- Inputs lead from builds to builds. -/
theorem built_evaluate {session : Session} (h : Build.Built session.globals) (input : List Char) :
    Build.Built (session.evaluate input).session.globals :=
  (alike_evaluate ⟨h, h, h.alike_self⟩ input).1.first_built

end Session

namespace Console

/-! ## What a console shows -/

/-- What is told of a line or of an input. -/
structure Notice where
  /-- The answer or the complaint. -/
  display : Display
  /-- What is reported. -/
  reports : List Event

/-- Nothing is told. -/
def Notice.silent : Notice := ⟨.nothing, []⟩

/-- Whether something is told. -/
def Notice.isHeard : Notice → Bool
  | ⟨.nothing, []⟩ => false
  | _ => true

theorem Notice.eq_silent {notice : Notice} (h : ¬notice.isHeard = true) : notice = .silent := by
  match notice with
  | ⟨.nothing, []⟩ => rfl
  | ⟨.nothing, _ :: _⟩ => exact absurd rfl h
  | ⟨.answer _, _⟩ => exact absurd rfl h
  | ⟨.complaint _, _⟩ => exact absurd rfl h

/-- What is told of an input. -/
def noticeOf (evaluation : Evaluation) : Notice :=
  ⟨displayOf evaluation.reply, evaluation.reports⟩

/-- What is shown among the results: an answer, with a newline behind it. -/
def Notice.output (notice : Notice) : String :=
  match notice.display with
  | .answer text => text ++ "\n"
  | _ => ""

/-- What is shown among the errors: the reports, and then a complaint with a newline behind it. -/
def Notice.errors (verbosity : Nat) (notice : Notice) : String :=
  let log := logText verbosity notice.reports
  match notice.display with
  | .complaint text => log ++ text ++ "\n"
  | _ => log

/-- What a console shows for a line. -/
structure Step where
  /-- What stands before the line. -/
  prompt : String
  /-- What is told of the line. -/
  notice : Notice

/-- What a console shows for lines, one after the other. -/
def steps (console : Console) : List (List Char) → List Step
  | [] => []
  | line :: rest =>
      ⟨console.prompt, (console.feed line).2.1, (console.feed line).2.2⟩
        :: (console.feed line).1.steps rest

/-- The console after some lines. -/
def after (console : Console) (lines : List (List Char)) : Console :=
  lines.foldl (fun console line => (console.feed line).1) console

/-- The transcript of a console consists of its steps and the last prompt. -/
theorem transcript_eq (verbosity : Nat) (console : Console) (lines : List (List Char)) :
    transcript verbosity console lines
      = (String.join ((console.steps lines).map fun step => step.prompt ++ step.notice.output)
            ++ (console.after lines).prompt,
        String.join ((console.steps lines).map fun step => step.notice.errors verbosity)) := by
  induction lines generalizing console with
  | nil => simp [transcript, steps, after]
  | cons line rest ih =>
      have hrest := ih (console.feed line).1
      rw [transcript, steps, List.map_cons, List.map_cons, String.join_cons, String.join_cons]
      dsimp only
      rw [hrest, Notice.output, Notice.errors]
      cases hdisplay : (console.feed line).2.1 <;> simp [String.append_assoc, after]

/-! ## Groups of lines -/

/-- Lines that begin an input: the first of them is not blank. -/
def BeginsInput (lines : List (List Char)) : Prop :=
  ∀ line ∈ lines.head?, line.all Text.isBlank = false

/-- Lines that wait for more: whichever of them have come, a session answers their text as
incomplete. -/
def Waiting (session : Session) (lines : List (List Char)) : Prop :=
  ∀ beginning, beginning <+: lines → beginning ≠ [] →
    (session.evaluate beginning.flatten).reply = .error .incomplete

theorem BeginsInput.nil : BeginsInput [] :=
  fun _ hnone => nomatch hnone

theorem Waiting.nil {session : Session} : Waiting session [] :=
  fun _ hbeginning hsome => absurd (List.prefix_nil.mp hbeginning) hsome

/-- Lines that begin an input go on with any line; where nothing waits, a blank line begins none. -/
theorem BeginsInput.concat {waiting : List (List Char)} {line : List Char}
    (h : BeginsInput waiting) (hkept : ¬(waiting = [] ∧ line.all Text.isBlank = true)) :
    BeginsInput (waiting ++ [line]) := by
  cases waiting with
  | nil =>
      rintro _ ⟨rfl⟩
      exact Bool.eq_false_iff.mpr fun hblank => hkept ⟨rfl, hblank⟩
  | cons first others => exact h

/-- Lines that wait are joined by one with which they are still incomplete. -/
theorem Waiting.concat {session : Session} {waiting : List (List Char)} {line : List Char}
    (h : Waiting session waiting)
    (hincomplete : (session.evaluate (waiting ++ [line]).flatten).reply = .error .incomplete) :
    Waiting session (waiting ++ [line]) := by
  intro beginning hbeginning hsome
  rcases List.prefix_concat_iff.mp hbeginning with rfl | hbefore
  · exact hincomplete
  · exact h beginning hbefore hsome

/-- Lines that belong together. -/
inductive Group where
  /-- A line that is dropped. -/
  | blank (line : List Char)
  /-- The lines of an input: those that wait for more, and the last one. -/
  | input (earlier : List (List Char)) (last : List Char)

namespace Group

/-- The lines of a group. -/
def lines : Group → List (List Char)
  | .blank line => [line]
  | .input earlier last => earlier ++ [last]

/-- The input that a group makes, if it is not dropped. -/
def inputs : Group → List (List Char)
  | .blank _ => []
  | .input earlier last => [(earlier ++ [last]).flatten]

/-- The group is a blank line, or the fewest lines that begin an input and are not answered as
incomplete. -/
def Complete (session : Session) : Group → Prop
  | .blank line => line.all Text.isBlank = true
  | .input earlier last => BeginsInput (earlier ++ [last]) ∧ Waiting session earlier
      ∧ (session.evaluate (earlier ++ [last]).flatten).reply ≠ .error .incomplete

end Group

/-- From a session on, lines are cut into groups, with lines behind them that wait for more. -/
inductive Grouped : Session → List (List Char) → List Group → List (List Char) → Prop
  /-- All lines wait. -/
  | pending {session : Session} {tail : List (List Char)} (hbegins : BeginsInput tail)
      (hwaiting : Waiting session tail) : Grouped session tail [] tail
  /-- The first group comes before the others, which find the session that it leads to. -/
  | group {session : Session} {group : Group} {lines tail : List (List Char)}
      {groups : List Group} (hgroup : group.Complete session)
      (h : Grouped (session.afterAll group.inputs) lines groups tail) :
      Grouped session (group.lines ++ lines) (group :: groups) tail

/-- Groups and the lines behind them are all lines, in order. -/
theorem Grouped.lines_eq {session : Session} {lines tail : List (List Char)}
    {groups : List Group} (h : Grouped session lines groups tail) :
    groups.flatMap Group.lines ++ tail = lines := by
  induction h with
  | pending => rfl
  | group hgroup h ih => rw [List.flatMap_cons, List.append_assoc, ih]

/-- The lines behind the groups begin an input. -/
theorem Grouped.beginsInput_tail {session : Session} {lines tail : List (List Char)}
    {groups : List Group} (h : Grouped session lines groups tail) : BeginsInput tail := by
  induction h with
  | pending hbegins => exact hbegins
  | group hgroup h ih => exact ih

/-! ## There is one way to cut lines -/

/-- A group does not begin lines that wait. -/
theorem Group.Complete.not_waiting {session : Session} {group : Group}
    {lines : List (List Char)} (hgroup : group.Complete session)
    (hbegins : BeginsInput (group.lines ++ lines))
    (hwaiting : Waiting session (group.lines ++ lines)) : False := by
  cases group with
  | blank line =>
      have hblank : line.all Text.isBlank = true := hgroup
      rw [hbegins line rfl] at hblank
      cases hblank
  | input earlier last =>
      obtain ⟨-, -, hcomplete⟩ := hgroup
      exact hcomplete (hwaiting _ (List.prefix_append _ _) (by simp))

/-- A blank line does not begin an input. -/
theorem not_beginsInput_of_blank {first : List Char} {lines others rest : List (List Char)}
    (hblank : first.all Text.isBlank = true) (hsome : lines ≠ []) (hbegins : BeginsInput lines)
    (hsame : first :: rest = lines ++ others) : False := by
  obtain ⟨line, lines, rfl⟩ := List.exists_cons_of_ne_nil hsome
  obtain ⟨rfl, -⟩ := List.cons.inj hsame
  rw [hbegins first rfl] at hblank
  cases hblank

/-- Of two inputs none ends before the other, as only their last lines complete them. -/
theorem eq_of_begins {session : Session} {lines waiting : List (List Char)} {last : List Char}
    (hsome : lines ≠ []) (hcomplete : (session.evaluate lines.flatten).reply ≠ .error .incomplete)
    (hwaiting : Waiting session waiting) (hbeginning : lines <+: waiting ++ [last]) :
    lines = waiting ++ [last] := by
  rcases List.prefix_concat_iff.mp hbeginning with hsame | hbefore
  · exact hsame
  · exact absurd (hwaiting lines hbefore hsome) hcomplete

/-- Groups that begin the same lines are the same. -/
theorem Group.Complete.eq {session : Session} {group other : Group}
    {lines lines' : List (List Char)} (hgroup : group.Complete session)
    (hother : other.Complete session) (hsame : group.lines ++ lines = other.lines ++ lines') :
    group = other := by
  match group, other with
  | .blank line, .blank line' =>
      obtain ⟨rfl, -⟩ := List.cons.inj hsame
      rfl
  | .blank line, .input earlier last =>
      exact (not_beginsInput_of_blank hgroup (by simp) hother.1 hsame).elim
  | .input earlier last, .blank line =>
      exact (not_beginsInput_of_blank hother (by simp) hgroup.1 hsame.symm).elim
  | .input earlier last, .input earlier' last' =>
      obtain ⟨-, hwaiting, hcomplete⟩ := hgroup
      obtain ⟨-, hwaiting', hcomplete'⟩ := hother
      have hbeginning : earlier ++ [last] <+: (earlier' ++ [last']) ++ lines' := by
        rw [← show _ = (earlier' ++ [last']) ++ lines' from hsame]
        exact List.prefix_append _ _
      -- Both are the first lines, so one begins the other.
      have heq : earlier ++ [last] = earlier' ++ [last'] := by
        rcases List.prefix_or_prefix_of_prefix hbeginning (List.prefix_append _ _) with hle | hle
        · exact eq_of_begins (by simp) hcomplete hwaiting' hle
        · exact (eq_of_begins (by simp) hcomplete' hwaiting hle).symm
      obtain ⟨rfl, hlast⟩ := List.append_inj' heq rfl
      cases hlast
      rfl

/-- There is one way to cut lines into groups. -/
theorem Grouped.unique {session : Session} {lines tail tail' : List (List Char)}
    {groups groups' : List Group} (h : Grouped session lines groups tail)
    (h' : Grouped session lines groups' tail') : groups' = groups ∧ tail' = tail := by
  induction h generalizing groups' with
  | pending hbegins hwaiting =>
      cases h' with
      | pending => exact ⟨rfl, rfl⟩
      | group hgroup => exact (hgroup.not_waiting hbegins hwaiting).elim
  | @group session group lines _ _ hgroup h ih =>
      generalize hlines : group.lines ++ lines = all at h'
      cases h' with
      | pending hbegins hwaiting =>
          subst hlines
          exact (hgroup.not_waiting hbegins hwaiting).elim
      | group hother hrest =>
          -- The first groups are the same, so the others find the same session.
          obtain rfl := hgroup.eq hother hlines
          obtain rfl := List.append_cancel_left hlines
          obtain ⟨rfl, rfl⟩ := ih hrest
          exact ⟨rfl, rfl⟩

/-! ## What one line does -/

variable {session : Session} {waiting : List (List Char)} {line : List Char}

/-- The text of lines that begin an input is not blank. -/
theorem all_flatten_of_beginsInput {lines : List (List Char)} (hbegins : BeginsInput lines)
    (hsome : lines ≠ []) : lines.flatten.all Text.isBlank = false := by
  obtain ⟨first, others, rfl⟩ := List.exists_cons_of_ne_nil hsome
  rw [List.flatten_cons, List.all_append, hbegins first rfl, Bool.false_and]

/-- A blank line before which nothing waits is dropped. -/
theorem feed_blank (hblank : line.all Text.isBlank = true) :
    (Console.mk session []).feed line = (⟨session, []⟩, .nothing, []) := by
  rw [feed, List.nil_append, if_pos hblank]

/-- A line with which an input is incomplete waits with the others. -/
theorem feed_incomplete (h : session.globals.Reached) (hbegins : BeginsInput (waiting ++ [line]))
    (hincomplete : (session.evaluate (waiting ++ [line]).flatten).reply = .error .incomplete) :
    (Console.mk session waiting.flatten).feed line
      = (⟨session, (waiting ++ [line]).flatten⟩, .nothing, []) := by
  have hblank := all_flatten_of_beginsInput hbegins (by simp)
  obtain ⟨hsession, hreports⟩ := Session.evaluate_of_incomplete h hincomplete
  rw [List.flatten_concat] at hblank hincomplete hsession hreports ⊢
  rw [feed]
  dsimp only
  rw [hblank, hincomplete, hsession, hreports]
  rfl

/-- A line with which an input is complete ends it. -/
theorem feed_complete (hbegins : BeginsInput (waiting ++ [line]))
    (hcomplete : (session.evaluate (waiting ++ [line]).flatten).reply ≠ .error .incomplete) :
    (Console.mk session waiting.flatten).feed line
      = (⟨(session.evaluate (waiting ++ [line]).flatten).session, []⟩,
        displayOf (session.evaluate (waiting ++ [line]).flatten).reply,
        (session.evaluate (waiting ++ [line]).flatten).reports) := by
  have hblank := all_flatten_of_beginsInput hbegins (by simp)
  rw [List.flatten_concat] at hblank hcomplete ⊢
  rw [feed]
  dsimp only
  rw [hblank, if_neg Bool.false_ne_true]
  split
  · next hincomplete => exact absurd hincomplete hcomplete
  · rfl

/-! ## What all lines do -/

/-- What stands before a line behind so many lines that wait. -/
def promptBehind : Nat → String
  | 0 => "> "
  | _ + 1 => ". "

/-- What a console shows for so many lines that wait: nothing but what stands before them. -/
def waitingSteps (count : Nat) : List Step :=
  (List.range count).map fun before => ⟨promptBehind before, .silent⟩

theorem waitingSteps_succ (count : Nat) :
    waitingSteps (count + 1) = waitingSteps count ++ [⟨promptBehind count, .silent⟩] := by
  rw [waitingSteps, waitingSteps, List.range_succ, List.map_append]
  rfl

/-- What is shown for a group: nothing for a blank line and for the lines of an input that wait, and
the answer to the input for its last line. -/
def Group.steps (session : Session) : Group → List Step
  | .blank _ => [⟨promptBehind 0, .silent⟩]
  | .input earlier last =>
      waitingSteps earlier.length
        ++ [⟨promptBehind earlier.length, noticeOf (session.evaluate (earlier ++ [last]).flatten)⟩]

/-- What is shown for groups, one after the other. -/
def stepsOf (session : Session) : List Group → List Step
  | [] => []
  | group :: later => group.steps session ++ stepsOf (session.afterAll group.inputs) later

/-- Before a line stands how many lines wait. -/
theorem prompt_eq (hbegins : BeginsInput waiting) :
    (Console.mk session waiting.flatten).prompt = promptBehind waiting.length := by
  cases waiting with
  | nil => rfl
  | cons first others =>
      have hfirst : first ≠ [] := by
        rintro rfl
        exact absurd (hbegins [] rfl) (by simp)
      obtain ⟨character, text, rfl⟩ := List.exists_cons_of_ne_nil hfirst
      rfl

/-- From any session on, with lines that wait, a console does for further lines what their groups
say. -/
theorem exists_grouped (lines : List (List Char)) (hbuilt : Build.Built session.globals)
    (hbegins : BeginsInput waiting) (hwaiting : Waiting session waiting) :
    ∃ groups tail, Grouped session (waiting ++ lines) groups tail
      ∧ waitingSteps waiting.length ++ (Console.mk session waiting.flatten).steps lines
        = stepsOf session groups ++ waitingSteps tail.length
      ∧ (Console.mk session waiting.flatten).after lines
        = ⟨session.afterAll (groups.flatMap Group.inputs), tail.flatten⟩ := by
  induction lines generalizing session waiting with
  | nil =>
      refine ⟨[], waiting, ?_, List.append_nil _, rfl⟩
      rw [List.append_nil]
      exact .pending hbegins hwaiting
  | cons line rest ih =>
      rw [steps, prompt_eq hbegins, after, List.foldl_cons]
      by_cases hdropped : waiting = [] ∧ line.all Text.isBlank = true
      · -- A group of its own.
        obtain ⟨rfl, hblank⟩ := hdropped
        obtain ⟨groups, tail, hgrouped, hsteps, hafter⟩ := ih hbuilt hbegins hwaiting
        have hgroup : (Group.blank line).Complete session := hblank
        refine ⟨.blank line :: groups, tail, .group hgroup hgrouped, ?_, ?_⟩
        · rw [List.flatten_nil, feed_blank hblank, stepsOf, List.append_assoc]
          exact congrArg (⟨promptBehind 0, .silent⟩ :: ·) hsteps
        · rw [List.flatten_nil, feed_blank hblank]
          exact hafter
      · have hbegins' := hbegins.concat hdropped
        by_cases hreply :
            (session.evaluate (waiting ++ [line]).flatten).reply = .error .incomplete
        · -- The session is the same, and one more line waits.
          obtain ⟨groups, tail, hgrouped, hsteps, hafter⟩ :=
            ih hbuilt hbegins' (hwaiting.concat hreply)
          have hfeed := feed_incomplete hbuilt.reached hbegins' hreply
          refine ⟨groups, tail, ?_, ?_, ?_⟩
          · rwa [List.append_cons]
          · rw [hfeed, ← hsteps, List.length_append, List.length_singleton, waitingSteps_succ,
              List.append_assoc]
            rfl
          · rw [hfeed]
            exact hafter
        · -- The last line of a group: nothing waits behind it, in the session it leads to.
          obtain ⟨groups, tail, hgrouped, hsteps, hafter⟩ :=
            ih (Session.built_evaluate hbuilt (waiting ++ [line]).flatten) BeginsInput.nil
              Waiting.nil
          have hgroup : (Group.input waiting line).Complete session := ⟨hbegins', hwaiting, hreply⟩
          refine ⟨.input waiting line :: groups, tail, ?_, ?_, ?_⟩
          · rw [List.append_cons]
            exact .group hgroup hgrouped
          · rw [feed_complete hbegins' hreply, stepsOf, Group.steps, List.append_assoc,
              List.append_assoc]
            exact congrArg (waitingSteps _ ++ _ :: ·) hsteps
          · rw [feed_complete hbegins' hreply]
            exact hafter

/-! ## All that is told -/

/-- What is told, without the silence. -/
def heard (notices : List Notice) : List Notice :=
  notices.filter Notice.isHeard

theorem heard_append (first second : List Notice) :
    heard (first ++ second) = heard first ++ heard second :=
  List.filter_append first second

theorem heard_waitingSteps (count : Nat) : heard ((waitingSteps count).map Step.notice) = [] := by
  rw [heard, List.filter_eq_nil_iff, waitingSteps, List.map_map]
  intro notice hnotice
  obtain ⟨before, -, rfl⟩ := List.mem_map.mp hnotice
  exact Bool.false_ne_true

/-- Of a group is told what is told of its input. -/
theorem heard_group (session : Session) (group : Group) :
    heard ((group.steps session).map Step.notice)
      = heard ((session.evaluations group.inputs).map noticeOf) := by
  cases group with
  | blank line => rfl
  | input earlier last =>
      rw [Group.steps, List.map_append, heard_append, heard_waitingSteps]
      rfl

/-- Of groups is told what is told of their inputs. -/
theorem heard_stepsOf (session : Session) (groups : List Group) :
    heard ((stepsOf session groups).map Step.notice)
      = heard ((session.evaluations (groups.flatMap Group.inputs)).map noticeOf) := by
  induction groups generalizing session with
  | nil => rfl
  | cons group later ih =>
      rw [stepsOf, List.map_append, heard_append, heard_group, ih, List.flatMap_cons,
        Session.evaluations_append, List.map_append, heard_append]

/-- Silence is not seen among the errors. -/
theorem join_errors_heard (verbosity : Nat) (notices : List Notice) :
    String.join (notices.map (Notice.errors verbosity))
      = String.join ((heard notices).map (Notice.errors verbosity)) := by
  induction notices with
  | nil => rfl
  | cons notice later ih =>
      rw [List.map_cons, String.join_cons, ih, heard, heard, List.filter_cons]
      split
      · rw [List.map_cons, String.join_cons]
      · next hsilent =>
          rw [Notice.eq_silent hsilent]
          exact String.empty_append

/-! ## Lines of a text -/

/-- A line that ends with its newline. -/
def EndsLine (line : List Char) : Prop :=
  ∃ text, '\n' ∉ text ∧ line = text ++ ['\n']

/-- The first line of a text ends with the first newline. -/
theorem linesOf_append {text : List Char} (h : '\n' ∉ text) (rest : List Char) :
    linesOf (text ++ '\n' :: rest) = (text ++ ['\n']) :: linesOf rest := by
  induction text with
  | nil => rw [List.nil_append, linesOf, List.nil_append]
  | cons character text ih =>
      rw [List.mem_cons, not_or] at h
      obtain ⟨hcharacter, htext⟩ := h
      rw [List.cons_append, linesOf, ih htext]
      · rfl
      · exact fun hnewline => hcharacter hnewline.symm

/-- Lines that end with their newlines are the lines of their text. -/
theorem linesOf_flatten {lines : List (List Char)} (h : ∀ line ∈ lines, EndsLine line) :
    linesOf lines.flatten = lines := by
  induction lines with
  | nil => rfl
  | cons line rest ih =>
      obtain ⟨⟨text, htext, rfl⟩, hrest⟩ := List.forall_mem_cons.mp h
      rw [List.flatten_cons, List.append_assoc, List.singleton_append, linesOf_append htext,
        ih hrest]

/-! ## Service -/

/-- What a console that has just been started does for lines that are cut into groups, with a tail
that waits for more. -/
structure Serves (lines : List (List Char)) (groups : List Group) (tail : List (List Char)) :
    Prop where
  /-- No line is lost, taken twice or moved. -/
  lines_eq : groups.flatMap Group.lines ++ tail = lines
  /-- Line by line: nothing but prompts for blank lines and for lines that wait, and for the last
  line of each input what a session tells of it after the inputs before. -/
  steps_eq : start.steps lines = stepsOf Session.empty groups ++ waitingSteps tail.length
  /-- All that is told, in order, is what a session tells of the inputs, each taken once. -/
  heard_eq : heard ((start.steps lines).map Step.notice)
    = heard ((Session.empty.evaluations (groups.flatMap Group.inputs)).map noticeOf)
  /-- The session has taken these inputs and nothing else; the tail still waits. -/
  after_eq : start.after lines = ⟨Session.after (groups.flatMap Group.inputs), tail.flatten⟩
  /-- At the end of the input the tail is dropped, and the program succeeds. -/
  replay_eq (verbosity : Nat) (hlines : ∀ line ∈ lines, EndsLine line) :
    CommandLine.replay verbosity lines.flatten
      = .success
          (greeting
            ++ (String.join ((stepsOf Session.empty groups ++ waitingSteps tail.length).map
                  fun step => step.prompt ++ step.notice.output)
              ++ promptBehind tail.length))
          (String.join ((Session.empty.evaluations (groups.flatMap Group.inputs)).map
            fun evaluation => (noticeOf evaluation).errors verbosity))

/-- There is one way to cut lines into blank lines, inputs and a tail that waits, and a console does
for the lines what a session does for these inputs, each taken once. -/
theorem lines_grouped (lines : List (List Char)) :
    ∃ groups tail, Grouped Session.empty lines groups tail
      ∧ (∀ groups' tail', Grouped Session.empty lines groups' tail' →
          groups' = groups ∧ tail' = tail)
      ∧ Serves lines groups tail := by
  have hbuilt : Build.Built Session.empty.globals := .empty
  obtain ⟨groups, tail, hgrouped, hsteps, hafter⟩ :=
    exists_grouped lines hbuilt BeginsInput.nil Waiting.nil
  have hheard : heard ((start.steps lines).map Step.notice)
      = heard ((Session.empty.evaluations (groups.flatMap Group.inputs)).map noticeOf) := by
    rw [show start.steps lines = _ from hsteps, List.map_append, heard_append, heard_stepsOf,
      heard_waitingSteps, List.append_nil]
  refine ⟨groups, tail, hgrouped, fun _ _ => hgrouped.unique, hgrouped.lines_eq, hsteps, hheard,
    hafter, fun verbosity hlines => ?_⟩
  have herrors : String.join ((start.steps lines).map fun step => step.notice.errors verbosity)
      = String.join ((Session.empty.evaluations (groups.flatMap Group.inputs)).map
          fun evaluation => (noticeOf evaluation).errors verbosity) := by
    have hjoin := join_errors_heard verbosity ((start.steps lines).map Step.notice)
    rw [hheard, ← join_errors_heard, List.map_map, List.map_map] at hjoin
    exact hjoin
  have hprompt : (start.after lines).prompt = promptBehind tail.length := by
    rw [show start.after lines = _ from hafter]
    exact prompt_eq hgrouped.beginsInput_tail
  rw [CommandLine.replay, linesOf_flatten hlines, transcript_eq, herrors, hprompt,
    show start.steps lines = _ from hsteps]

end Console

end StackLang
