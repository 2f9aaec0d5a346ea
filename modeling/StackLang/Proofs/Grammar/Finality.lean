import Mathlib
import StackLang.Proofs.Grammar.StatementDecision
import StackLang.Proofs.Token.Extension
import StackLang.Session

/-! # Definite errors are final

A text that ends in a newline has the same items before any other text, up to a quoted text that is
left open. A parser that has concluded behind some of its tokens does not see what comes behind
them; one that has not can only complain of the end of the text or of a lexical error. So what it
complains of, if no more text could mend it, it complains of before any other text too.

* `Steady` — a parser has concluded, or it notices the end of the text and lexical errors.
* `steady_module`, `steady_single` — whole texts, and single statements.
* `Steady.final` — a steady parser keeps to its definite errors.
* `definite_errors_final` — so do all parsers that start on a text. -/

namespace StackLang.Grammar

open Parse

variable {α β : Type}

/-! ## Parsers of whole texts -/

/-- Either what comes behind the tokens no longer matters, or the end of the text and lexical errors
are noticed. -/
def Steady (goOn : List Item → Outcome α) : Prop :=
  Concluded goOn ∨ RunsOut goOn

theorem Decided.steady {goOn : List Item → Outcome α} (h : Decided goOn) : Steady goOn :=
  h.imp_right Opened.toRunsOut

theorem Steady.andThen {first : List Item → Outcome α} {next : α → List Item → Outcome β}
    (h : Steady first) (hends : ∀ value, Ends (next value))
    (hdone : ∀ value left, (∀ behind, first behind = .done value (ahead left behind)) →
      Steady fun behind => next value (ahead left behind)) :
    Steady fun behind => (first behind).andThen next := by
  rcases h with hconcluded | hruns
  · exact hconcluded.andThen .inl hdone
  · exact .inr (hruns.andThen hends)

theorem Steady.map {goOn : List Item → Outcome α} (change : α → β) (h : Steady goOn) :
    Steady fun items => (goOn items).map change :=
  h.andThen (closes_change change).ends fun value left _ =>
    .inl (.done (change value) left fun _ => rfl)

theorem steady_finish (tokens : List Token) :
    Steady fun behind => finish (ahead tokens behind) := by
  induction tokens with
  | nil => exact .inr ⟨.inl ⟨(), rfl⟩, fun error behind => ⟨behind, rfl⟩⟩
  | cons token left ih =>
      by_cases hterminator : token.kind = .delimiter .terminator
      · simp only [ahead_cons, finish, if_pos hterminator]
        exact ih
      · refine .inl (.failed .endOfInput token fun behind => ⟨ahead left behind, ?_⟩)
        rw [ahead_cons, finish, if_neg hterminator]

theorem steady_single (tokens : List Token) :
    Steady fun behind => Session.single (ahead tokens behind) :=
  (decided_statement tokens).steady.andThen (fun found => .inl ⟨found, rfl⟩) fun _ left _ =>
    (steady_finish left).map _

/-- A text is read definition by definition. -/
theorem module_eq (items : List Item) :
    Parse.module items
      = (definition items).andThen fun found rest =>
        match found with
        | none => .done [] rest
        | some first => (Parse.module rest).map fun others => first :: others := by
  rw [Parse.module, definitions_eq]
  cases definition items with
  | failed error rest => rfl
  | done found rest =>
      cases found with
      | none => rfl
      | some first =>
          dsimp only [Outcome.andThen_done]
          rw [Parse.module]
          obtain ⟨others, ending⟩ := definitions rest
          cases ending <;> rfl

theorem module_nil : Parse.module [] = .done [] [] := by
  rw [Parse.module, definitions_nil]
  rfl

theorem steady_module (tokens : List Token) :
    Steady fun behind => Parse.module (ahead tokens behind) := by
  have hsame := funext fun behind => module_eq (ahead tokens behind)
  rw [hsame]
  refine (decided_definition tokens).steady.andThen (fun found => ?_) fun found left hdone => ?_
  · cases found with
    | none => exact .inl ⟨[], rfl⟩
    | some first => exact .inl ⟨[first], by simp only [module_nil, Outcome.map_done]⟩
  · cases found with
    | none => exact .inl (.done [] left fun _ => rfl)
    | some first =>
        have hshorter : left.length < tokens.length := by
          have hlength := length_lt_of_definition (hdone [])
          rwa [length_ahead_nil, length_ahead_nil] at hlength
        exact (steady_module left).map _
termination_by tokens.length
decreasing_by exact hshorter

/-! ## Errors that stay -/

/-- Parsing the text fails with the error. -/
def FailsWith (parser : List Item → Outcome α) (source : List Char) (error : ParseError) : Prop :=
  ∃ rest, parser (itemsOf source) = .failed error rest

/-- The definite errors of a text are errors of the text with more behind it. -/
def Final (parser : List Item → Outcome α) (source more : List Char) : Prop :=
  ∀ error, error.isIncomplete = false → FailsWith parser source error →
    FailsWith parser (source ++ more) error

/-- A parser that is steady behind all tokens keeps to its definite errors on a text that ends in a
newline. -/
theorem Steady.final {parser : List Item → Outcome α}
    (h : ∀ tokens, Steady fun behind => parser (ahead tokens behind)) (text more : List Char) :
    Final parser (text ++ ['\n']) more := by
  rintro error hdefinite ⟨left, hfailed⟩
  obtain ⟨before, last, hitems, hlast, hmore⟩ := itemsOf_line text
  obtain ⟨others, hothers⟩ := hmore more
  obtain ⟨tokens, rest, rfl, hrest⟩ := exists_ahead before
  rw [ahead_append] at hitems hothers
  rw [hitems] at hfailed
  rw [FailsWith, List.append_assoc, List.singleton_append, hothers]
  rcases h tokens with hconcluded | hruns
  · cases hconcluded with
    | done value left hdone =>
        rw [hdone (rest ++ last)] at hfailed
        cases hfailed
    | failed wanted found hexpected =>
        obtain ⟨_, hsame⟩ := hexpected (rest ++ last)
        cases hfailed.symm.trans hsame
        exact hexpected (rest ++ others)
  · rcases hrest with rfl | ⟨fault, faulty, rfl⟩
    · -- All items are tokens, but for a quoted text that is left open.
      exfalso
      rw [List.nil_append] at hfailed
      rcases hlast with rfl | ⟨span, rfl⟩
      · rcases hruns.ends with ⟨value, hdone⟩ | ⟨wanted, _, hend⟩
        · cases hfailed.symm.trans hdone
        · cases hfailed.symm.trans hend
          cases hdefinite
      · obtain ⟨_, hlexical⟩ := hruns.faulty ⟨.unterminatedText, span⟩ []
        cases hfailed.symm.trans hlexical
        cases hdefinite
    · -- The first lexical error is met in both texts.
      obtain ⟨_, hlexical⟩ := hruns.faulty fault (faulty ++ last)
      cases hfailed.symm.trans hlexical
      exact hruns.faulty fault (faulty ++ others)

/-- A parse that fails on a text which ends in a newline, with an error that no more text could
mend, fails with the same error before any other text. -/
theorem definite_errors_final {source : List Char} (hline : source.getLast? = some '\n')
    (more : List Char) :
    Final expression source more ∧ Final statement source more ∧ Final block source more
      ∧ Final definition source more ∧ Final Parse.module source more
      ∧ Final Session.single source more := by
  obtain ⟨text, rfl⟩ := List.getLast?_eq_some_iff.mp hline
  exact ⟨Steady.final (fun tokens => (decided_expression tokens).steady) text more,
    Steady.final (fun tokens => (decided_statement tokens).steady) text more,
    Steady.final (fun tokens => (decided_block tokens).steady) text more,
    Steady.final (fun tokens => (decided_definition tokens).steady) text more,
    Steady.final steady_module text more,
    Steady.final steady_single text more⟩

/-- A name where a comma or a parenthesis is wanted. -/
theorem definite_errors_final_argument :
    let source : List Char := ['f', '(', 'a', ' ', 'b', '\n']
    let error : ParseError := .expected .argumentSeparator ⟨.identifier "b", ⟨1, 5⟩, ⟨1, 6⟩⟩
    source.getLast? = some '\n' ∧ error.isIncomplete = false ∧ FailsWith expression source error
      ∧ FailsWith expression (source ++ [')', '"']) error := by
  intro source error
  have hline : source.getLast? = some '\n' := rfl
  have hfails : FailsWith expression source error :=
    ⟨[.ok ⟨.delimiter .terminator, ⟨1, 6⟩, ⟨1, 6⟩⟩], by cbv⟩
  exact ⟨hline, rfl, hfails, (definite_errors_final hline [')', '"']).1 error rfl hfails⟩

end StackLang.Grammar
