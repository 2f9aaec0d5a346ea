import Mathlib
import StackLang.Proofs.Grammar.Finality

/-! # Texts that can be completed

A parser that has reached the end of the text wants more, and there is a text that completes what
was begun. A quoted text that is left open can be closed; but then a quoted text stands there, and
where none can be taken nothing completes the text, although the error says that more text could.

* `spelling` — a text that is read as given kinds, behind any text.
* `Completable` — some text behind a text lets parsing succeed.
* `Missing` — a place at which more text is missing.
* `completableIff` — which incomplete texts can be completed.
* `incomplete_completable_iff` — so it is for each parser of a construct.
* `incomplete_not_completable` — not all of them can be completed. -/

namespace StackLang.Grammar

open Parse

variable {α : Type}

/-! ## Spelling kinds -/

/-- A text for some kinds: each as it is shown, with a space before it. -/
def spelling (kinds : List TokenKind) : List Char :=
  kinds.flatMap fun kind => ' ' :: kind.shown

theorem parted_spelling (kinds : List TokenKind) : Parted (spelling kinds) := by
  cases kinds with
  | nil => exact parted_nil
  | cons kind kinds => exact parted_cons _ (by decide)

/-- Plain kinds are read from such a text. -/
theorem contentsOf_spelling {kinds : List TokenKind} (hplain : ∀ kind ∈ kinds, Plain kind)
    (ends : Bool) : contentsOf ends (spelling kinds) = kinds.map .ok := by
  induction kinds generalizing ends with
  | nil => exact contentsOf_nil ends
  | cons kind kinds ih =>
      obtain ⟨hkind, hkinds⟩ := List.forall_mem_cons.mp hplain
      have htext : spelling (kind :: kinds) = ' ' :: (kind.shown ++ spelling kinds) := rfl
      have hshown : contentsOf ends kind.shown = [kind].map .ok := hkind ends
      rw [htext, contentsOf_blank _ (by decide) (by simp),
        contentsOf_append (parted_spelling kinds) hshown, ih hkinds]
      rfl

/-- Behind any text they are read to the end. -/
theorem reads_spelling {kinds : List TokenKind} (hplain : ∀ kind ∈ kinds, Plain kind)
    (place : Text.Position) (ends : Bool) :
    Reads kinds (Cursor.mk (spelling kinds) place ends).items [] := by
  rw [reads_end_iff, content_items]
  exact contentsOf_spelling hplain ends

/-- What is open is completed by some plain kinds. -/
theorem Resumes.exists_completes {goOn : List Item → Outcome α} (h : Resumes goOn) :
    ∃ kinds, (∀ kind ∈ kinds, Plain kind) ∧ Completes goOn kinds := by
  cases h with
  | passes value h =>
      refine ⟨[], nofun, fun items rest hreads hstops => ⟨value, ?_⟩⟩
      rw [← reads_nil.mp hreads] at hstops ⊢
      exact h items hstops
  | welcomes kinds hplain h =>
      exact ⟨_, List.forall_mem_cons.mpr ⟨plain_text, hplain⟩, h []⟩
  | refuses kinds hplain h => exact ⟨kinds, hplain, h⟩

/-- A quoted text is taken, and then there is a way to go on; or it never is. -/
theorem Resumes.text_or_refuses {goOn : List Item → Outcome α} (h : Resumes goOn) :
    (∃ kinds, (∀ kind ∈ kinds, Plain kind) ∧ ∀ token contents behind,
      token.kind = .text contents → Reads kinds behind [] →
        ∃ value left, goOn (.ok token :: behind) = .done value left) ∨ Refuses goOn := by
  cases h with
  | passes value h =>
      refine .inl ⟨[], nofun, fun token contents behind hkind _ => ?_⟩
      exact ⟨value, _, h _ (stops_text behind hkind)⟩
  | welcomes kinds hplain h =>
      refine .inl ⟨kinds, hplain, fun token contents behind hkind hreads => ?_⟩
      obtain ⟨value, hdone⟩ := h contents _ [] (.cons hkind hreads) trivial
      exact ⟨value, [], hdone⟩
  | refuses _ _ _ hrefuses => exact .inr hrefuses

/-! ## Completing a text -/

/-- Parsing the text succeeds. -/
def Succeeds (parser : List Item → Outcome α) (source : List Char) : Prop :=
  ∃ value rest, parser (itemsOf source) = .done value rest

/-- Some text behind the text lets parsing succeed. -/
def Completable (parser : List Item → Outcome α) (source : List Char) : Prop :=
  ∃ more, Succeeds parser (source ++ more)

/-- Parsing the text fails at a token that cannot be taken. -/
def Refused (parser : List Item → Outcome α) (source : List Char) : Prop :=
  ∃ wanted found, FailsWith parser source (.expected wanted found)

/-- If more text is said to be missing, it can be completed where the text has ended; and where a
quoted text is left open, just if it is not refused once it is closed. -/
def CompletableIff (parser : List Item → Outcome α) (source : List Char) : Prop :=
  ∀ error, error.isIncomplete = true → FailsWith parser source error →
    ((∃ wanted, error = .unexpectedEnd wanted) → Completable parser source)
      ∧ (Completable parser source ↔ ¬ Refused parser (source ++ ['"']))

/-- A place in a source text at which more text is missing: the parser has used up the tokens before
it, and nothing stands there, or a quoted text that is left open. -/
structure Missing (parser : List Item → Outcome α) (source : List Char) where
  /-- The tokens before the place. -/
  tokens : List Token
  /-- The place. -/
  place : Text.Position
  /-- Whether a newline there would end a statement. -/
  ended : Bool
  /-- What stands there. -/
  opened : List Char
  opened_eq : opened = [] ∨ ∃ contents, opened = '"' :: contents ∧ '"' ∉ contents
  /-- The tokens stay the same before more text. -/
  items_append : ∀ behind, Parted (opened ++ behind) →
    itemsOf (source ++ behind) = ahead tokens (Cursor.mk (opened ++ behind) place ended).items
  /-- The parser is open behind them. -/
  goesOn : Opened fun behind => parser (ahead tokens behind)

variable {parser : List Item → Outcome α} {source : List Char}

/-- Where an error says that more text is missing, there is a place at which it is. -/
theorem exists_missing (h : ∀ tokens, Decided fun behind => parser (ahead tokens behind))
    {error : ParseError} (hincomplete : error.isIncomplete = true)
    (hfails : FailsWith parser source error) : Nonempty (Missing parser source) := by
  obtain ⟨left, hfailed⟩ := hfails
  obtain ⟨parting⟩ := exists_parting .start false source
  obtain ⟨tokens, rest, hitems, hrest⟩ := exists_ahead parting.items
  have happend : ∀ behind, Parted (parting.opened ++ behind) → itemsOf (source ++ behind)
      = ahead tokens
        (rest ++ (Cursor.mk (parting.opened ++ behind) parting.place parting.ended).items) := by
    intro behind hparted
    rw [← ahead_append, ← hitems]
    exact parting.items_append behind hparted
  have hsource := happend [] (parting.parted parted_nil)
  rw [List.append_nil] at hsource
  rw [hsource] at hfailed
  rcases h tokens with hconcluded | hopened
  · -- A token that cannot be taken would be complained of.
    exfalso
    cases hconcluded with
    | done value left hdone => cases hfailed.symm.trans (hdone _)
    | failed wanted found hexpected =>
        obtain ⟨_, hsame⟩ := hexpected (rest ++ _)
        cases hfailed.symm.trans hsame
        cases hincomplete
  · rcases hrest with rfl | ⟨fault, faulty, rfl⟩
    · exact ⟨⟨tokens, parting.place, parting.ended, parting.opened, parting.opened_eq, happend,
        hopened⟩⟩
    · -- So would a lexical error, and it would not be that a quoted text is left open.
      exfalso
      obtain ⟨_, hlexical⟩ := hopened.faulty fault (faulty ++ _)
      cases hfailed.symm.trans hlexical
      have hmem : (.error fault : Item) ∈ parting.items := by
        rw [hitems]
        exact List.mem_append_right _ List.mem_cons_self
      have hfault : fault.fault = .unterminatedText := by
        simpa [ParseError.isIncomplete] using hincomplete
      exact parting.content_ne _ hmem (congrArg Except.error hfault)

/-- Where the text has ended it can be completed. An opening quote only leaves more to complete. -/
theorem Missing.completable_of_end (missing : Missing parser source)
    (hopened : missing.opened = []) :
    Completable parser source ∧ ¬ Refused parser (source ++ ['"']) := by
  have happend := missing.items_append
  rw [hopened] at happend
  constructor
  · obtain ⟨kinds, hplain, hcompletes⟩ := missing.goesOn.resumes.exists_completes
    obtain ⟨value, hdone⟩ := hcompletes _ []
      (reads_spelling hplain missing.place missing.ended) trivial
    refine ⟨spelling kinds, value, [], ?_⟩
    rw [happend (spelling kinds) (parted_spelling kinds)]
    exact hdone
  · rintro ⟨wanted, found, rest, hfailed⟩
    obtain ⟨span, hspan⟩ := (items_quote List.not_mem_nil missing.place missing.ended).1
    obtain ⟨_, hlexical⟩ := missing.goesOn.faulty ⟨.unterminatedText, span⟩ []
    rw [happend _ (parted_cons [] (by decide)), List.nil_append, hspan] at hfailed
    cases hfailed.symm.trans hlexical

/-- If a quoted text is taken, it is not refused. -/
theorem not_expected_of_done (h : ∀ tokens, Decided fun behind => parser (ahead tokens behind))
    {tokens : List Token} {token : Token} {behind : List Item} {value : α} {left : List Item}
    (hdone : parser (ahead tokens (.ok token :: behind)) = .done value left) (wanted : Expected)
    (found : Token) (rest : List Item) :
    parser (ahead tokens [.ok token]) ≠ .failed (.expected wanted found) rest := by
  intro hfailed
  rw [← ahead_concat] at hdone hfailed
  rcases h (tokens ++ [token]) with hconcluded | hopened
  · cases hconcluded with
    | done value left hsame => cases hfailed.symm.trans (hsame [])
    | failed wanted found hsame =>
        obtain ⟨_, hsame⟩ := hsame behind
        cases hdone.symm.trans hsame
  · rcases hopened.ends with ⟨_, hend⟩ | ⟨_, _, hend⟩
    · cases hfailed.symm.trans hend
    · cases hfailed.symm.trans hend

/-- Where a quoted text is left open it can be completed, unless no quoted text can be taken. -/
theorem Missing.completable_iff_of_quote
    (h : ∀ tokens, Decided fun behind => parser (ahead tokens behind))
    (missing : Missing parser source) {contents : List Char} (hquote : '"' ∉ contents)
    (hopened : missing.opened = '"' :: contents) :
    Completable parser source ↔ ¬ Refused parser (source ++ ['"']) := by
  have happend : ∀ behind, itemsOf (source ++ behind) = ahead missing.tokens
      (Cursor.mk ('"' :: (contents ++ behind)) missing.place missing.ended).items := by
    intro behind
    have hitems := missing.items_append behind
    rw [hopened] at hitems
    exact hitems (parted_cons _ (by decide))
  obtain ⟨token, place, hkind, hitems⟩ :=
    (items_quote hquote missing.place missing.ended).2 []
  have hclosed : itemsOf (source ++ ['"']) = ahead missing.tokens [.ok token] := by
    rw [happend, hitems, Cursor.items_of_scan_none rfl]
  rcases missing.goesOn.resumes.text_or_refuses with ⟨kinds, hplain, htaken⟩ | hrefuses
  · have hcompletable : ∃ value left, parser (itemsOf (source ++ '"' :: spelling kinds))
        = .done value left := by
      obtain ⟨token, place, hkind, hitems⟩ :=
        (items_quote hquote missing.place missing.ended).2 (spelling kinds)
      rw [happend, hitems]
      exact htaken token contents _ hkind (reads_spelling hplain place false)
    refine iff_of_true ⟨_, hcompletable⟩ ?_
    rintro ⟨wanted, found, rest, hfailed⟩
    rw [hclosed] at hfailed
    obtain ⟨value, left, hdone⟩ :=
      htaken token contents _ hkind (reads_spelling hplain place false)
    exact not_expected_of_done h hdone wanted found rest hfailed
  · -- Whatever closes the quoted text, it cannot be taken.
    refine iff_of_false ?_ ?_
    · rintro ⟨more, value, left, hdone⟩
      rw [happend] at hdone
      by_cases hmore : '"' ∈ more
      · obtain ⟨inside, rest, rfl, hinside⟩ := List.eq_append_cons_of_mem hmore
        have hwhole : '"' ∉ contents ++ inside := by simp [hquote, hinside]
        obtain ⟨token, place, hkind, hitems⟩ :=
          (items_quote hwhole missing.place missing.ended).2 rest
        rw [← List.append_assoc, hitems] at hdone
        obtain ⟨_, _, hfailed⟩ := hrefuses token _ (Cursor.mk rest place false).items hkind
        cases hdone.symm.trans hfailed
      · have hwhole : '"' ∉ contents ++ more := by simp [hquote, hmore]
        obtain ⟨span, hspan⟩ := (items_quote hwhole missing.place missing.ended).1
        rw [hspan] at hdone
        obtain ⟨_, hlexical⟩ := missing.goesOn.faulty ⟨.unterminatedText, span⟩ []
        cases hdone.symm.trans hlexical
    · intro hnot
      obtain ⟨wanted, rest, hfailed⟩ := hrefuses token contents [] hkind
      exact hnot ⟨wanted, token, rest, by rw [hclosed]; exact hfailed⟩

/-- A parser that is decided behind all tokens tells which texts can be completed. -/
theorem completableIff (h : ∀ tokens, Decided fun behind => parser (ahead tokens behind))
    (source : List Char) : CompletableIff parser source := by
  intro error hincomplete hfails
  obtain ⟨missing⟩ := exists_missing h hincomplete hfails
  rcases missing.opened_eq with hopened | ⟨contents, hopened, hquote⟩
  · obtain ⟨hcompletable, hrefused⟩ := missing.completable_of_end hopened
    exact ⟨fun _ => hcompletable, iff_of_true hcompletable hrefused⟩
  · refine ⟨?_, missing.completable_iff_of_quote h hquote hopened⟩
    -- The error is about the quoted text.
    rintro ⟨wanted, rfl⟩
    obtain ⟨rest, hfailed⟩ := hfails
    obtain ⟨span, hspan⟩ := (items_quote hquote missing.place missing.ended).1
    have hitems := missing.items_append [] (hopened ▸ parted_cons _ (by decide))
    rw [List.append_nil, List.append_nil, hopened, hspan] at hitems
    rw [hitems] at hfailed
    obtain ⟨_, hlexical⟩ := missing.goesOn.faulty ⟨.unterminatedText, span⟩ []
    cases hfailed.symm.trans hlexical

/-- Which texts can be completed, for the parsers of expressions, statements, blocks and
definitions. -/
theorem incomplete_completable_iff (source : List Char) :
    CompletableIff expression source ∧ CompletableIff statement source
      ∧ CompletableIff block source ∧ CompletableIff definition source :=
  ⟨completableIff decided_expression source, completableIff decided_statement source,
    completableIff decided_block source, completableIff decided_definition source⟩

/-- A definition without its body can be completed. -/
theorem incomplete_completable_iff_definition :
    let source : List Char := ['d', 'e', 'f', 'u', 'n', ' ', 'f', '(', ')', ' ', '=']
    let error : ParseError := .unexpectedEnd (.token (.keyword .endWord))
    error.isIncomplete = true ∧ FailsWith definition source error
      ∧ Completable definition source ∧ ¬ Refused definition (source ++ ['"']) := by
  intro source error
  have hfails : FailsWith definition source error := ⟨[], by cbv⟩
  obtain ⟨hended, hiff⟩ := (incomplete_completable_iff source).2.2.2 error rfl hfails
  have hcompletable := hended ⟨_, rfl⟩
  exact ⟨rfl, hfails, hcompletable, hiff.mp hcompletable⟩

/-- Not all of them can: where the name of a definition is wanted, no quoted text can be taken. -/
theorem incomplete_not_completable :
    ¬ ∀ source error, error.isIncomplete = true →
      (FailsWith expression source error → Completable expression source)
        ∧ (FailsWith statement source error → Completable statement source)
        ∧ (FailsWith block source error → Completable block source)
        ∧ (FailsWith definition source error → Completable definition source) := by
  intro hall
  have hfails : FailsWith definition ['d', 'e', 'f', 'u', 'n', ' ', '"']
      (.lexical ⟨.unterminatedText, ⟨1, 7⟩, ⟨1, 8⟩⟩) := ⟨[], by cbv⟩
  have hrefused : Refused definition ['d', 'e', 'f', 'u', 'n', ' ', '"', '"'] :=
    ⟨.identifier, ⟨.text [], ⟨1, 7⟩, ⟨1, 9⟩⟩, [], by cbv⟩
  have hcompletable := (hall _ _ rfl).2.2.2 hfails
  exact (completableIff decided_definition _ _ rfl hfails).2.mp hcompletable hrefused

end StackLang.Grammar
