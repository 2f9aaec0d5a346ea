import Mathlib
import StackLang.Proofs.Grammar.Contents
import StackLang.Proofs.Grammar.Statement

/-! # What comes of some tokens

A parser that is given some tokens goes on with the items behind them. Either these no longer
matter, and the parser is done or has met a token that it cannot take. Or it has used up the tokens.
Then the end of the text ends it or is what it complains of, a lexical error is what it complains
of, and some further tokens complete it.

* `ahead` — some tokens before other items.
* `Concluded` — what comes behind no longer matters.
* `RunsOut` — the end of the text and lexical errors are noticed.
* `Resumes` — how a quoted text is taken, and which tokens complete what was begun.
* `Opened` — both of these, of what was begun and is not concluded.
* `Decided` — concluded or opened: what every parser of the language is.
* `Closes`, `Decided.andThen` — parsers one after the other. -/

namespace StackLang.Grammar

open Parse

variable {α β γ : Type}

/-! ## Tokens before other items -/

/-- Some tokens before other items. -/
def ahead (tokens : List Token) (behind : List Item) : List Item :=
  tokens.map .ok ++ behind

@[simp] theorem ahead_nil (behind : List Item) : ahead [] behind = behind := rfl

@[simp] theorem ahead_cons (token : Token) (tokens : List Token) (behind : List Item) :
    ahead (token :: tokens) behind = .ok token :: ahead tokens behind := rfl

theorem ahead_concat (tokens : List Token) (token : Token) (behind : List Item) :
    ahead (tokens ++ [token]) behind = ahead tokens (.ok token :: behind) := by
  rw [ahead, List.map_append, List.append_assoc]
  rfl

theorem ahead_append (tokens : List Token) (items others : List Item) :
    ahead tokens items ++ others = ahead tokens (items ++ others) :=
  List.append_assoc _ _ _

/-- Items are tokens up to their end, or up to the first lexical error. -/
theorem exists_ahead (items : List Item) :
    ∃ tokens rest, items = ahead tokens rest
      ∧ (rest = [] ∨ ∃ error others, rest = .error error :: others) := by
  induction items with
  | nil => exact ⟨[], [], rfl, .inl rfl⟩
  | cons item items ih =>
      match item with
      | .error error => exact ⟨[], _, rfl, .inr ⟨error, items, rfl⟩⟩
      | .ok token =>
          obtain ⟨tokens, rest, rfl, hrest⟩ := ih
          exact ⟨token :: tokens, rest, rfl, hrest⟩

@[simp] theorem length_ahead_nil (tokens : List Token) :
    (ahead tokens []).length = tokens.length := by
  rw [ahead, List.append_nil, List.length_map]

/-! ## How parsers go on -/

/-- What comes behind the tokens no longer matters. -/
inductive Concluded (goOn : List Item → Outcome α) : Prop
  /-- There is a value, and some of the tokens are left. -/
  | done (value : α) (left : List Token)
      (h : ∀ behind, goOn behind = .done value (ahead left behind))
  /-- One of the tokens cannot be taken. -/
  | failed (wanted : Expected) (found : Token)
      (h : ∀ behind, ∃ rest, goOn behind = .failed (.expected wanted found) rest)

/-- At the end of the text there is a value, or more is wanted. -/
def Ends (goOn : List Item → Outcome α) : Prop :=
  (∃ value, goOn [] = .done value [])
    ∨ ∃ wanted rest, goOn [] = .failed (.unexpectedEnd wanted) rest

/-- The tokens are used up, so the end of the text and lexical errors are noticed. -/
structure RunsOut (goOn : List Item → Outcome α) : Prop where
  /-- At the end of the text there is a value, or more is wanted. -/
  ends : Ends goOn
  /-- A lexical error is met. -/
  faulty : ∀ error behind, ∃ rest, goOn (.error error :: behind) = .failed (.lexical error) rest

/-- What was begun is completed by the kinds, before whatever cannot go on with an expression. -/
def Completes (goOn : List Item → Outcome α) (kinds : List TokenKind) : Prop :=
  ∀ items rest : List Item, Reads kinds items rest → Stops 0 rest →
    ∃ value, goOn items = .done value rest

/-- A quoted text cannot be taken. -/
def Refuses (goOn : List Item → Outcome α) : Prop :=
  ∀ (token : Token) (contents : List Char) (behind : List Item), token.kind = .text contents →
    ∃ wanted rest, goOn (.ok token :: behind) = .failed (.expected wanted token) rest

/-- A token of the kind is read from what it is shown as. -/
def Plain (kind : TokenKind) : Prop :=
  ∀ ends, contentsOf ends kind.shown = [.ok kind]

/-- How a quoted text is taken, and which tokens complete what was begun. -/
inductive Resumes (goOn : List Item → Outcome α) : Prop
  /-- Nothing more is wanted, and a quoted text is left alone. -/
  | passes (value : α) (h : ∀ items, Stops 0 items → goOn items = .done value items)
  /-- A quoted text is taken, and completed by the kinds. -/
  | welcomes (kinds : List TokenKind) (hplain : ∀ kind ∈ kinds, Plain kind)
      (h : ∀ contents, Completes goOn (.text contents :: kinds))
  /-- A quoted text cannot be taken, but there are kinds that complete what was begun. -/
  | refuses (kinds : List TokenKind) (hplain : ∀ kind ∈ kinds, Plain kind)
      (h : Completes goOn kinds) (hrefuses : Refuses goOn)

/-- What was begun is open: it has used up the tokens, and it can be completed. -/
structure Opened (goOn : List Item → Outcome α) : Prop extends RunsOut goOn where
  /-- How it may go on. -/
  resumes : Resumes goOn

/-- Either what comes behind the tokens no longer matters, or what was begun is open. -/
def Decided (goOn : List Item → Outcome α) : Prop :=
  Concluded goOn ∨ Opened goOn

/-! ## Kinds in a row -/

/-- A text that starts with a weak token stops every expression before it. -/
theorem stops_of_reads {kinds : List TokenKind} {items rest : List Item}
    (hweak : ∀ kind ∈ kinds.head?, kind.precedence = 0) (hreads : Reads kinds items rest)
    (hstops : Stops 0 rest) : Stops 0 items := by
  match kinds with
  | [] => exact reads_nil.mp hreads ▸ hstops
  | kind :: _ =>
      obtain ⟨token, behind, rfl, rfl, -⟩ := hreads
      exact stops_zero_of_kind (hweak token.kind rfl)

/-- A quoted text stops every expression before it. -/
theorem stops_text {token : Token} {contents : List Char} (behind : List Item)
    (h : token.kind = .text contents) : Stops 0 (.ok token :: behind) :=
  stops_zero_of_kind (by rw [h]; rfl)

/-- Whatever value came before, the kinds close what is begun behind it. -/
structure Closes (next : α → List Item → Outcome β) (kinds : List TokenKind) : Prop where
  /-- They are read from what they are shown as. -/
  plain : ∀ kind ∈ kinds, Plain kind
  /-- No expression goes on with the first of them. -/
  weak : ∀ kind ∈ kinds.head?, kind.precedence = 0
  /-- They complete what is begun. -/
  completes : ∀ value, Completes (next value) kinds
  /-- The end of the text is noticed before them. -/
  ends : ∀ value, Ends (next value)
  /-- A quoted text is taken or not before them. -/
  resumes : ∀ value, Resumes (next value)

/-- What completes the first part and the second one completes both. -/
theorem Completes.andThen {first : List Item → Outcome α} {next : α → List Item → Outcome β}
    {before kinds : List TokenKind} (h : Completes first before) (hnext : Closes next kinds) :
    Completes (fun items => (first items).andThen next) (before ++ kinds) := by
  intro items rest hreads hstops
  obtain ⟨middle, hbefore, hkinds⟩ := reads_append.mp hreads
  obtain ⟨value, hfirst⟩ := h items middle hbefore (stops_of_reads hnext.weak hkinds hstops)
  obtain ⟨result, hsecond⟩ := hnext.completes value middle rest hkinds hstops
  exact ⟨result, by simp only [hfirst, Outcome.andThen_done, hsecond]⟩

theorem plain_append {before kinds : List TokenKind} (hbefore : ∀ kind ∈ before, Plain kind)
    (hkinds : ∀ kind ∈ kinds, Plain kind) : ∀ kind ∈ before ++ kinds, Plain kind := by
  intro kind hmem
  rcases List.mem_append.mp hmem with hmem | hmem
  · exact hbefore kind hmem
  · exact hkinds kind hmem

/-! ## Parsers one after the other -/

section

variable {first : List Item → Outcome α} {next : α → List Item → Outcome β}
  {kinds : List TokenKind}

theorem Ends.andThen (h : Ends first) (hnext : ∀ value, Ends (next value)) :
    Ends fun behind => (first behind).andThen next := by
  rcases h with ⟨value, hdone⟩ | ⟨wanted, rest, hfailed⟩
  · simp only [Ends, hdone, Outcome.andThen_done]
    exact hnext value
  · exact .inr ⟨wanted, rest, by simp only [hfailed, Outcome.andThen_failed]⟩

/-- The end of the text and lexical errors are noticed by the first part or by the second one. -/
theorem RunsOut.andThen (h : RunsOut first) (hnext : ∀ value, Ends (next value)) :
    RunsOut fun behind => (first behind).andThen next where
  ends := h.ends.andThen hnext
  faulty error behind := by
    obtain ⟨rest, hfailed⟩ := h.faulty error behind
    exact ⟨rest, by simp only [hfailed, Outcome.andThen_failed]⟩

/-- If the first part passes a quoted text, the second part settles how it is taken. -/
theorem Resumes.andThen (h : Resumes first) (hnext : Closes next kinds) :
    Resumes fun behind => (first behind).andThen next := by
  cases h with
  | passes value hpasses =>
      cases hnext.resumes value with
      | passes result h =>
          refine .passes result fun items hstops => ?_
          simp only [hpasses items hstops, Outcome.andThen_done, h items hstops]
      | welcomes more hplain h =>
          refine .welcomes more hplain fun contents items rest hreads hstops => ?_
          obtain ⟨result, hdone⟩ := h contents items rest hreads hstops
          obtain ⟨token, behind, rfl, hkind, -⟩ := hreads
          exact ⟨result, by
            simp only [hpasses _ (stops_text behind hkind), Outcome.andThen_done, hdone]⟩
      | refuses _ _ _ hrefuses =>
          refine .refuses kinds hnext.plain (fun items rest hreads hstops => ?_) ?_
          · obtain ⟨result, hdone⟩ := hnext.completes value items rest hreads hstops
            have hweak := stops_of_reads hnext.weak hreads hstops
            exact ⟨result, by simp only [hpasses items hweak, Outcome.andThen_done, hdone]⟩
          · intro token contents behind hkind
            obtain ⟨wanted, rest, hfailed⟩ := hrefuses token contents behind hkind
            exact ⟨wanted, rest, by
              simp only [hpasses _ (stops_text behind hkind), Outcome.andThen_done, hfailed]⟩
  | welcomes more hplain h =>
      refine .welcomes (more ++ kinds) (plain_append hplain hnext.plain) fun contents => ?_
      exact (h contents).andThen hnext
  | refuses more hplain h hrefuses =>
      refine .refuses (more ++ kinds) (plain_append hplain hnext.plain) (h.andThen hnext) ?_
      intro token contents behind hkind
      obtain ⟨wanted, rest, hfailed⟩ := hrefuses token contents behind hkind
      exact ⟨wanted, rest, by simp only [hfailed, Outcome.andThen_failed]⟩

theorem Opened.andThen (h : Opened first) (hnext : Closes next kinds) :
    Opened fun behind => (first behind).andThen next where
  toRunsOut := h.toRunsOut.andThen hnext.ends
  resumes := h.resumes.andThen hnext

/-- If the first part is done, the second one goes on with the tokens that are left. -/
theorem Concluded.andThen {Goes : (List Item → Outcome β) → Prop} (h : Concluded first)
    (hconcluded : ∀ {goOn : List Item → Outcome β}, Concluded goOn → Goes goOn)
    (hdone : ∀ value left, (∀ behind, first behind = .done value (ahead left behind)) →
      Goes fun behind => next value (ahead left behind)) :
    Goes fun behind => (first behind).andThen next := by
  cases h with
  | done value left h =>
      have hnext : (fun behind => (first behind).andThen next)
          = fun behind => next value (ahead left behind) := by
        funext behind
        rw [h behind, Outcome.andThen_done]
      rw [hnext]
      exact hdone value left h
  | failed wanted found h =>
      refine hconcluded (.failed wanted found fun behind => ?_)
      obtain ⟨rest, hfailed⟩ := h behind
      exact ⟨rest, by simp only [hfailed, Outcome.andThen_failed]⟩

/-- Two parsers one after the other are decided by the first or by the second. -/
theorem Decided.andThen (h : Decided first) (hnext : Closes next kinds)
    (hdone : ∀ value left, (∀ behind, first behind = .done value (ahead left behind)) →
      Decided fun behind => next value (ahead left behind)) :
    Decided fun behind => (first behind).andThen next := by
  rcases h with hconcluded | hopened
  · exact hconcluded.andThen .inl hdone
  · exact .inr (hopened.andThen hnext)

end

/-- A parser that does the same is decided in the same way. -/
theorem Decided.congr {goOn other : List Item → Outcome α}
    (hsame : ∀ behind, goOn behind = other behind) (h : Decided other) : Decided goOn :=
  (funext hsame : goOn = other) ▸ h

/-! ## Closing parsers -/

/-- What is open and completed by one kind, whatever value came before, is closed by it. -/
theorem Opened.closes {next : α → List Item → Outcome β} {kind : TokenKind}
    (h : ∀ value, Opened (next value)) (hcompletes : ∀ value, Completes (next value) [kind])
    (hplain : Plain kind) (hweak : kind.precedence = 0) : Closes next [kind] where
  plain := List.forall_mem_singleton.mpr hplain
  weak := by
    rintro _ ⟨⟩
    exact hweak
  completes := hcompletes
  ends value := (h value).ends
  resumes value := (h value).resumes

/-- Nothing is wanted behind a value that is changed. -/
theorem closes_change (change : α → β) :
    Closes (fun value rest => .done (change value) rest) [] where
  plain := nofun
  weak := nofun
  completes value items rest hreads _ := ⟨change value, by rw [reads_nil.mp hreads]⟩
  ends value := .inl ⟨change value, rfl⟩
  resumes value := .passes (change value) fun _ _ => rfl

theorem Completes.map {goOn : List Item → Outcome α} {kinds : List TokenKind} (change : α → β)
    (h : Completes goOn kinds) : Completes (fun items => (goOn items).map change) kinds := by
  have hboth := h.andThen (closes_change change)
  rwa [List.append_nil] at hboth

theorem Opened.map {goOn : List Item → Outcome α} (change : α → β) (h : Opened goOn) :
    Opened fun items => (goOn items).map change :=
  h.andThen (closes_change change)

theorem Decided.map {goOn : List Item → Outcome α} (change : α → β) (h : Decided goOn) :
    Decided fun items => (goOn items).map change :=
  h.andThen (closes_change change) fun value left _ =>
    .inl (.done (change value) left fun _ => rfl)

theorem Closes.map {next : α → List Item → Outcome β} {kinds : List TokenKind}
    (change : α → β → γ) (h : Closes next kinds) :
    Closes (fun value items => (next value items).map (change value)) kinds where
  plain := h.plain
  weak := h.weak
  completes value := (h.completes value).map (change value)
  ends value := (h.ends value).andThen (closes_change (change value)).ends
  resumes value := (h.resumes value).andThen (closes_change (change value))

/-- A parser before another one is closed by what closes it and then by what closes the other. -/
theorem Closes.andThen {first : α → List Item → Outcome β} {next : α → β → List Item → Outcome γ}
    {kind : TokenKind} {kinds : List TokenKind} (h : Closes first [kind])
    (hnext : ∀ value, Closes (next value) kinds) (hplain : ∀ kind ∈ kinds, Plain kind) :
    Closes (fun value items => (first value items).andThen (next value)) (kind :: kinds) where
  plain := plain_append h.plain hplain
  weak := h.weak
  completes value := (h.completes value).andThen (hnext value)
  ends value := (h.ends value).andThen (hnext value).ends
  resumes value := (h.resumes value).andThen (hnext value)

/-- A parser that leaves fewer tokens than a bound does so whatever comes behind them. -/
theorem length_lt_of_within {goOn : List Item → Outcome α} {value : α} {left : List Token}
    {bound : Nat} (hwithin : (goOn []).Within bound)
    (h : ∀ behind, goOn behind = .done value (ahead left behind)) : left.length < bound := by
  rw [h [], Outcome.Within, length_ahead_nil] at hwithin
  exact hwithin

end StackLang.Grammar
