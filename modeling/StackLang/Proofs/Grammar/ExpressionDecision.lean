import Mathlib
import StackLang.Proofs.Grammar.Prospect
import StackLang.Proofs.Token.Lexemes

/-! # Every expression is decided

The parsers of expressions have concluded behind some tokens, or are open there. They are open only
where they have used up the tokens, and there a few kinds complete them: a quoted text where an
expression is wanted, and a closing parenthesis.

* `plain_delimiter`, `plain_keyword` and so on — tokens that are read from what they are shown as.
* `decided_consume`, `decided_identifier` — single tokens.
* `decided_separated` — what follows an argument or a parameter.
* `decided_binding`, `decided_argumentList` and so on — expressions and their parts. -/

namespace StackLang.Grammar

open Parse

variable {α : Type}

/-! ## Tokens that complete -/

theorem plain_of_isLexeme {kind : TokenKind} (h : IsLexeme kind.shown [] (.ok kind))
    (hnewline : kind.shown ≠ ['\n']) : Plain kind := by
  intro ends
  rcases h.ofText_eq with ⟨hsame, -⟩ | ⟨first, tail, hshown, hblank, htext⟩
  · exact absurd hsame hnewline
  · rw [List.append_nil] at htext
    rw [hshown, contentsOf_lexeme tail hblank, htext, contentsOf_nil]

theorem plain_delimiter (separator : Delimiter) : Plain (.delimiter separator) :=
  plain_of_isLexeme (.delimiter separator []) (by cases separator <;> decide)

theorem plain_keyword (reserved : Keyword) : Plain (.keyword reserved) := by
  refine plain_of_isLexeme (.keyword reserved nofun) fun hnewline => ?_
  have hword : reserved.word.toList = ['\n'] := hnewline
  have hletter := (letters_word reserved).2 '\n' (hword ▸ List.mem_singleton_self '\n')
  exact absurd hletter.1 (by decide)

/-- The shortest quoted text. -/
theorem plain_text : Plain (.text []) :=
  plain_of_isLexeme (@IsLexeme.text [] nofun []) (by decide)

/-- Some name. -/
theorem plain_identifier : Plain (.identifier "x") := by
  refine plain_of_isLexeme (@IsLexeme.identifier 'x' [] [] ?_ (by decide) ?_ nofun) ?_
  · exact List.forall_mem_singleton.mpr (by decide)
  · intro reserved
    cases reserved <;> simp [Keyword.word]
  · decide

/-! ## Single tokens -/

/-- A token that is no quoted text is wanted. -/
theorem opened_consume {kind : TokenKind} (hplain : Plain kind)
    (htext : ∀ contents, kind ≠ .text contents) : Opened (consume kind) where
  ends := .inr ⟨_, [], rfl⟩
  faulty error behind := ⟨behind, rfl⟩
  resumes := by
    refine .refuses [kind] (List.forall_mem_singleton.mpr hplain) ?_ ?_
    · intro items rest hreads _
      exact ⟨(), consume_done_iff.mpr hreads⟩
    · intro token contents behind hkind
      refine ⟨.token kind, behind, ?_⟩
      rw [consume, advance, Outcome.andThen_done,
        if_neg fun hsame => htext contents (hsame.symm.trans hkind)]

theorem decided_consume {kind : TokenKind} (hplain : Plain kind)
    (htext : ∀ contents, kind ≠ .text contents) (tokens : List Token) :
    Decided fun behind => consume kind (ahead tokens behind) := by
  match tokens with
  | [] => exact .inr (opened_consume hplain htext)
  | token :: left =>
      by_cases hkind : token.kind = kind
      · refine .inl (.done () left fun behind => ?_)
        rw [ahead_cons, consume, advance, Outcome.andThen_done, if_pos hkind]
      · refine .inl (.failed (.token kind) token fun behind => ⟨ahead left behind, ?_⟩)
        rw [ahead_cons, consume, advance, Outcome.andThen_done, if_neg hkind]

/-- A delimiter closes what came before. -/
theorem closes_consume (separator : Delimiter)
    (hweak : (TokenKind.delimiter separator).precedence = 0) :
    Closes (fun (_ : α) => consume (.delimiter separator)) [.delimiter separator] :=
  Opened.closes (fun _ => opened_consume (plain_delimiter separator) (by simp))
    (fun _ _ _ hreads _ => ⟨(), consume_done_iff.mpr hreads⟩) (plain_delimiter separator) hweak

theorem opened_identifier : Opened identifier where
  ends := .inr ⟨_, [], rfl⟩
  faulty error behind := ⟨behind, rfl⟩
  resumes := by
    refine .refuses [.identifier "x"] (List.forall_mem_singleton.mpr plain_identifier) ?_ ?_
    · intro items rest hreads _
      exact ⟨"x", identifier_done_iff.mpr hreads⟩
    · intro token contents behind hkind
      refine ⟨.identifier, behind, ?_⟩
      rw [identifier, advance, Outcome.andThen_done, hkind]

theorem concluded_identifier (token : Token) (left : List Token) :
    Concluded fun behind => identifier (ahead (token :: left) behind) := by
  by_cases hname : ∃ name, token.kind = .identifier name
  · obtain ⟨name, hkind⟩ := hname
    refine .done name left fun behind => ?_
    rw [ahead_cons, identifier, advance, Outcome.andThen_done, hkind]
  · refine .failed .identifier token fun behind => ⟨ahead left behind, ?_⟩
    rw [ahead_cons, identifier, advance, Outcome.andThen_done]
    split
    · next name hkind => exact absurd ⟨name, hkind⟩ hname
    · rfl

theorem decided_identifier (tokens : List Token) :
    Decided fun behind => identifier (ahead tokens behind) := by
  match tokens with
  | [] => exact .inr opened_identifier
  | token :: left => exact .inl (concluded_identifier token left)

/-! ## Separated lists -/

/-- What follows an argument or a parameter: a comma and others, or the closing parenthesis. -/
def separated (others : List Item → Outcome (List α)) (first : α) (items : List Item) :
    Outcome (List α) :=
  (advance .argumentSeparator items).andThen fun token rest =>
    match token.kind with
    | .delimiter .comma => (others rest).map fun more => first :: more
    | .delimiter .closeParen => .done [first] rest
    | _ => .failed (.expected .argumentSeparator token) rest

variable (others : List Item → Outcome (List α)) (first : α)

/-- The closing parenthesis is enough. -/
theorem completes_separated : Completes (separated others first) [.delimiter .closeParen] := by
  intro items rest hreads _
  obtain ⟨token, _, rfl, hkind, rfl⟩ := hreads
  exact ⟨[first], by rw [separated, advance, Outcome.andThen_done, hkind]⟩

theorem opened_separated : Opened (separated others first) where
  ends := .inr ⟨.argumentSeparator, [], rfl⟩
  faulty error behind := ⟨behind, rfl⟩
  resumes := by
    refine .refuses [.delimiter .closeParen]
      (List.forall_mem_singleton.mpr (plain_delimiter .closeParen))
      (completes_separated others first) fun token contents behind hkind => ?_
    exact ⟨.argumentSeparator, behind, by rw [separated, advance, Outcome.andThen_done, hkind]⟩

theorem closes_separated : Closes (separated others) [.delimiter .closeParen] :=
  Opened.closes (opened_separated others) (completes_separated others)
    (plain_delimiter .closeParen) rfl

/-- What follows is decided by its first token, or by the others behind a comma. -/
theorem decided_separated {others : List Item → Outcome (List α)} (tokens : List Token)
    (h : ∀ left : List Token, left.length < tokens.length →
      Decided fun behind => others (ahead left behind)) :
    Decided fun behind => separated others first (ahead tokens behind) := by
  match tokens with
  | [] => exact .inr (opened_separated others first)
  | token :: left =>
      by_cases hcomma : token.kind = .delimiter .comma
      · refine .congr (fun behind => ?_)
          ((h left (Nat.lt_succ_self _)).map fun more => first :: more)
        rw [separated, ahead_cons, advance, Outcome.andThen_done, hcomma]
      · by_cases hclose : token.kind = .delimiter .closeParen
        · refine .inl (.done [first] left fun behind => ?_)
          rw [separated, ahead_cons, advance, Outcome.andThen_done, hclose]
        · refine .inl (.failed .argumentSeparator token fun behind => ⟨ahead left behind, ?_⟩)
          rw [separated, ahead_cons, advance, Outcome.andThen_done]
          split
          · next hkind => exact absurd hkind hcomma
          · next hkind => exact absurd hkind hclose
          · rfl

/-! ## Expressions -/

/-- A quoted text is an expression before whatever cannot go on with it. -/
theorem binding_text {minimum : Nat} {token : Token} {contents : List Char} {items : List Item}
    (hkind : token.kind = .text contents) (hstops : Stops 0 items) :
    binding minimum (.ok token :: items) = .done (.text contents) items := by
  have hoperand : operand token items = .done (.text contents) items := by rw [operand_eq, hkind]
  rw [binding_operand hoperand, continuing_stops (hstops.mono (Nat.zero_le minimum))]

theorem opened_binding (minimum : Nat) : Opened (binding minimum) where
  ends := .inr ⟨.expression, [], by rw [binding_eq]; rfl⟩
  faulty error behind := ⟨behind, by rw [binding_eq]; rfl⟩
  resumes := by
    refine .welcomes [] nofun fun contents items rest hreads hstops => ?_
    obtain ⟨token, _, rfl, hkind, rfl⟩ := hreads
    exact ⟨_, binding_text hkind hstops⟩

theorem closes_continuing (minimum : Nat) : Closes (continuing minimum) [] where
  plain := nofun
  weak := nofun
  completes left items rest hreads hstops := by
    rw [reads_nil.mp hreads]
    exact ⟨left, continuing_stops (hstops.mono (Nat.zero_le minimum))⟩
  ends left := .inl ⟨left, continuing_stops trivial⟩
  resumes left := .passes left fun items hstops =>
    continuing_stops (hstops.mono (Nat.zero_le minimum))

theorem opened_continuing (minimum : Nat) (left : Expression) :
    Opened (continuing minimum left) where
  ends := (closes_continuing minimum).ends left
  faulty error behind := ⟨.error error :: behind, by rw [continuing_eq]⟩
  resumes := (closes_continuing minimum).resumes left

theorem opened_arguments : Opened arguments where
  ends := .inr ⟨.expression, [], by rw [arguments_eq, argumentList_eq, binding_eq]; rfl⟩
  faulty error behind := ⟨.error error :: behind, by rw [arguments_eq]⟩
  resumes := by
    have hcloses := closes_separated argumentList
    refine .welcomes [.delimiter .closeParen] hcloses.plain ?_
    intro contents items rest hreads hstops
    obtain ⟨token, behind, rfl, hkind, hclose⟩ := hreads
    obtain ⟨values, hdone⟩ := hcloses.completes (.text contents) behind rest hclose hstops
    have hweak : Stops 0 behind := stops_of_reads hcloses.weak hclose hstops
    refine ⟨values, arguments_of_argumentList ?_⟩
    rw [argumentList_eq, binding_text hkind hweak, Outcome.andThen_done]
    exact hdone

mutual

/-- An expression is decided by its operand and by what follows it. -/
theorem decided_binding (minimum : Nat) (tokens : List Token) :
    Decided fun behind => binding minimum (ahead tokens behind) := by
  match tokens with
  | [] => exact .inr (opened_binding minimum)
  | token :: tokens =>
      refine .congr (fun behind => ?_)
        ((decided_operand token tokens).andThen (closes_continuing minimum) ?_)
      · rw [binding_eq, ahead_cons, advance, Outcome.andThen_done]
      · intro left more hdone
        have hshorter : more.length < tokens.length + 1 := length_ahead_nil tokens ▸
          length_lt_of_within (operandStep token (ahead tokens [])).property hdone
        exact decided_continuing minimum left more
termination_by 4 * tokens.length
decreasing_by all_goals simp only [List.length_cons] at *; omega

/-- An operand is decided by its first token, or by what stands in parentheses. -/
theorem decided_operand (token : Token) (tokens : List Token) :
    Decided fun behind => operand token (ahead tokens behind) := by
  cases hkind : token.kind with
  | number value => exact .inl (.done _ tokens fun behind => by rw [operand_eq, hkind])
  | text contents => exact .inl (.done _ tokens fun behind => by rw [operand_eq, hkind])
  | identifier name => exact .inl (.done _ tokens fun behind => by rw [operand_eq, hkind])
  | keyword _ | operator _ =>
      exact .inl (.failed .expression token fun behind => ⟨_, by rw [operand_eq, hkind]⟩)
  | delimiter separator =>
      by_cases hopen : separator = .openParen
      · refine .congr (fun behind => ?_) ((decided_binding 0 tokens).andThen
          ((closes_consume .closeParen rfl).map fun inner _ => inner) fun inner left _ =>
            (decided_consume (plain_delimiter .closeParen) (by simp) left).map fun _ => inner)
        rw [operand_eq, hkind, hopen]
      · refine .inl (.failed .expression token fun behind => ⟨ahead tokens behind, ?_⟩)
        rw [operand_eq, hkind]
        cases separator <;> first | rfl | exact absurd rfl hopen
termination_by 4 * tokens.length + 1
decreasing_by all_goals omega

/-- What follows an operand is decided sign by sign. -/
theorem decided_continuing (minimum : Nat) (left : Expression) (tokens : List Token) :
    Decided fun behind => continuing minimum left (ahead tokens behind) := by
  match tokens with
  | [] => exact .inr (opened_continuing minimum left)
  | token :: tokens =>
      by_cases hweak : token.kind.precedence ≤ minimum
      · exact .inl (.done left (token :: tokens) fun behind => continuing_stops hweak)
      · refine .congr (fun behind => continuing_cons (Nat.lt_of_not_le hweak))
          ((decided_extend left token tokens).andThen (closes_continuing minimum) ?_)
        intro longer more hdone
        have hshorter : more.length < tokens.length := length_ahead_nil tokens ▸
          length_lt_of_within (extendStep left token (ahead tokens [])).property hdone
        exact decided_continuing minimum longer more
termination_by 4 * tokens.length
decreasing_by all_goals simp only [List.length_cons] at *; omega

/-- A sign is decided by what belongs to it. -/
theorem decided_extend (left : Expression) (token : Token) (tokens : List Token) :
    Decided fun behind => extend left token (ahead tokens behind) := by
  cases hkind : token.kind with
  | operator infixSign =>
      refine .congr (fun behind => ?_) ((decided_binding token.kind.precedence tokens).map
        fun right => Expression.binary left infixSign right)
      rw [extend_eq, hkind]
  | number _ | text _ | identifier _ | keyword _ =>
      exact .inl (.failed .expression token fun behind => ⟨_, by rw [extend_eq, hkind]⟩)
  | delimiter separator =>
      by_cases hopen : separator = .openParen
      · refine .congr (fun behind => ?_)
          ((decided_arguments tokens).map fun values => Expression.call left values)
        rw [extend_eq, hkind, hopen]
      · refine .inl (.failed .expression token fun behind => ⟨ahead tokens behind, ?_⟩)
        rw [extend_eq, hkind]
        cases separator <;> first | rfl | exact absurd rfl hopen
termination_by 4 * tokens.length + 3
decreasing_by all_goals omega

/-- Arguments are decided by the closing parenthesis, or one by one. -/
theorem decided_arguments (tokens : List Token) :
    Decided fun behind => arguments (ahead tokens behind) := by
  match tokens with
  | [] => exact .inr opened_arguments
  | token :: tokens =>
      by_cases hclose : token.kind = .delimiter .closeParen
      · refine .inl (.done [] tokens fun behind => ?_)
        rw [arguments_eq, ahead_cons]
        exact if_pos hclose
      · refine .congr (fun behind => ?_) (decided_argumentList (token :: tokens))
        rw [arguments_eq, ahead_cons]
        exact if_neg hclose
termination_by 4 * tokens.length + 2
decreasing_by all_goals simp only [List.length_cons]; omega

/-- One argument or more are decided by the first and by what follows it. -/
theorem decided_argumentList (tokens : List Token) :
    Decided fun behind => argumentList (ahead tokens behind) := by
  refine .congr (fun behind => argumentList_eq _)
    ((decided_binding 0 tokens).andThen (closes_separated argumentList) ?_)
  intro argument more hdone
  have hshorter : more.length < tokens.length :=
    length_ahead_nil tokens ▸ length_lt_of_within (binding_within 0 (ahead tokens [])) hdone
  exact decided_separated argument more fun left hleft => decided_argumentList left
termination_by 4 * tokens.length + 1
decreasing_by all_goals omega

end

theorem decided_expression (tokens : List Token) :
    Decided fun behind => expression (ahead tokens behind) :=
  decided_binding 0 tokens

end StackLang.Grammar
