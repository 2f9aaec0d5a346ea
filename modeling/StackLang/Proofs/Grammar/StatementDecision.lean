import Mathlib
import StackLang.Proofs.Grammar.ExpressionDecision
import StackLang.Proofs.Grammar.Module

/-! # Every statement and every definition is decided

The parsers of statements and of definitions are put together from those of expressions and of
single tokens, one after the other. What they have begun is completed by the tokens that complete
their parts.

* `decided_letStatement`, `decided_returnStatement` — statements without a body.
* `decided_statement`, `decided_statements`, `decided_block` — statements and bodies.
* `decided_parameters`, `decided_definition` — definitions. -/

namespace StackLang.Grammar

open Parse

variable {α : Type}

/-! ## Statements without a body -/

/-- A quoted text closes what wants an expression. -/
theorem closes_expression : Closes (fun (_ : α) => expression) [.text []] := by
  refine Opened.closes (fun _ => opened_binding 0) (fun _ items rest hreads hstops => ?_)
    plain_text rfl
  obtain ⟨token, _, rfl, hkind, rfl⟩ := hreads
  exact ⟨.text [], binding_text hkind hstops⟩

theorem decided_letStatement (tokens : List Token) :
    Decided fun behind => letStatement (ahead tokens behind) := by
  -- What closes the parts behind each place, the last one first.
  have hvalue := fun name : String =>
    (closes_expression (α := Unit)).map fun _ initializer => Statement.binding name initializer
  have hequals := (closes_consume (α := String) .equals rfl).andThen hvalue
    (List.forall_mem_singleton.mpr plain_text)
  refine (decided_identifier tokens).andThen hequals fun name left _ => ?_
  refine (decided_consume (plain_delimiter .equals) (by simp) left).andThen (hvalue name) ?_
  intro _ more _
  exact (decided_expression more).map _

theorem opened_returnStatement : Opened returnStatement where
  ends := .inl ⟨.returning none, rfl⟩
  faulty error behind := ⟨.error error :: behind, rfl⟩
  resumes := by
    refine .welcomes [] nofun fun contents items rest hreads hstops => ?_
    obtain ⟨token, _, rfl, hkind, rfl⟩ := hreads
    exact ⟨_, returnStatement_of_expression (binding_text hkind hstops)⟩

theorem decided_returnStatement (tokens : List Token) :
    Decided fun behind => returnStatement (ahead tokens behind) := by
  cases tokens with
  | nil => exact .inr opened_returnStatement
  | cons token left =>
      by_cases hterminator : token.kind = .delimiter .terminator
      · refine .inl (.done (.returning none) left fun behind => ?_)
        simp only [ahead_cons, returnStatement, hterminator]
      · by_cases hword : token.kind = .keyword .endWord
        · refine .inl (.done (.returning none) (token :: left) fun behind => ?_)
          simp only [ahead_cons, returnStatement, hword]
        · refine .congr (fun behind => ?_) ((decided_expression (token :: left)).map
            fun value => Statement.returning (some value))
          rw [ahead_cons, returnStatement]
          split
          · next hkind => exact absurd hkind hterminator
          · next hkind => exact absurd hkind hword
          · rfl

/-! ## Statements and bodies -/

/-- A quoted text is a statement before whatever cannot go on with it. -/
theorem statement_text {token : Token} {contents : List Char} {items : List Item}
    (hkind : token.kind = .text contents) (hstops : Stops 0 items) :
    statement (.ok token :: items) = .done (some (.expression (.text contents))) items :=
  statement_of_expression (binding_text hkind hstops)

theorem opened_statement : Opened statement where
  ends := .inr ⟨.statement, [], by rw [statement_eq]⟩
  faulty error behind := ⟨.error error :: behind, by rw [statement_eq]⟩
  resumes := by
    refine .welcomes [] nofun fun contents items rest hreads hstops => ?_
    obtain ⟨token, _, rfl, hkind, rfl⟩ := hreads
    exact ⟨_, statement_text hkind hstops⟩

theorem opened_statements : Opened statements where
  ends := .inr ⟨.token (.keyword .endWord), [], by rw [statements_eq]⟩
  faulty error behind := ⟨.error error :: behind, by rw [statements_eq]⟩
  resumes := by
    refine .welcomes [.keyword .endWord]
      (List.forall_mem_singleton.mpr (plain_keyword .endWord)) ?_
    intro contents items rest hreads _
    obtain ⟨token, behind, rfl, hkind, hclose⟩ := hreads
    have hbody := parsesBody_close hclose
    obtain ⟨close, after, rfl, hword, -⟩ := hclose
    have hstops : Stops 0 (.ok close :: after) := stops_zero_of_kind (by rw [hword]; rfl)
    exact ⟨_, statements_of_statement (statement_text hkind hstops) hbody⟩

/-- The word `end` closes a body. -/
theorem closes_statements : Closes (fun (_ : α) => statements) [.keyword .endWord] :=
  Opened.closes (fun _ => opened_statements) (fun _ _ _ hreads _ => ⟨[], parsesBody_close hreads⟩)
    (plain_keyword .endWord) rfl

/-- What starts with neither a word nor a terminator is an expression. -/
theorem decided_statement_expression {token : Token} (left : List Token)
    (hword : ∀ reserved, token.kind ≠ .keyword reserved)
    (hterminator : token.kind ≠ .delimiter .terminator) :
    Decided fun behind => statement (ahead (token :: left) behind) := by
  refine .congr (fun behind => ?_) ((decided_expression (token :: left)).map
    fun value => some (Statement.expression value))
  rw [ahead_cons, statement_eq]
  dsimp only
  split
  · next hkind => exact absurd hkind (hword _)
  · next hkind => exact absurd hkind (hword _)
  · next hkind => exact absurd hkind (hword _)
  · next hkind => exact absurd hkind hterminator
  · next hkind => exact absurd hkind (hword _)
  · rfl

mutual

/-- A statement is decided by its first token and by what belongs to it. -/
theorem decided_statement (tokens : List Token) :
    Decided fun behind => statement (ahead tokens behind) := by
  match tokens with
  | [] => exact .inr opened_statement
  | token :: left =>
      cases hkind : token.kind with
      | keyword reserved =>
          have hfirst : ∀ behind, statement (ahead (token :: left) behind)
              = statement (.ok token :: ahead left behind) := fun _ => rfl
          simp only [hfirst, statement_eq, hkind]
          -- Only `do` leads back to bodies; the other words open no statement.
          cases reserved with
          | letWord => exact (decided_letStatement left).map some
          | returnWord => exact (decided_returnStatement left).map some
          | doWord => exact (decided_statements left).map _
          | defunWord | endWord | ifWord | thenWord | elseWord =>
              exact .inl (.failed .statement token fun behind => ⟨_, rfl⟩)
      | delimiter separator =>
          by_cases hterminator : separator = .terminator
          · refine .inl (.done none left fun behind => ?_)
            simp only [ahead_cons, statement_eq, hkind, hterminator]
          · exact decided_statement_expression left (by simp [hkind]) (by simp [hkind, hterminator])
      | operator _ | identifier _ | text _ | number _ =>
          exact decided_statement_expression left (by simp [hkind]) (by simp [hkind])
termination_by 2 * tokens.length
decreasing_by all_goals simp only [List.length_cons]; omega

/-- A body is decided by the word `end`, or statement by statement. -/
theorem decided_statements (tokens : List Token) :
    Decided fun behind => statements (ahead tokens behind) := by
  match htokens : tokens with
  | [] => exact .inr opened_statements
  | token :: left =>
      by_cases hword : token.kind = .keyword .endWord
      · refine .inl (.done [] left fun behind => ?_)
        rw [ahead_cons, statements_eq]
        exact if_pos hword
      · refine .congr (fun behind => ?_) ((decided_statement (token :: left)).andThen
          (closes_statements.map fun (first : Option Statement) others =>
            first.toList ++ others) ?_)
        · rw [ahead_cons, statements_eq]
          exact if_neg hword
        · intro first more hdone
          have hshorter : more.length < (token :: left).length :=
            length_ahead_nil (token :: left) ▸
              length_lt_of_within (statement_within (ahead (token :: left) [])) hdone
          exact (decided_statements more).map _
termination_by 2 * tokens.length + 1
decreasing_by all_goals subst htokens; omega

end

theorem decided_block (tokens : List Token) :
    Decided fun behind => block (ahead tokens behind) :=
  (decided_consume (plain_keyword .doWord) (by simp) tokens).andThen
    (closes_statements.map fun _ body => Statement.block body) fun _ left _ =>
      (decided_statements left).map _

/-! ## Definitions -/

/-- Parameters are names, separated by commas and closed by a parenthesis. -/
theorem parameterList_eq (items : List Item) :
    parameterList items = (identifier items).andThen (separated parameterList) := by
  match items with
  | [] => rfl
  | .error error :: rest => rfl
  | .ok token :: rest =>
      rw [parameterList.eq_def, identifier, advance, Outcome.andThen_done]
      dsimp only
      cases token.kind with
      | identifier name =>
          match rest with
          | [] => rfl
          | .error error :: behind => rfl
          | .ok separator :: behind => rfl
      | keyword _ | delimiter _ | operator _ | text _ | number _ => rfl

theorem decided_parameterList (tokens : List Token) :
    Decided fun behind => parameterList (ahead tokens behind) := by
  refine .congr (fun behind => parameterList_eq _)
    ((decided_identifier tokens).andThen (closes_separated parameterList) ?_)
  intro name more hdone
  have hshorter : more.length < tokens.length :=
    length_ahead_nil tokens ▸ length_lt_of_within (identifier_within (ahead tokens [])) hdone
  exact decided_separated name more fun left hleft => decided_parameterList left
termination_by tokens.length
decreasing_by omega

/-- The closing parenthesis is enough. -/
theorem completes_parameters : Completes parameters [.delimiter .closeParen] :=
  fun _ _ hreads _ => ⟨[], parameters_done_iff.mpr (.inl ⟨hreads, rfl⟩)⟩

theorem opened_parameters : Opened parameters where
  ends := .inr ⟨.identifier, [], rfl⟩
  faulty error behind := ⟨.error error :: behind, rfl⟩
  resumes := by
    refine .refuses [.delimiter .closeParen]
      (List.forall_mem_singleton.mpr (plain_delimiter .closeParen)) completes_parameters ?_
    intro token contents behind hkind
    refine ⟨.identifier, behind, ?_⟩
    rw [parameters, if_neg (by simp [hkind]), parameterList.eq_def]
    simp only [hkind]

theorem closes_parameters : Closes (fun (_ : α) => parameters) [.delimiter .closeParen] :=
  Opened.closes (fun _ => opened_parameters) (fun _ => completes_parameters)
    (plain_delimiter .closeParen) rfl

theorem decided_parameters (tokens : List Token) :
    Decided fun behind => parameters (ahead tokens behind) := by
  match tokens with
  | [] => exact .inr opened_parameters
  | token :: left =>
      by_cases hclose : token.kind = .delimiter .closeParen
      · refine .inl (.done [] left fun behind => ?_)
        rw [ahead_cons, parameters, if_pos hclose]
      · refine .congr (fun behind => ?_) (decided_parameterList (token :: left))
        rw [ahead_cons, parameters, if_neg hclose]

/-- The name of a definition with the opening parenthesis behind it. -/
def heading (items : List Item) : Outcome String :=
  (identifier items).andThen fun name behind =>
    (consume (.delimiter .openParen) behind).map fun _ => name

theorem opened_heading : Opened heading where
  ends := .inr ⟨.identifier, [], rfl⟩
  faulty error behind := ⟨behind, rfl⟩
  resumes := by
    refine .refuses [.identifier "x", .delimiter .openParen] ?_ ?_ ?_
    · simp [plain_identifier, plain_delimiter]
    · intro items rest hreads _
      obtain ⟨behind, hname, hopen⟩ := reads_cons.mp hreads
      refine ⟨"x", ?_⟩
      rw [heading, identifier_done_iff.mpr hname, Outcome.andThen_done,
        consume_done_iff.mpr hopen, Outcome.map_done]
    · intro token contents behind hkind
      refine ⟨.identifier, behind, ?_⟩
      rw [heading, identifier, advance, Outcome.andThen_done, hkind]
      rfl

theorem decided_heading (tokens : List Token) :
    Decided fun behind => heading (ahead tokens behind) := by
  match tokens with
  | [] => exact .inr opened_heading
  | token :: left =>
      exact (concluded_identifier token left).andThen .inl fun name more _ =>
        (decided_consume (plain_delimiter .openParen) (by simp) more).map _

theorem definitionTail_eq (items : List Item) :
    definitionTail items
      = (heading items).andThen fun name inside =>
        (parameters inside).andThen fun names afterParameters =>
          (consume (.delimiter .equals) afterParameters).andThen fun _ start =>
            (statements start).map fun body => ⟨name, names, body⟩ := by
  rw [definitionTail, heading]
  cases identifier items with
  | failed error rest => rfl
  | done name afterName =>
      simp only [Outcome.andThen_done]
      cases consume (.delimiter .openParen) afterName <;> rfl

/-- The part of a definition behind its first word is decided by its parts, one after the other. -/
theorem decided_definitionTail (tokens : List Token) :
    Decided fun behind => definitionTail (ahead tokens behind) := by
  -- What closes the parts behind each place, the last ones first.
  have hend : ∀ kind ∈ [TokenKind.keyword .endWord], Plain kind :=
    List.forall_mem_singleton.mpr (plain_keyword .endWord)
  have hbody := fun (name : String) (names : List String) =>
    (closes_statements (α := Unit)).map fun _ body => (⟨name, names, body⟩ : Definition)
  have hequals := fun name =>
    (closes_consume (α := List String) .equals rfl).andThen (hbody name) hend
  have hparameters := (closes_parameters (α := String)).andThen hequals
    (List.forall_mem_cons.mpr ⟨plain_delimiter .equals, hend⟩)
  refine .congr (fun behind => definitionTail_eq _)
    ((decided_heading tokens).andThen hparameters fun name inside _ => ?_)
  refine (decided_parameters inside).andThen (hequals name) fun names left _ => ?_
  refine (decided_consume (plain_delimiter .equals) (by simp) left).andThen (hbody name names) ?_
  intro _ start _
  exact (decided_statements start).map _

theorem opened_definition : Opened definition where
  ends := .inl ⟨none, rfl⟩
  faulty error behind := ⟨.error error :: behind, rfl⟩
  resumes := by
    refine .refuses [.keyword .defunWord, .identifier "x", .delimiter .openParen,
      .delimiter .closeParen, .delimiter .equals, .keyword .endWord] ?_ ?_ ?_
    · simp [plain_keyword, plain_identifier, plain_delimiter]
    · intro items rest hreads _
      obtain ⟨token, behind, rfl, hkind, hbehind⟩ := hreads
      have htail := definitionTail_done_iff.mpr ⟨_, hbehind, .plain "x" .close⟩
      refine ⟨some ⟨"x", [], []⟩, ?_⟩
      rw [definition, hkind]
      dsimp only
      rw [htail, Outcome.map_done]
    · intro token contents behind hkind
      exact ⟨.definition, behind, by rw [definition, hkind]⟩

/-- A definition is decided by its first token that is no terminator, and by what belongs to it. -/
theorem decided_definition (tokens : List Token) :
    Decided fun behind => definition (ahead tokens behind) := by
  induction tokens with
  | nil => exact .inr opened_definition
  | cons token left ih =>
      by_cases hterminator : token.kind = .delimiter .terminator
      · simp only [ahead_cons, definition, hterminator]
        exact ih
      · by_cases hword : token.kind = .keyword .defunWord
        · simp only [ahead_cons, definition, hword]
          exact (decided_definitionTail left).map some
        · refine .inl (.failed .definition token fun behind => ⟨ahead left behind, ?_⟩)
          rw [ahead_cons, definition]
          split
          · next hkind => exact absurd hkind hterminator
          · next hkind => exact absurd hkind hword
          · rfl

end StackLang.Grammar
