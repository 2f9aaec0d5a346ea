import StackLang.Proofs.Dialogue.Expression

/-! # Dialogues for statements

Each dialogue for a statement, for a block or for the end of the text mirrors the parser of it.

* `returnStatement_told`, `statement_told`, `statements_told`, `finish_told` — the parsers that look
  ahead, put the way of the dialogues.
* `mirrors_statement`, `mirrors_block`, `mirrors_statements` — statements and bodies.
* `mirrors_finish` — the end of the text. -/

namespace StackLang.Dialogue

variable (reading : Reading)

/-! ## Statements without a body -/

theorem mirrors_letStatement :
    Mirrors letStatement
      ((Parse.consume (.keyword .letWord) reading.unread).andThen fun _ => Parse.letStatement)
      (fun _ => 11) 1 reading := by
  refine (mirrors_consume reading _).bind (by decide) fun _ first _ => ?_
  refine (mirrors_identifier first).bind (by decide) fun name second _ => ?_
  refine (mirrors_consume second _).bind (by decide) fun _ third _ => ?_
  refine (mirrors_expression third).bind (by decide) fun initializer left _ => ?_
  exact .pure _ (by decide)

theorem returnStatement_told (items : List Item) :
    Parse.returnStatement items
      = (told items items).andThen fun found rest =>
        match found with
        | none => .done (.returning none) rest
        | some token =>
            match token.kind with
            | .delimiter .terminator =>
                (Parse.advance .statement rest).map fun _ => .returning none
            | .keyword .endWord => .done (.returning none) rest
            | _ => (Parse.expression rest).map fun value => .returning (some value) := by
  rcases items with _ | ⟨_ | _, _⟩ <;> rfl

theorem mirrors_returnStatement :
    Mirrors returnStatement
      ((Parse.consume (.keyword .returnWord) reading.unread).andThen fun _ =>
        Parse.returnStatement) (fun _ => 2) 1 reading := by
  refine (mirrors_consume reading _).bind (by decide) fun _ first _ => ?_
  rw [returnStatement_told]
  refine (mirrors_peek first).bind (by decide) fun found rest _ => ?_
  cases found with
  | none => exact .pure _ (by decide)
  | some token =>
      have hvalue : Mirrors (fun depth => do return Statement.returning (some (← expression depth)))
          ((Parse.expression rest.unread).map fun value => .returning (some value))
          (fun _ => 0) 3 rest :=
        (mirrors_expression rest).bind (by decide) fun _ _ _ => .pure _ (by decide)
      dsimp only
      cases token.kind with
      | number _ | text _ | identifier _ | operator _ => exact hvalue
      | keyword reserved =>
          cases reserved with
          | endWord => exact .pure _ (by decide)
          | letWord | returnWord | doWord | defunWord | ifWord | thenWord | elseWord => exact hvalue
      | delimiter separator =>
          cases separator with
          | terminator =>
              refine (mirrors_advance rest _).bind (by decide) fun _ _ _ => ?_
              exact .pure _ (by decide)
          | openParen | closeParen | openBracket | closeBracket | comma | equals => exact hvalue

/-! ## Statements and bodies -/

theorem statement_told (items : List Item) :
    Parse.statement items
      = (told items items).andThen fun found rest =>
        match found with
        | none => .failed (.unexpectedEnd .statement) rest
        | some token =>
            match token.kind with
            | .keyword .letWord =>
                ((Parse.consume (.keyword .letWord) rest).andThen fun _ =>
                  Parse.letStatement).map some
            | .keyword .returnWord =>
                ((Parse.consume (.keyword .returnWord) rest).andThen fun _ =>
                  Parse.returnStatement).map some
            | .keyword .doWord => (Parse.block rest).map some
            | .delimiter .terminator => (Parse.advance .statement rest).map fun _ => none
            | .keyword _ => .failed (.expected .statement token) rest
            | _ => (Parse.expression rest).map fun value => some (.expression value) := by
  rw [Parse.statement_eq]
  match items with
  | [] => rfl
  | .error error :: rest => rfl
  | .ok token :: rest =>
      cases hkind : token.kind with
      | keyword reserved =>
          cases reserved with
          | doWord =>
              simp only [told, Parse.consume, Parse.advance, Parse.block, List.head?_cons,
                Outcome.andThen_done, hkind, if_true]
              cases Parse.statements rest <;> rfl
          | _ => simp [told, Parse.consume, Parse.advance, hkind]
      | delimiter separator => cases separator <;> simp [told, Parse.advance, hkind]
      | number _ | text _ | identifier _ | operator _ => simp [told, hkind]

theorem statements_told (items : List Item) :
    Parse.statements items
      = (told items items).andThen fun found rest =>
        match found with
        | none => .failed (.unexpectedEnd (.token (.keyword .endWord))) rest
        | some token =>
            if token.kind = .keyword .endWord then
              (Parse.advance (.token (.keyword .endWord)) rest).map fun _ => []
            else
              (Parse.statement rest).andThen fun first behind =>
                (Parse.statements behind).map fun others => first.toList ++ others := by
  rw [Parse.statements_eq]
  rcases items with _ | ⟨_ | _, _⟩ <;> rfl

mutual

theorem mirrors_statement (reading : Reading) :
    Mirrors statement (Parse.statement reading.unread) (fun _ => 1) 2 reading := by
  rw [statement_told]
  refine .deeper ?_
  simp only [statement]
  refine (mirrors_peek reading).bind (by decide) fun found rest hfound => ?_
  have hsame : rest.unread.length = reading.unread.length := congrArg _ (rest_of_told hfound)
  cases found with
  | none => exact .throw _ (by decide)
  | some token =>
      have hvalue : Mirrors
          (fun depth => do return some (Statement.expression (← expression depth)))
          ((Parse.expression rest.unread).map fun value => some (.expression value))
          (fun _ => 2) 1 rest :=
        (mirrors_expression rest).bind (by decide) fun _ _ _ => .pure _ (by decide)
      dsimp only
      cases token.kind with
      | number _ | text _ | identifier _ | operator _ => exact hvalue
      | keyword reserved =>
          cases reserved with
          | letWord => exact (mirrors_letStatement rest).map fun _ => by decide
          | returnWord => exact (mirrors_returnStatement rest).map fun _ => by decide
          | doWord => exact (mirrors_block rest).map fun _ => by decide
          | endWord | defunWord | ifWord | thenWord | elseWord => exact .throw _ (by decide)
      | delimiter separator =>
          cases separator with
          | terminator =>
              refine (mirrors_advance rest _).bind (by decide) fun _ _ _ => ?_
              exact .pure none (by decide)
          | openParen | closeParen | openBracket | closeBracket | comma | equals => exact hvalue
termination_by 3 * reading.unread.length + 1
decreasing_by all_goals omega

theorem mirrors_block (reading : Reading) :
    Mirrors block (Parse.block reading.unread) (fun _ => 5) 1 reading := by
  refine .deeper ?_
  simp only [block]
  refine (mirrors_consume reading _).bind (by decide) fun _ behind hword => ?_
  have hfewer := (Parse.consume_within _ _).length_lt hword
  refine (mirrors_statements behind).bind (by decide) fun body left _ => ?_
  exact .pure _ (by decide)
termination_by 3 * reading.unread.length
decreasing_by all_goals omega

theorem mirrors_statements (reading : Reading) :
    Mirrors statements (Parse.statements reading.unread) (fun _ => 2) 3 reading := by
  rw [statements_told]
  refine .deeper ?_
  simp only [statements]
  refine (mirrors_peek reading).bind (by decide) fun found rest hfound => ?_
  have hsame : rest.unread.length = reading.unread.length := congrArg _ (rest_of_told hfound)
  cases found with
  | none => exact .throw _ (by decide)
  | some token =>
      by_cases hword : token.kind = .keyword .endWord
      · simp only [if_pos hword]
        refine (mirrors_advance rest _).bind (by decide) fun _ behind _ => ?_
        exact .pure [] (by decide)
      · simp only [if_neg hword]
        refine (mirrors_statement rest).bind (by decide) fun first behind hfirst => ?_
        have hfewer := (Parse.statement_within _).length_lt hfirst
        refine (mirrors_statements behind).bind (by decide) fun others left _ => ?_
        exact .pure _ (by decide)
termination_by 3 * reading.unread.length + 2
decreasing_by all_goals omega

end

/-! ## The end of the text -/

theorem finish_told (items : List Item) :
    Parse.finish items
      = (told items items.tail).andThen fun found rest =>
        match found with
        | none => .done () rest
        | some token =>
            if token.kind = .delimiter .terminator then Parse.finish rest
            else .failed (.expected .endOfInput token) rest := by
  rcases items with _ | ⟨_ | _, _⟩ <;> rfl

theorem mirrors_finish (reading : Reading) :
    Mirrors finish (Parse.finish reading.unread) (fun _ => -1) 0 reading := by
  rw [finish_told]
  refine .deeper ?_
  simp only [finish]
  refine (mirrors_next reading).bind (by decide) fun found rest hfound => ?_
  cases found with
  | none => exact .pure () (by decide)
  | some token =>
      by_cases hterminator : token.kind = .delimiter .terminator
      · simp only [if_pos hterminator]
        have hfewer := length_lt_of_told hfound
        exact (mirrors_finish rest).mono (by simp) (by simp)
      · simp only [if_neg hterminator]
        exact .throw _ (by simp)
termination_by reading.unread.length
decreasing_by all_goals omega

end StackLang.Dialogue
