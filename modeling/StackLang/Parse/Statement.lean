import StackLang.Parse.Expression

/-! # Parsing statements

Statements follow one another without a separator; terminators between them are skipped. What a
statement is shows in its first token: `let`, `return`, `do`, or else an expression.

* `Parse.statement` — a statement, or nothing where a terminator stands.
* `Parse.statements` — the statements up to and with the word `end`.
* `Parse.block` — statements between `do` and `end`.
* `Parse.finish` — nothing but terminators. -/

namespace StackLang.Parse

/-- The part of a `let` behind its first word. -/
def letStatement (items : List Item) : Outcome Statement :=
  (identifier items).andThen fun name behind =>
    (consume (.delimiter .equals) behind).andThen fun _ rest =>
      (expression rest).map fun initializer => .binding name initializer

/-- The part of a `return` behind its first word: nothing, if a terminator follows (which is used
up), the word `end` (which is not), or the end of the text; otherwise an expression. -/
def returnStatement (items : List Item) : Outcome Statement :=
  match items with
  | [] => .done (.returning none) []
  | .error error :: rest => .failed (.lexical error) (.error error :: rest)
  | .ok token :: rest =>
      match token.kind with
      | .delimiter .terminator => .done (.returning none) rest
      | .keyword .endWord => .done (.returning none) (.ok token :: rest)
      | _ => (expression (.ok token :: rest)).map fun value => .returning (some value)

theorem letStatement_within (items : List Item) : (letStatement items).Within items.length :=
  (identifier_within items).andThen (Nat.le_refl _) fun _ behind shorter =>
    ((consume_within _ behind).andThen (Nat.le_refl _) fun _ rest fewer =>
      (expression_within rest).map.mono (Nat.le_of_lt fewer)).mono (Nat.le_of_lt shorter)

theorem returnStatement_within (items : List Item) :
    (returnStatement items).Within (items.length + 1) := by
  match items with
  | [] => exact Nat.lt_succ_self _
  | .error error :: rest => exact Nat.le_succ _
  | .ok token :: rest =>
      simp only [returnStatement]
      split
      · exact Nat.lt_succ_of_lt (Nat.lt_succ_self _)
      · exact Nat.lt_succ_self _
      · exact (expression_within _).map.mono (Nat.le_succ _)

/-! ## The recursion, with the bounds by which it ends -/

mutual

/-- A statement, with the bound on the items left. -/
def statementStep (items : List Item) : Step (Option Statement) items.length :=
  match items with
  | [] => ⟨.failed (.unexpectedEnd .statement) [], Nat.le_refl _⟩
  | .error error :: rest => ⟨.failed (.lexical error) (.error error :: rest), Nat.le_refl _⟩
  | .ok token :: rest =>
      match token.kind with
      | .keyword .letWord =>
          ⟨(letStatement rest).map some, (letStatement_within rest).map.mono (Nat.le_succ _)⟩
      | .keyword .returnWord =>
          ⟨(returnStatement rest).map some, (returnStatement_within rest).map⟩
      | .keyword .doWord =>
          (statementsStep rest).andThen (Nat.le_succ _) fun body behind shorter =>
            ⟨.done (some (.block body)) behind, Nat.lt_succ_of_lt shorter⟩
      | .delimiter .terminator => ⟨.done none rest, Nat.lt_succ_self _⟩
      | .keyword _ => ⟨.failed (.expected .statement token) (.ok token :: rest), Nat.le_refl _⟩
      | _ =>
          ⟨(expression (.ok token :: rest)).map fun value => some (.expression value),
            (expression_within _).map⟩
termination_by 2 * items.length
decreasing_by simp only [List.length_cons]; omega

/-- Statements up to and with the word `end`, with the bound on the items left. -/
def statementsStep (items : List Item) : Step (List Statement) items.length :=
  match items with
  | [] => ⟨.failed (.unexpectedEnd (.token (.keyword .endWord))) [], Nat.le_refl _⟩
  | .error error :: rest => ⟨.failed (.lexical error) (.error error :: rest), Nat.le_refl _⟩
  | .ok token :: rest =>
      if token.kind = .keyword .endWord then ⟨.done [] rest, Nat.lt_succ_self _⟩
      else
        (statementStep (.ok token :: rest)).andThen (Nat.le_refl _) fun first behind shorter =>
          (statementsStep behind).andThen (Nat.le_of_lt shorter) fun others after fewer =>
            ⟨.done (first.toList ++ others) after, Nat.lt_trans fewer shorter⟩
termination_by 2 * items.length + 1
decreasing_by
  · omega
  · omega

end

/-! ## The parsers and their equations -/

/-- A statement, or nothing where a terminator stands. -/
def statement (items : List Item) : Outcome (Option Statement) :=
  (statementStep items).val

/-- The statements up to and with the word `end`. -/
def statements (items : List Item) : Outcome (List Statement) :=
  (statementsStep items).val

/-- A block: statements between `do` and `end`. -/
def block (items : List Item) : Outcome Statement :=
  (consume (.keyword .doWord) items).andThen fun _ rest =>
    (statements rest).map fun body => .block body

/-- Nothing but terminators to the end of the text. -/
def finish : List Item → Outcome Unit
  | [] => .done () []
  | .error error :: rest => .failed (.lexical error) rest
  | .ok token :: rest =>
      if token.kind = .delimiter .terminator then finish rest
      else .failed (.expected .endOfInput token) rest

/-- The first token of a statement shows what it is. -/
theorem statement_eq (items : List Item) :
    statement items
      = match items with
        | [] => .failed (.unexpectedEnd .statement) []
        | .error error :: rest => .failed (.lexical error) (.error error :: rest)
        | .ok token :: rest =>
            match token.kind with
            | .keyword .letWord => (letStatement rest).map some
            | .keyword .returnWord => (returnStatement rest).map some
            | .keyword .doWord => (statements rest).map fun body => some (.block body)
            | .delimiter .terminator => .done none rest
            | .keyword _ => .failed (.expected .statement token) (.ok token :: rest)
            | _ => (expression (.ok token :: rest)).map fun value => some (.expression value) := by
  rw [statement, statementStep.eq_def]
  match items with
  | [] => rfl
  | .error error :: rest => rfl
  | .ok token :: rest =>
      dsimp only
      split
      · rfl
      · rfl
      · exact Step.val_andThen _ _ _ _ fun body behind shorter => rfl
      · rfl
      · rfl
      · rfl

/-- Statements are read one by one, up to the word `end`. -/
theorem statements_eq (items : List Item) :
    statements items
      = match items with
        | [] => .failed (.unexpectedEnd (.token (.keyword .endWord))) []
        | .error error :: rest => .failed (.lexical error) (.error error :: rest)
        | .ok token :: rest =>
            if token.kind = .keyword .endWord then .done [] rest
            else
              (statement (.ok token :: rest)).andThen fun first behind =>
                (statements behind).map fun others => first.toList ++ others := by
  rw [statements, statementsStep.eq_def]
  match items with
  | [] => rfl
  | .error error :: rest => rfl
  | .ok token :: rest =>
      dsimp only
      split
      · rfl
      · refine Step.val_andThen _ _ _ _ fun first behind shorter => ?_
        exact Step.val_andThen _ _ _ _ fun others after fewer => rfl

/-! ## Bounds on the items left -/

/-- A statement, or the terminator in its place, uses up an item or more. -/
theorem statement_within (items : List Item) : (statement items).Within items.length :=
  (statementStep items).property

/-- The statements of a body use up an item or more: the word `end`. -/
theorem statements_within (items : List Item) : (statements items).Within items.length :=
  (statementsStep items).property

end StackLang.Parse
