import StackLang.Proofs.Grammar.Continuation
import StackLang.Proofs.Grammar.Statement

/-! # Statements before other tokens

A statement that is spelled alone is one before any other token, but for two things. A `return`
without a value needs a terminator or the word `end` behind it. And what ends with an operand goes
on with an operator, or with an opening parenthesis. Of the tokens with which an operand may end,
all but the quoted texts end a statement before a newline.

* `SpellsAlone.exists_start` — how statements start.
* `SpellsAlone.before` — where nothing is needed behind a statement.
* `SpellsAlone.not_goes_on` — where something is: a quoted text before a parenthesis. -/

namespace StackLang.Grammar

/-- A statement starts with neither a terminator nor an operator. -/
theorem SpellsAlone.exists_start {kinds : List TokenKind} {parsed : Statement}
    (h : SpellsAlone kinds parsed) :
    ∃ first behind, kinds = first :: behind ∧ first ≠ .delimiter .terminator
      ∧ ∀ sign, first ≠ .operator sign := by
  cases h with
  | expression h =>
      obtain ⟨first, behind, rfl, hstart⟩ := h.exists_start
      exact ⟨first, behind, rfl, hstart.ne.2⟩
  | binding _ _ | returningTerminated | returning | returningValue _ | block _ =>
      exact ⟨_, _, rfl, by simp, by simp⟩

/-! ## The last token -/

/-- The last token is a quoted text. -/
def EndsInText (kinds : List TokenKind) : Prop :=
  ∃ contents, kinds.getLast? = some (.text contents)

/-- Of the tokens with which an operand may end, only quoted texts end no statement. -/
theorem endsInText_of_lastIs {kinds : List TokenKind}
    (hoperand : lastIs endsOperand false kinds = true) (hends : endsBehind false kinds = false) :
    EndsInText kinds := by
  rw [endsBehind, lastIs] at hends
  rw [lastIs] at hoperand
  cases hlast : kinds.getLast? with
  | none =>
      rw [hlast] at hoperand
      cases hoperand
  | some kind =>
      rw [hlast] at hoperand hends
      unfold endsOperand at hoperand
      dsimp only [Option.map_some, Option.getD_some] at hoperand hends
      split at hoperand
      · cases hends
      · exact ⟨_, hlast⟩
      · cases hends
      · cases hends
      · cases hoperand

/-- A body ends with its word. -/
theorem SpellsBody.lastIs_end {kinds : List TokenKind} {body : List Statement} :
    SpellsBody kinds body → ∃ before, kinds = before ++ [.keyword .endWord]
  | .statement _ h => by
      obtain ⟨before, hbefore⟩ := h.lastIs_end
      exact ⟨_, by rw [hbefore, ← List.append_assoc]⟩
  | .terminator h => by
      obtain ⟨before, rfl⟩ := h.lastIs_end
      exact ⟨.delimiter .terminator :: before, rfl⟩
  | .close => ⟨[], rfl⟩

/-- Behind a statement that a newline does not end, nothing is needed before a token that is no
operator, unless the statement ends in a quoted text and the token is a parenthesis. -/
theorem SpellsAlone.before {kinds : List TokenKind} {parsed : Statement} {next : TokenKind}
    (h : SpellsAlone kinds parsed) (hends : endsBehind false kinds = false)
    (hoperator : ∀ sign, next ≠ .operator sign)
    (hparen : EndsInText kinds → next ≠ .delimiter .openParen) :
    SpellsStatement kinds next parsed := by
  -- What ends with an operand, where no newline ends it, ends with a quoted text.
  have hcontinues : lastIs endsOperand false kinds = true → ¬ Continues next := by
    rintro hoperand (hopen | ⟨sign, hsign⟩)
    · exact hparen (endsInText_of_lastIs hoperand hends) hopen
    · exact hoperator sign hsign
  cases h with
  | binding name h =>
      refine .binding name h (hcontinues ?_)
      simp only [lastIs_cons]
      exact h.opens_eq.2 _
  | returningTerminated => exact .returningTerminated next
  | returning => cases hends
  | returningValue h =>
      refine .returningValue h (hcontinues ?_)
      rw [lastIs_cons]
      exact h.opens_eq.2 _
  | block h => exact .block next h
  | expression h => exact .expression h (hcontinues (h.opens_eq.2 _))

/-- A statement that ends in a quoted text goes on with an opening parenthesis: before other tokens
it is another statement. -/
theorem SpellsAlone.not_goes_on {kinds first behind others : List TokenKind} {next : TokenKind}
    {parsed : Statement} (h : SpellsAlone kinds parsed) (htext : EndsInText kinds)
    (hfirst : SpellsStatement first next parsed) :
    first ++ next :: behind ≠ kinds ++ .delimiter .openParen :: others := by
  intro hsame
  obtain ⟨contents, hlast⟩ := htext
  -- The statement ends with an expression; the others do not end in a quoted text.
  cases h with
  | binding name h =>
      cases hfirst with
      | binding _ hinitializer hnext =>
          simp only [List.cons_append, List.cons.injEq, true_and] at hsame
          exact hinitializer.not_goes_on hnext h hsame
  | returningTerminated => simp at hlast
  | returning => simp at hlast
  | returningValue h =>
      cases hfirst with
      | returningValue hvalue hnext =>
          simp only [List.cons_append, List.cons.injEq, true_and] at hsame
          exact hvalue.not_goes_on hnext h hsame
  | block h =>
      obtain ⟨before, rfl⟩ := h.lastIs_end
      rw [← List.cons_append, List.getLast?_concat] at hlast
      cases hlast
  | expression h =>
      cases hfirst with
      | expression hevaluated hnext => exact hevaluated.not_goes_on hnext h hsame

end StackLang.Grammar
