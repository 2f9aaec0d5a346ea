import StackLang.Proofs.Dialogue.Mirroring

/-! # Dialogues for expressions

Each dialogue for an expression or for a part of one mirrors the parser of it, from any reader. The
induction is on the items that are not yet taken, and goes the way of the parsers: whatever comes
behind a success has fewer items before it.

* `continuing_told`, `arguments_told` — the parsers that look ahead, put the way of the dialogues.
* `mirrors_binding`, `mirrors_operand` and so on — expressions and their parts. -/

namespace StackLang.Dialogue

theorem continuing_told (minimum : Nat) (left : Expression) (items : List Item) :
    Parse.continuing minimum left items
      = (told items items).andThen fun found rest =>
        match found with
        | none => .done left rest
        | some token =>
            if token.kind.precedence ≤ minimum then .done left rest
            else (Parse.advance .expression rest).andThen fun sign behind =>
              (Parse.extend left sign behind).andThen (Parse.continuing minimum) := by
  rw [Parse.continuing_eq]
  rcases items with _ | ⟨_ | _, _⟩ <;> rfl

theorem arguments_told (items : List Item) :
    Parse.arguments items
      = ((told items items).map fun found =>
          found.any fun token => token.kind = .delimiter .closeParen).andThen fun closed rest =>
        if closed then (Parse.advance .argumentSeparator rest).map fun _ => []
        else Parse.argumentList rest := by
  rw [Parse.arguments_eq]
  match items with
  | [] => rfl
  | .error error :: rest => rfl
  | .ok token :: rest =>
      by_cases hclose : token.kind = .delimiter .closeParen
      · simp [told, hclose, Parse.advance]
      · simp [told, hclose]

mutual

theorem mirrors_binding (minimum : Nat) (reading : Reading) :
    Mirrors (fun depth => binding depth minimum) (Parse.binding minimum reading.unread)
      (fun _ => 2) 1 reading := by
  rw [Parse.binding_eq]
  refine .deeper ?_
  simp only [binding]
  refine (mirrors_advance reading _).bind (by decide) fun token rest htoken => ?_
  have hfewer := (Parse.advance_within _ _).length_lt htoken
  refine (mirrors_operand token rest).bind (by decide) fun left behind hleft => ?_
  have hshorter := (Parse.operandStep token _).property.length_lt hleft
  exact (mirrors_continuing minimum left behind).mono (by simp) (by simp)
termination_by 4 * reading.unread.length
decreasing_by all_goals omega

theorem mirrors_operand (token : Token) (reading : Reading) :
    Mirrors (fun depth => operand depth token) (Parse.operand token reading.unread)
      (fun _ => 0) 1 reading := by
  rw [Parse.operand_eq]
  refine .deeper ?_
  simp only [operand]
  cases hkind : token.kind with
  | number value => exact .pure _ (by decide)
  | text contents => exact .pure _ (by decide)
  | identifier name => exact .pure _ (by decide)
  | keyword _ | operator _ => exact .throw _ (by decide)
  | delimiter separator =>
      cases separator with
      | openParen =>
          refine (mirrors_binding 0 reading).bind (by decide) fun inner behind _ => ?_
          refine (mirrors_consume behind _).bind (by decide) fun _ left _ => ?_
          exact .pure inner (by decide)
      | closeParen | openBracket | closeBracket | comma | equals | terminator =>
          exact .throw _ (by decide)
termination_by 4 * reading.unread.length + 1
decreasing_by all_goals omega

theorem mirrors_continuing (minimum : Nat) (left : Expression) (reading : Reading) :
    Mirrors (fun depth => continuing depth minimum left)
      (Parse.continuing minimum left reading.unread) (fun _ => -1) 2 reading := by
  rw [continuing_told]
  refine .deeper ?_
  simp only [continuing]
  refine (mirrors_peek reading).bind (by decide) fun found rest hfound => ?_
  have hsame : rest.unread.length = reading.unread.length := congrArg _ (rest_of_told hfound)
  cases found with
  | none => exact .pure left (by decide)
  | some token =>
    dsimp only
    by_cases hweak : token.kind.precedence ≤ minimum
    · simp only [if_pos hweak]
      exact .pure left (by decide)
    · simp only [if_neg hweak]
      refine (mirrors_advance rest _).bind (by decide) fun sign behind hsign => ?_
      have hfewer := (Parse.advance_within _ _).length_lt hsign
      refine (mirrors_extend left sign behind).bind (by decide) fun longer after hlonger => ?_
      have hshorter := (Parse.extendStep left sign _).property.length_lt hlonger
      exact (mirrors_continuing minimum longer after).mono (by simp) (by simp)
termination_by 4 * reading.unread.length
decreasing_by all_goals omega

theorem mirrors_extend (left : Expression) (token : Token) (reading : Reading) :
    Mirrors (fun depth => extend depth left token) (Parse.extend left token reading.unread)
      (fun _ => 0) 2 reading := by
  rw [Parse.extend_eq]
  refine .deeper ?_
  simp only [extend]
  cases hkind : token.kind with
  | operator infixSign =>
      refine (mirrors_binding _ reading).bind (by decide) fun right behind _ => ?_
      exact .pure _ (by decide)
  | number _ | text _ | identifier _ | keyword _ => exact .throw _ (by decide)
  | delimiter separator =>
      cases separator with
      | openParen =>
          refine (mirrors_arguments reading).bind (by decide) fun values behind _ => ?_
          exact .pure _ (by decide)
      | closeParen | openBracket | closeBracket | comma | equals | terminator =>
          exact .throw _ (by decide)
termination_by 4 * reading.unread.length + 3
decreasing_by all_goals omega

theorem mirrors_arguments (reading : Reading) :
    Mirrors arguments (Parse.arguments reading.unread) (fun _ => 2) 2 reading := by
  rw [arguments_told]
  refine .deeper ?_
  simp only [arguments]
  refine (mirrors_nextIs reading _).bind (by decide) fun closed rest hclosed => ?_
  have hsame : rest.unread.length = reading.unread.length := congrArg _ (rest_of_told_map hclosed)
  cases closed with
  | true =>
      refine (mirrors_advance rest _).bind (by decide) fun _ behind _ => ?_
      exact .pure [] (by decide)
  | false => exact (mirrors_argumentList rest).mono (by simp) (by simp)
termination_by 4 * reading.unread.length + 2
decreasing_by all_goals omega

theorem mirrors_argumentList (reading : Reading) :
    Mirrors argumentList (Parse.argumentList reading.unread) (fun _ => 5) 1 reading := by
  rw [Parse.argumentList_eq]
  refine .deeper ?_
  simp only [argumentList]
  refine (mirrors_binding 0 reading).bind (by decide) fun argument behind hargument => ?_
  have hfewer := (Parse.binding_within 0 _).length_lt hargument
  refine (mirrors_advance behind _).bind (by decide) fun token rest htoken => ?_
  have hshorter := (Parse.advance_within _ _).length_lt htoken
  cases hkind : token.kind with
  | number _ | text _ | identifier _ | keyword _ | operator _ => exact .throw _ (by decide)
  | delimiter separator =>
      cases separator with
      | comma =>
          refine (mirrors_argumentList rest).bind (by decide) fun others left _ => ?_
          exact .pure _ (by decide)
      | closeParen => exact .pure _ (by decide)
      | openParen | openBracket | closeBracket | equals | terminator =>
          exact .throw _ (by decide)
termination_by 4 * reading.unread.length + 1
decreasing_by all_goals omega

end

theorem mirrors_expression (reading : Reading) :
    Mirrors expression (Parse.expression reading.unread) (fun _ => 2) 1 reading :=
  mirrors_binding 0 reading

end StackLang.Dialogue
