import StackLang.Parse.Outcome
import StackLang.Syntax

/-! # Parsing expressions

An expression is an operand followed by signs that bind strongly enough, each with what belongs to
it: an operator with its right operand, an opening parenthesis with the arguments of a call. A right
operand takes in only what binds more strongly than its operator, so operators of one strength
associate to the left.

* `Parse.expression` — a whole expression.
* `Parse.binding` — an expression in which every sign binds more strongly than a given bound.
* `Parse.operand`, `Parse.continuing`, `Parse.extend`, `Parse.arguments` — its parts, with one
  equation each. -/

namespace StackLang.Parse

/-! ## The recursion, with the bounds by which it ends -/

mutual

/-- An expression, with the bound on the items left. -/
def bindingStep (minimum : Nat) (items : List Item) : Step Expression items.length :=
  match items with
  | [] => ⟨.failed (.unexpectedEnd .expression) [], Nat.le_refl _⟩
  | .error error :: rest => ⟨.failed (.lexical error) rest, Nat.le_succ _⟩
  | .ok token :: rest =>
      (operandStep token rest).andThen (Nat.le_refl _) fun left behind shorter =>
        let whole := continuingStep minimum left behind
        ⟨whole.val, whole.property.mono shorter⟩
termination_by 4 * items.length
decreasing_by all_goals simp only [List.length_cons] at *; omega

/-- An operand, with the bound on the items left. -/
def operandStep (token : Token) (items : List Item) : Step Expression (items.length + 1) :=
  match token.kind with
  | .number value => ⟨.done (.number value) items, Nat.lt_succ_self _⟩
  | .text contents => ⟨.done (.text contents) items, Nat.lt_succ_self _⟩
  | .identifier spelling => ⟨.done (.name spelling) items, Nat.lt_succ_self _⟩
  | .delimiter .openParen =>
      (bindingStep 0 items).andThen (Nat.le_succ _) fun inner behind shorter =>
        ⟨(consume (.delimiter .closeParen) behind).map fun _ => inner,
          (consume_within _ behind).map.mono (by omega)⟩
  | _ => ⟨.failed (.expected .expression token) items, Nat.le_succ _⟩
termination_by 4 * items.length + 1
decreasing_by all_goals omega

/-- What follows an operand, with the bound on the items left. -/
def continuingStep (minimum : Nat) (left : Expression) (items : List Item) :
    Step Expression (items.length + 1) :=
  match items with
  | [] => ⟨.done left [], Nat.lt_succ_self _⟩
  | .error error :: rest => ⟨.failed (.lexical error) (.error error :: rest), Nat.le_succ _⟩
  | .ok token :: rest =>
      if token.kind.precedence ≤ minimum then ⟨.done left (.ok token :: rest), Nat.lt_succ_self _⟩
      else
        (extendStep left token rest).andThen
          (Nat.le_trans (Nat.le_succ _) (Nat.le_succ _)) fun longer behind shorter =>
            let whole := continuingStep minimum longer behind
            ⟨whole.val, whole.property.mono (by simp only [List.length_cons]; omega)⟩
termination_by 4 * items.length
decreasing_by all_goals simp only [List.length_cons] at *; omega

/-- One sign with what belongs to it, with the bound on the items left. -/
def extendStep (left : Expression) (token : Token) (items : List Item) :
    Step Expression items.length :=
  match token.kind with
  | .operator infixSign =>
      (bindingStep token.kind.precedence items).andThen (Nat.le_refl _) fun right behind shorter =>
        ⟨.done (.binary left infixSign right) behind, shorter⟩
  | .delimiter .openParen =>
      (argumentsStep items).andThen (Nat.le_refl _) fun arguments behind shorter =>
        ⟨.done (.call left arguments) behind, shorter⟩
  | _ => ⟨.failed (.expected .expression token) items, Nat.le_refl _⟩
termination_by 4 * items.length + 3
decreasing_by all_goals omega

/-- Arguments behind an opening parenthesis, with the bound on the items left. -/
def argumentsStep (items : List Item) : Step (List Expression) items.length :=
  match items with
  | [] => argumentListStep []
  | .error error :: rest => ⟨.failed (.lexical error) (.error error :: rest), Nat.le_refl _⟩
  | .ok token :: rest =>
      if token.kind = .delimiter .closeParen then ⟨.done [] rest, Nat.lt_succ_self _⟩
      else argumentListStep (.ok token :: rest)
termination_by 4 * items.length + 2
decreasing_by all_goals simp only [List.length_cons, List.length_nil]; omega

/-- One argument or more, with the bound on the items left. -/
def argumentListStep (items : List Item) : Step (List Expression) items.length :=
  (bindingStep 0 items).andThen (Nat.le_refl _) fun argument behind shorter =>
    match behind with
    | [] => ⟨.failed (.unexpectedEnd .argumentSeparator) [], Nat.le_of_lt shorter⟩
    | .error error :: rest =>
        ⟨.failed (.lexical error) rest, Nat.le_of_lt (Nat.lt_of_succ_lt shorter)⟩
    | .ok token :: rest =>
        match token.kind with
        | .delimiter .comma =>
            (argumentListStep rest).andThen (Nat.le_of_lt (Nat.lt_of_succ_lt shorter))
              fun others after fewer =>
                ⟨.done (argument :: others) after,
                  Nat.lt_trans fewer (Nat.lt_of_succ_lt shorter)⟩
        | .delimiter .closeParen => ⟨.done [argument] rest, Nat.lt_of_succ_lt shorter⟩
        | _ => ⟨.failed (.expected .argumentSeparator token) rest,
            Nat.le_of_lt (Nat.lt_of_succ_lt shorter)⟩
termination_by 4 * items.length + 1
decreasing_by
  · omega
  · simp only [List.length_cons] at shorter
    omega

end

/-! ## The parsers and their equations -/

/-- An expression in which every sign that follows an operand binds more strongly than `minimum`. -/
def binding (minimum : Nat) (items : List Item) : Outcome Expression :=
  (bindingStep minimum items).val

/-- An expression. -/
def expression (items : List Item) : Outcome Expression :=
  binding 0 items

/-- The operand that starts with a token. -/
def operand (token : Token) (items : List Item) : Outcome Expression :=
  (operandStep token items).val

/-- What follows an operand, as long as it binds more strongly than `minimum`. -/
def continuing (minimum : Nat) (left : Expression) (items : List Item) : Outcome Expression :=
  (continuingStep minimum left items).val

/-- An operand with one sign behind it and what belongs to that sign. -/
def extend (left : Expression) (token : Token) (items : List Item) : Outcome Expression :=
  (extendStep left token items).val

/-- The arguments of a call behind its opening parenthesis, to the closing one. -/
def arguments (items : List Item) : Outcome (List Expression) :=
  (argumentsStep items).val

/-- One argument or more, to the closing parenthesis. -/
def argumentList (items : List Item) : Outcome (List Expression) :=
  (argumentListStep items).val

/-- An expression is an operand and what follows it. -/
theorem binding_eq (minimum : Nat) (items : List Item) :
    binding minimum items
      = (advance .expression items).andThen fun token rest =>
          (operand token rest).andThen (continuing minimum) := by
  rw [binding, bindingStep.eq_def]
  match items with
  | [] => rfl
  | .error error :: rest => rfl
  | .ok token :: rest =>
      exact Step.val_andThen _ _ _ (continuing minimum) fun left behind shorter => rfl

/-- An operand is a number, a text, a name or an expression in parentheses. -/
theorem operand_eq (token : Token) (items : List Item) :
    operand token items
      = match token.kind with
        | .number value => .done (.number value) items
        | .text contents => .done (.text contents) items
        | .identifier spelling => .done (.name spelling) items
        | .delimiter .openParen =>
            (binding 0 items).andThen fun inner behind =>
              (consume (.delimiter .closeParen) behind).map fun _ => inner
        | _ => .failed (.expected .expression token) items := by
  rw [operand, operandStep]
  split
  · rfl
  · rfl
  · rfl
  · exact Step.val_andThen _ _ _ _ fun inner behind shorter => rfl
  · rfl

/-- An operand is extended as long as the next token binds more strongly than the bound. -/
theorem continuing_eq (minimum : Nat) (left : Expression) (items : List Item) :
    continuing minimum left items
      = match items with
        | [] => .done left []
        | .error error :: rest => .failed (.lexical error) (.error error :: rest)
        | .ok token :: rest =>
            if token.kind.precedence ≤ minimum then .done left (.ok token :: rest)
            else (extend left token rest).andThen (continuing minimum) := by
  rw [continuing, continuingStep.eq_def]
  match items with
  | [] => rfl
  | .error error :: rest => rfl
  | .ok token :: rest =>
      dsimp only
      split
      · rfl
      · exact Step.val_andThen _ _ _ (continuing minimum) fun longer behind shorter => rfl

/-- An operator takes a right operand, an opening parenthesis takes arguments. -/
theorem extend_eq (left : Expression) (token : Token) (items : List Item) :
    extend left token items
      = match token.kind with
        | .operator infixSign =>
            (binding token.kind.precedence items).map fun right => .binary left infixSign right
        | .delimiter .openParen => (arguments items).map fun values => .call left values
        | _ => .failed (.expected .expression token) items := by
  rw [extend, extendStep]
  split
  · exact Step.val_andThen _ _ _ _ fun right behind shorter => rfl
  · exact Step.val_andThen _ _ _ _ fun values behind shorter => rfl
  · rfl

/-- Behind an opening parenthesis stands the closing one, or one argument or more. -/
theorem arguments_eq (items : List Item) :
    arguments items
      = match items with
        | [] => argumentList []
        | .error error :: rest => .failed (.lexical error) (.error error :: rest)
        | .ok token :: rest =>
            if token.kind = .delimiter .closeParen then .done [] rest
            else argumentList (.ok token :: rest) := by
  rw [arguments, argumentsStep.eq_def]
  match items with
  | [] => rfl
  | .error error :: rest => rfl
  | .ok token :: rest =>
      dsimp only
      split <;> rfl

/-- Arguments are separated by commas and closed by a parenthesis. -/
theorem argumentList_eq (items : List Item) :
    argumentList items
      = (binding 0 items).andThen fun argument behind =>
          (advance .argumentSeparator behind).andThen fun token rest =>
            match token.kind with
            | .delimiter .comma => (argumentList rest).map fun others => argument :: others
            | .delimiter .closeParen => .done [argument] rest
            | _ => .failed (.expected .argumentSeparator token) rest := by
  rw [argumentList, argumentListStep]
  refine Step.val_andThen _ _ _ _ fun argument behind shorter => ?_
  match behind, shorter with
  | [], shorter => rfl
  | .error error :: rest, shorter => rfl
  | .ok token :: rest, shorter =>
      simp only [advance, Outcome.andThen_done]
      split
      · exact Step.val_andThen _ _ _ _ fun others after fewer => rfl
      · rfl
      · rfl

/-! ## Bounds on the items left -/

/-- An expression uses up an item or more. -/
theorem binding_within (minimum : Nat) (items : List Item) :
    (binding minimum items).Within items.length :=
  (bindingStep minimum items).property

/-- An expression uses up an item or more. -/
theorem expression_within (items : List Item) : (expression items).Within items.length :=
  binding_within 0 items

end StackLang.Parse
