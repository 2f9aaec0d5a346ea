import StackLang.Parse.Statement

/-! # Parsing definitions

* `Parse.definition` — the next definition, or nothing at the end of the text.
* `Parse.definitions` — the definitions up to the end of the text or to the first error.
* `Parse.module` — all definitions, if there is no error. -/

namespace StackLang.Parse

/-- One parameter or more, to the closing parenthesis. -/
def parameterList (items : List Item) : Outcome (List String) :=
  match items with
  | [] => .failed (.unexpectedEnd .identifier) []
  | .error error :: rest => .failed (.lexical error) rest
  | .ok token :: rest =>
      match token.kind with
      | .identifier name =>
          match rest with
          | [] => .failed (.unexpectedEnd .argumentSeparator) []
          | .error error :: behind => .failed (.lexical error) behind
          | .ok separator :: behind =>
              match separator.kind with
              | .delimiter .comma => (parameterList behind).map fun others => name :: others
              | .delimiter .closeParen => .done [name] behind
              | _ => .failed (.expected .argumentSeparator separator) behind
      | _ => .failed (.expected .identifier token) rest

/-- The parameters of a definition behind the opening parenthesis, to the closing one. -/
def parameters (items : List Item) : Outcome (List String) :=
  match items with
  | .error error :: rest => .failed (.lexical error) (.error error :: rest)
  | .ok token :: rest =>
      if token.kind = .delimiter .closeParen then .done [] rest
      else parameterList (.ok token :: rest)
  | [] => parameterList []

/-- The part of a definition behind the word `defun`. -/
def definitionTail (items : List Item) : Outcome Definition :=
  (identifier items).andThen fun name afterName =>
    (consume (.delimiter .openParen) afterName).andThen fun _ inside =>
      (parameters inside).andThen fun names afterParameters =>
        (consume (.delimiter .equals) afterParameters).andThen fun _ start =>
          (statements start).map fun body => ⟨name, names, body⟩

/-- The next definition, past any terminators; nothing at the end of the text. -/
def definition : List Item → Outcome (Option Definition)
  | [] => .done none []
  | .error error :: rest => .failed (.lexical error) (.error error :: rest)
  | .ok token :: rest =>
      match token.kind with
      | .delimiter .terminator => definition rest
      | .keyword .defunWord => (definitionTail rest).map some
      | _ => .failed (.expected .definition token) rest

/-! ## Bounds on the items left -/

theorem parameterList_within (items : List Item) :
    (parameterList items).Within items.length := by
  fun_induction parameterList items with
  | case1 => exact Nat.le_refl _
  | case2 error rest => exact Nat.le_succ _
  | case3 token name kind => exact Nat.le_succ _
  | case4 token name kind error behind => exact Nat.le_trans (Nat.le_succ _) (Nat.le_succ _)
  | case5 token name kind separator behind comma induction =>
      exact induction.map.mono (Nat.le_trans (Nat.le_succ _) (Nat.le_succ _))
  | case6 token name kind separator behind close =>
      exact Nat.lt_succ_of_lt (Nat.lt_succ_self _)
  | case7 token name kind separator behind => exact Nat.le_trans (Nat.le_succ _) (Nat.le_succ _)
  | case8 token rest => exact Nat.le_succ _

theorem parameters_within (items : List Item) : (parameters items).Within items.length := by
  match items with
  | [] => exact parameterList_within []
  | .error error :: rest => exact Nat.le_refl _
  | .ok token :: rest =>
      simp only [parameters]
      split
      · exact Nat.lt_succ_self _
      · exact parameterList_within _

theorem definitionTail_within (items : List Item) :
    (definitionTail items).Within items.length :=
  (identifier_within items).andThen (Nat.le_refl _) fun _ afterName shorter =>
    ((consume_within _ afterName).andThen (Nat.le_refl _) fun _ inside fewer =>
      ((parameters_within inside).andThen (Nat.le_refl _) fun _ afterParameters less =>
        ((consume_within _ afterParameters).andThen (Nat.le_refl _) fun _ start lower =>
          (statements_within start).map.mono (Nat.le_of_lt lower)).mono
            (Nat.le_of_lt less)).mono (Nat.le_of_lt fewer)).mono (Nat.le_of_lt shorter)

/-- A definition uses up an item or more. -/
theorem length_lt_of_definition {items rest : List Item} {found : Definition}
    (parsed : definition items = .done (some found) rest) : rest.length < items.length := by
  fun_induction definition items with
  | case1 => cases parsed
  | case2 error rest => cases parsed
  | case3 token behind kind induction => exact Nat.lt_succ_of_lt (induction parsed)
  | case4 token behind kind =>
      have within : ((definitionTail behind).map some).Within behind.length :=
        (definitionTail_within behind).map
      rw [parsed] at within
      exact Nat.lt_succ_of_lt within
  | case5 token behind => cases parsed

/-- The definitions up to the end of the text or to the first error, and which of the two it is. -/
def definitions (items : List Item) : List Definition × Outcome Unit :=
  match _parsed : definition items with
  | .done none rest => ([], .done () rest)
  | .failed error rest => ([], .failed error rest)
  | .done (some found) rest =>
      let (others, ending) := definitions rest
      (found :: others, ending)
termination_by items.length
decreasing_by exact length_lt_of_definition _parsed

/-- Reading definitions one by one. -/
theorem definitions_eq (items : List Item) :
    definitions items
      = match definition items with
        | .done none rest => ([], .done () rest)
        | .failed error rest => ([], .failed error rest)
        | .done (some found) rest => (found :: (definitions rest).1, (definitions rest).2) := by
  rw [definitions]
  split <;> simp [*]

/-- All definitions of a source text. -/
def module (items : List Item) : Outcome Module :=
  let (found, ending) := definitions items
  ending.map fun _ => found

end StackLang.Parse
