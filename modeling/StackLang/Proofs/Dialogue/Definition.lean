import StackLang.Proofs.Dialogue.Statement
import StackLang.Proofs.Grammar.Finality

/-! # Dialogues for definitions

Each dialogue for a definition or for a whole text mirrors the parser of it.

* `mirrors_parameters`, `mirrors_definition`, `mirrors_module` — definitions and whole texts.
* `gathered`, `mirrors_definitions` — the definitions up to the first error, with that error. -/

namespace StackLang.Dialogue

open Grammar (separated parameterList_eq module_eq)

/-! ## Parameters -/

theorem mirrors_parameterList (reading : Reading) :
    Mirrors parameterList (Parse.parameterList reading.unread) (fun _ => 6) 1 reading := by
  rw [parameterList_eq]
  refine .deeper ?_
  simp only [parameterList]
  refine (mirrors_identifier reading).bind (by decide) fun name behind hname => ?_
  have hfewer := (Parse.identifier_within _).length_lt hname
  refine (mirrors_advance behind _).bind (by decide) fun token rest htoken => ?_
  have hshorter := (Parse.advance_within _ _).length_lt htoken
  cases token.kind with
  | number _ | text _ | identifier _ | keyword _ | operator _ => exact .throw _ (by decide)
  | delimiter separator =>
      cases separator with
      | comma =>
          refine (mirrors_parameterList rest).bind (by decide) fun others left _ => ?_
          exact .pure _ (by decide)
      | closeParen => exact .pure [name] (by decide)
      | openParen | openBracket | closeBracket | equals | terminator =>
          exact .throw _ (by decide)
termination_by reading.unread.length
decreasing_by omega

theorem parameters_told (items : List Item) :
    Parse.parameters items
      = ((told items items).map fun found =>
          found.any fun token => token.kind = .delimiter .closeParen).andThen fun closed rest =>
        if closed then (Parse.advance .identifier rest).map fun _ => []
        else Parse.parameterList rest := by
  match items with
  | [] => rfl
  | .error error :: rest => rfl
  | .ok token :: rest =>
      by_cases hclose : token.kind = .delimiter .closeParen
      · simp [told, hclose, Parse.parameters, Parse.advance]
      · simp [told, hclose, Parse.parameters]

theorem mirrors_parameters (reading : Reading) :
    Mirrors parameters (Parse.parameters reading.unread) (fun _ => 2) 2 reading := by
  rw [parameters_told]
  refine (mirrors_nextIs reading _).bind (by decide) fun closed rest _ => ?_
  cases closed with
  | true =>
      refine (mirrors_advance rest _).bind (by decide) fun _ behind _ => ?_
      exact .pure [] (by decide)
  | false => exact (mirrors_parameterList rest).mono (by simp) (by simp)

/-! ## Definitions -/

theorem mirrors_definitionTail (reading : Reading) :
    Mirrors definitionTail (Parse.definitionTail reading.unread) (fun _ => 13) 1 reading := by
  refine (mirrors_identifier reading).bind (by decide) fun name first _ => ?_
  refine (mirrors_consume first _).bind (by decide) fun _ second _ => ?_
  refine (mirrors_parameters second).bind (by decide) fun names third _ => ?_
  refine (mirrors_consume third _).bind (by decide) fun _ fourth _ => ?_
  refine (mirrors_statements fourth).bind (by decide) fun body left _ => ?_
  exact .pure _ (by decide)

theorem definition_told (items : List Item) :
    Parse.definition items
      = (told items items).andThen fun found rest =>
        match found with
        | none => .done none rest
        | some token =>
            if token.kind = .delimiter .terminator then
              (Parse.advance .definition rest).andThen fun _ => Parse.definition
            else
              (Parse.advance .definition rest).andThen fun word behind =>
                if word.kind = .keyword .defunWord then (Parse.definitionTail behind).map some
                else .failed (.expected .definition word) behind := by
  rw [Parse.definition.eq_def]
  rcases items with _ | ⟨error | token, rest⟩
  · rfl
  · rfl
  · cases hkind : token.kind with
    | keyword reserved => cases reserved <;> simp [told, Parse.advance, hkind]
    | delimiter separator => cases separator <;> simp [told, Parse.advance, hkind]
    | number _ | text _ | identifier _ | operator _ => simp [told, Parse.advance, hkind]

theorem mirrors_definition (reading : Reading) :
    Mirrors definition (Parse.definition reading.unread)
      (fun found => if found.isSome then 0 else -1) 2 reading := by
  rw [definition_told]
  refine .deeper ?_
  simp only [definition]
  refine (mirrors_peek reading).bind (by decide) fun found rest hfound => ?_
  have hsame : rest.unread.length = reading.unread.length := congrArg _ (rest_of_told hfound)
  cases found with
  | none => exact .pure none (by decide)
  | some token =>
      by_cases hterminator : token.kind = .delimiter .terminator
      · simp only [if_pos hterminator]
        refine (mirrors_advance rest _).bind (by decide) fun _ behind htoken => ?_
        have hfewer := (Parse.advance_within _ _).length_lt htoken
        exact (mirrors_definition behind).mono (fun found => by omega) (by decide)
      · simp only [if_neg hterminator]
        refine (mirrors_advance rest _).bind (by decide) fun word behind _ => ?_
        by_cases hword : word.kind = .keyword .defunWord
        · simp only [if_pos hword]
          have hsome : Mirrors (fun depth => some <$> definitionTail depth)
              ((Parse.definitionTail behind.unread).map some) (fun _ => 13) 1 behind :=
            (mirrors_definitionTail behind).map fun _ => by decide
          exact hsome.mono (fun found => by split <;> decide) (by decide)
        · simp only [if_neg hword]
          exact .throw _ (by decide)
termination_by reading.unread.length
decreasing_by omega

theorem mirrors_module (reading : Reading) :
    Mirrors module (Parse.module reading.unread) (fun _ => -1) 2 reading := by
  rw [module_eq]
  refine .deeper ?_
  simp only [module]
  refine (mirrors_definition reading).bind (by decide) fun found rest hfound => ?_
  cases found with
  | none => exact .pure [] (by decide)
  | some first =>
      have hfewer := Parse.length_lt_of_definition hfound
      refine (mirrors_module rest).bind (by simp) fun others left _ => ?_
      exact .pure _ (by simp)
termination_by reading.unread.length
decreasing_by omega

/-! ## Definitions up to an error -/

theorem mirrors_attempt {α : Type} {program : Nat → Program α} {outcome : Outcome α}
    {gain : α → Int} {slack : Int} {reading : Reading}
    (h : Mirrors program outcome gain slack reading) :
    Mirrors (fun depth => attempt (program depth)) (.done outcome.result outcome.rest)
      (fun ending =>
        match ending with
        | .ok value => gain value
        | .error _ => -slack) 0 reading := by
  obtain ⟨calls, ⟨enough, hends⟩, hunread, hcost⟩ := h
  refine ⟨calls, ⟨enough, fun depth hdepth => ?_⟩, hunread, ?_⟩
  · rw [on_attempt, hends depth hdepth]
    rfl
  · cases outcome with
    | done value rest => exact hcost
    | failed error rest =>
        simp only [Outcome.Affords, Outcome.result, Outcome.rest] at hcost ⊢
        omega

theorem eq_done_of_result {α : Type} {outcome : Outcome α} {value : α} {rest : List Item}
    (h : (.done outcome.result outcome.rest : Outcome (Except ParseError α))
      = .done (.ok value) rest) : outcome = .done value rest := by
  cases outcome with
  | done found left =>
      cases h
      rfl
  | failed error left => cases h

/-- The error of a failure. -/
def failure? {α : Type} : Outcome α → Option ParseError
  | .done _ _ => none
  | .failed error _ => some error

/-- The definitions up to the end of the text or to the first error, and that error. -/
def gathered (items : List Item) : Outcome (List Definition × Option ParseError) :=
  let (found, ending) := Parse.definitions items
  .done (found, failure? ending) ending.rest

theorem gathered_told (items : List Item) :
    gathered items
      = (Outcome.done (Parse.definition items).result (Parse.definition items).rest).andThen
        fun ending rest =>
        match ending with
        | .ok none => .done ([], none) rest
        | .error error => .done ([], some error) rest
        | .ok (some first) =>
            (gathered rest).andThen fun (others, failure) behind =>
              .done (first :: others, failure) behind := by
  rw [gathered, Parse.definitions_eq]
  cases Parse.definition items with
  | failed error rest => rfl
  | done found rest => cases found <;> rfl

theorem mirrors_definitions (reading : Reading) :
    Mirrors definitions (gathered reading.unread) (fun _ => -2) 0 reading := by
  rw [gathered_told]
  refine .deeper ?_
  simp only [definitions]
  refine (mirrors_attempt (mirrors_definition reading)).bind (by decide) fun ending rest hend => ?_
  cases ending with
  | error error => exact .pure _ (by simp)
  | ok found =>
      cases found with
      | none => exact .pure _ (by decide)
      | some first =>
          have hfewer := Parse.length_lt_of_definition (eq_done_of_result hend)
          refine (mirrors_definitions rest).bind (by simp) fun others left _ => ?_
          exact .pure _ (by simp)
termination_by reading.unread.length
decreasing_by omega

end StackLang.Dialogue
