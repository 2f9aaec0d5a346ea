import StackLang.Proofs.Grammar.Statement

/-! # Parsing definitions and the grammar

A definition is parsed part by part, and a text definition by definition, terminators aside.

* `parameters_done_iff`, `definitionTail_done_iff` — what is parsed is what is spelled.
* `definitions_done_iff` — a text is read to its end just if it is spelled.
* `module_exact` — which texts are parsed and into what; all others are refused. -/

namespace StackLang.Grammar

open Parse

/-! ## Parameters -/

/-- One parameter or more, with the closing parenthesis. -/
theorem parameterList_done_iff {items rest : List Item} {names : List String} :
    parameterList items = .done names rest
      ↔ ∃ kinds, Reads (kinds ++ [.delimiter .closeParen]) items rest
        ∧ SpellsParameters kinds names := by
  constructor
  · intro h
    fun_induction parameterList items generalizing names with
    | case1 => cases h
    | case2 => cases h
    | case3 => cases h
    | case4 => cases h
    | case5 token name hname separator behind hcomma ih =>
        obtain ⟨others, hothers, rfl⟩ := map_eq_done h
        obtain ⟨kinds, hreads, hspelled⟩ := ih hothers
        exact ⟨_, .cons hname (.cons hcomma hreads), .more name hspelled⟩
    | case6 token name hname separator behind hclose =>
        cases h
        exact ⟨[.identifier name], .cons hname (.single hclose), .last name⟩
    | case7 => cases h
    | case8 => cases h
  · rintro ⟨kinds, hreads, hspelled⟩
    induction hspelled generalizing items with
    | last name =>
        obtain ⟨token, _, rfl, hname, close, _, rfl, hclose, rfl⟩ := hreads
        rw [parameterList, hname]
        dsimp only
        rw [hclose]
    | more name _ ih =>
        obtain ⟨token, _, rfl, hname, separator, behind, rfl, hcomma, hbehind⟩ := hreads
        rw [parameterList, hname]
        dsimp only
        rw [hcomma]
        dsimp only
        rw [ih hbehind, Outcome.map_done]

/-- All parameters, with the closing parenthesis. -/
theorem parameters_done_iff {items rest : List Item} {names : List String} :
    parameters items = .done names rest
      ↔ Reads [.delimiter .closeParen] items rest ∧ names = []
        ∨ ∃ kinds, Reads (kinds ++ [.delimiter .closeParen]) items rest
          ∧ SpellsParameters kinds names := by
  rw [← parameterList_done_iff]
  match items with
  | [] => simp [parameters, parameterList, Reads]
  | .error error :: behind => simp [parameters, parameterList, Reads]
  | .ok token :: behind =>
      rw [parameters]
      by_cases hclose : token.kind = .delimiter .closeParen
      · -- No parameter starts with the parenthesis.
        have hlist : parameterList (.ok token :: behind)
            = .failed (.expected .identifier token) behind := by
          rw [parameterList, hclose]
        rw [if_pos hclose, hlist]
        constructor
        · intro h
          cases h
          exact .inl ⟨.single hclose, rfl⟩
        · rintro (⟨hreads, rfl⟩ | h)
          · obtain ⟨_, _, hsame, -, rfl⟩ := hreads
            cases hsame
            rfl
          · cases h
      · rw [if_neg hclose]
        constructor
        · exact .inr
        · rintro (⟨hreads, -⟩ | h)
          · obtain ⟨_, _, hsame, hkind, -⟩ := hreads
            cases hsame
            exact absurd hkind hclose
          · exact h

/-! ## Definitions -/

/-- The part of a definition behind its first word. -/
theorem definitionTail_done_iff {items rest : List Item} {found : Definition} :
    definitionTail items = .done found rest
      ↔ ∃ kinds, Reads kinds items rest
          ∧ SpellsDefinition (.keyword .defunWord :: kinds) found := by
  constructor
  · intro h
    obtain ⟨name, afterName, hname, h⟩ := andThen_eq_done h
    obtain ⟨_, inside, hopen, h⟩ := andThen_eq_done h
    obtain ⟨parameters, afterParameters, hparameters, h⟩ := andThen_eq_done h
    obtain ⟨_, start, hequals, h⟩ := andThen_eq_done h
    obtain ⟨body, hbody, rfl⟩ := map_eq_done h
    obtain ⟨text, hreads, hspelled⟩ := statements_done_iff.mp hbody
    have hhead : Reads [.identifier name, .delimiter .openParen] items inside :=
      reads_cons.mpr
        ⟨afterName, identifier_done_iff.mp hname, consume_done_iff.mp hopen⟩
    have htail : Reads (.delimiter .equals :: text) afterParameters rest :=
      reads_cons.mpr
        ⟨start, consume_done_iff.mp hequals, hreads⟩
    rcases parameters_done_iff.mp hparameters with ⟨hclose, rfl⟩ | ⟨kinds, hkinds, hparams⟩
    · exact ⟨_, reads_append.mpr ⟨inside, hhead, reads_append.mpr ⟨_, hclose, htail⟩⟩,
        .plain name hspelled⟩
    · refine ⟨_, reads_append.mpr ⟨inside, hhead, reads_append.mpr ⟨_, hkinds, htail⟩⟩, ?_⟩
      rw [List.append_assoc]
      exact .parametric name hparams hspelled
  · rintro ⟨kinds, hreads, hspelled⟩
    cases hspelled with
    | plain name hbody =>
        obtain ⟨afterName, hname, hreads⟩ := reads_cons.mp hreads
        obtain ⟨inside, hopen, hreads⟩ := reads_cons.mp hreads
        obtain ⟨behind, hclose, hreads⟩ := reads_cons.mp hreads
        obtain ⟨start, hequals, hreads⟩ := reads_cons.mp hreads
        rw [definitionTail, identifier_done_iff.mpr hname, Outcome.andThen_done,
          consume_done_iff.mpr hopen, Outcome.andThen_done,
          parameters_done_iff.mpr (.inl ⟨hclose, rfl⟩), Outcome.andThen_done,
          consume_done_iff.mpr hequals, Outcome.andThen_done,
          statements_done_iff.mpr ⟨_, hreads, hbody⟩, Outcome.map_done]
    | @parametric names text _ _ name hparams hbody =>
        obtain ⟨afterName, hname, hreads⟩ := reads_cons.mp hreads
        obtain ⟨inside, hopen, hreads⟩ := reads_cons.mp hreads
        change Reads (names ++ .delimiter .closeParen :: .delimiter .equals :: text) inside rest
          at hreads
        rw [List.append_cons] at hreads
        obtain ⟨behind, hclose, hreads⟩ := reads_append.mp hreads
        obtain ⟨start, hequals, hreads⟩ := reads_cons.mp hreads
        rw [definitionTail, identifier_done_iff.mpr hname, Outcome.andThen_done,
          consume_done_iff.mpr hopen, Outcome.andThen_done,
          parameters_done_iff.mpr (.inr ⟨_, hclose, hparams⟩), Outcome.andThen_done,
          consume_done_iff.mpr hequals, Outcome.andThen_done,
          statements_done_iff.mpr ⟨_, hreads, hbody⟩, Outcome.map_done]

/-- Every definition starts with its word. -/
theorem SpellsDefinition.exists_cons {kinds : List TokenKind} {found : Definition}
    (h : SpellsDefinition kinds found) : ∃ behind, kinds = .keyword .defunWord :: behind := by
  cases h with
  | plain _ _ => exact ⟨_, rfl⟩
  | parametric _ _ _ => exact ⟨_, rfl⟩

/-! ## Whole texts -/

theorem definitions_terminator {token : Token} {rest : List Item}
    (hkind : token.kind = .delimiter .terminator) :
    definitions (.ok token :: rest) = definitions rest := by
  have hdefinition : definition (.ok token :: rest) = definition rest := by
    rw [definition, hkind]
  rw [definitions_eq, hdefinition, ← definitions_eq]

theorem definitions_definition {token : Token} {items rest : List Item} {found : Definition}
    (hkind : token.kind = .keyword .defunWord) (h : definitionTail items = .done found rest) :
    definitions (.ok token :: items) = (found :: (definitions rest).1, (definitions rest).2) := by
  have hdefinition : definition (.ok token :: items) = .done (some found) rest := by
    rw [definition, hkind]
    dsimp only
    rw [h, Outcome.map_done]
  rw [definitions_eq, hdefinition]

theorem definitions_nil : definitions [] = ([], .done () []) := by
  rw [definitions_eq]
  rfl

/-- A text that is read to its end is spelled. -/
theorem definitions_sound {items rest : List Item} {found : List Definition}
    (h : definitions items = (found, .done () rest)) :
    rest = [] ∧ ∃ kinds, Reads kinds items [] ∧ SpellsModule kinds found := by
  match items with
  | [] =>
      rw [definitions_nil] at h
      cases h
      exact ⟨rfl, [], rfl, .nil⟩
  | .error _ :: _ =>
      rw [definitions_eq] at h
      cases h
  | .ok token :: behind =>
      -- A text goes on with a terminator or with a definition, and with nothing else.
      by_cases hterminator : token.kind = .delimiter .terminator
      · rw [definitions_terminator hterminator] at h
        obtain ⟨hrest, kinds, hreads, hspelled⟩ := definitions_sound h
        exact ⟨hrest, _, .cons hterminator hreads, .terminator hspelled⟩
      · by_cases hword : token.kind = .keyword .defunWord
        · cases htail : definitionTail behind with
          | failed error after =>
              rw [definitions_eq, definition, hword] at h
              simp [htail] at h
          | done first after =>
              have hshorter : after.length < behind.length := by
                have hwithin := definitionTail_within behind
                rwa [htail] at hwithin
              rw [definitions_definition hword htail] at h
              obtain ⟨rfl, hending⟩ := Prod.mk.inj h
              obtain ⟨hrest, kinds, hreads, hspelled⟩ := definitions_sound (Prod.ext rfl hending)
              obtain ⟨start, hstart, hdefinition⟩ := definitionTail_done_iff.mp htail
              exact ⟨hrest, _, reads_append.mpr ⟨after, .cons hword hstart, hreads⟩,
                .definition hdefinition hspelled⟩
        · have hdefinition : definition (.ok token :: behind)
              = .failed (.expected .definition token) behind := by
            rw [definition]
            split
            · next hkind => exact absurd hkind hterminator
            · next hkind => exact absurd hkind hword
            · rfl
          rw [definitions_eq, hdefinition] at h
          cases h
termination_by items.length
decreasing_by all_goals simp only [List.length_cons]; omega

/-- A text that is spelled is read to its end. -/
theorem SpellsModule.read {kinds : List TokenKind} {found : Module} (h : SpellsModule kinds found)
    {items : List Item} (hreads : Reads kinds items []) :
    definitions items = (found, .done () []) := by
  induction h generalizing items with
  | nil =>
      rw [reads_nil.mp hreads]
      exact definitions_nil
  | terminator _ ih =>
      obtain ⟨token, behind, rfl, hkind, hbehind⟩ := hreads
      rw [definitions_terminator hkind]
      exact ih hbehind
  | definition hfirst _ ih =>
      obtain ⟨middle, hstart, hrest⟩ := reads_append.mp hreads
      obtain ⟨text, rfl⟩ := hfirst.exists_cons
      obtain ⟨token, behind, rfl, hkind, hbehind⟩ := hstart
      rw [definitions_definition hkind (definitionTail_done_iff.mpr ⟨text, hbehind, hfirst⟩),
        ih hrest]

/-- A text is read to its end just if it is spelled by all its items. -/
theorem definitions_done_iff {items : List Item} {found : List Definition} :
    definitions items = (found, .done () [])
      ↔ ∃ kinds, Reads kinds items [] ∧ SpellsModule kinds found := by
  constructor
  · intro h
    exact (definitions_sound h).2
  · rintro ⟨kinds, hreads, hspelled⟩
    exact hspelled.read hreads

/-- A text is parsed just if it is spelled by all its items. -/
theorem module_done_iff {items rest : List Item} {found : Module} :
    module items = .done found rest
      ↔ rest = [] ∧ ∃ kinds, Reads kinds items [] ∧ SpellsModule kinds found := by
  constructor
  · intro h
    obtain ⟨_, hending, rfl⟩ := map_eq_done h
    exact definitions_sound (Prod.ext rfl hending)
  · rintro ⟨rfl, kinds, hreads, hspelled⟩
    rw [module, hspelled.read hreads]
    rfl

/-- Kinds spell one module at most. -/
theorem SpellsModule.unique {kinds : List TokenKind} {first second : Module}
    (hfirst : SpellsModule kinds first) (hsecond : SpellsModule kinds second) : first = second := by
  -- Any text with these tokens will do, wherever they stand.
  have hreads := reads_tokensOf_append kinds []
  have hsame := (hfirst.read hreads).symm.trans (hsecond.read hreads)
  exact (Prod.mk.inj hsame).1

/-- A text is parsed into a module just if all of it is tokens and these spell the module. They
spell no other one, and every text that is not spelled is refused with an error. -/
theorem module_exact (items : List Item) :
    (∀ found, module items = .done found []
      ↔ ∃ kinds, items.map Item.content = kinds.map .ok ∧ SpellsModule kinds found)
    ∧ (∀ found rest, module items = .done found rest → rest = [])
    ∧ (∀ kinds first second, SpellsModule kinds first → SpellsModule kinds second →
        first = second)
    ∧ ((∃ error rest, module items = .failed error rest)
      ↔ ¬ ∃ kinds found, items.map Item.content = kinds.map .ok ∧ SpellsModule kinds found) := by
  have hexact : ∀ found, module items = .done found []
      ↔ ∃ kinds, items.map Item.content = kinds.map .ok ∧ SpellsModule kinds found := by
    intro found
    rw [module_done_iff]
    simp only [true_and, reads_end_iff]
  refine ⟨hexact, ?_, ?_, ?_⟩
  · intro found rest h
    exact (module_done_iff.mp h).1
  · intro kinds first second hfirst hsecond
    exact hfirst.unique hsecond
  · constructor
    · rintro ⟨error, rest, hfailed⟩ ⟨kinds, found, hspelled⟩
      rw [(hexact found).mpr ⟨kinds, hspelled⟩] at hfailed
      cases hfailed
    · intro hnone
      cases hmodule : module items with
      | failed error rest => exact ⟨error, rest, rfl⟩
      | done found rest =>
          obtain rfl := (module_done_iff.mp hmodule).1
          obtain ⟨kinds, hspelled⟩ := (hexact found).mp hmodule
          exact absurd ⟨kinds, found, hspelled⟩ hnone

/-- `defun f() = return end ;` with a `return` before the word `end` and a terminator at the end. -/
theorem module_exact_return :
    let kinds : List TokenKind := [.keyword .defunWord, .identifier "f", .delimiter .openParen,
      .delimiter .closeParen, .delimiter .equals, .keyword .returnWord, .keyword .endWord,
      .delimiter .terminator]
    let items : List Item := kinds.map fun kind => .ok ⟨kind, ⟨⟨1, 1⟩, ⟨1, 1⟩⟩⟩
    let found : Module := [⟨"f", [], [.returning none]⟩]
    SpellsModule kinds found ∧ module items = .done found [] ∧ ([] : List Item) = []
      ∧ found = [⟨"f", [], [.returning none]⟩]
      ∧ ¬ ∃ error rest, module items = .failed error rest := by
  intro kinds items found
  have hspelled : SpellsModule kinds found :=
    .definition (.plain "f" (.statement .returning .close)) (.terminator .nil)
  obtain ⟨hdone, hrest, hunique, hfailed⟩ := module_exact items
  have hmodule : module items = .done found [] := (hdone found).mpr ⟨kinds, rfl, hspelled⟩
  refine ⟨hspelled, hmodule, hrest found [] hmodule, hunique kinds _ _ hspelled hspelled, ?_⟩
  intro h
  exact hfailed.mp h ⟨kinds, found, rfl, hspelled⟩

end StackLang.Grammar
