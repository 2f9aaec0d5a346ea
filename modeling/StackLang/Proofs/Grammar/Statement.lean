import StackLang.Proofs.Grammar.Expression

/-! # Parsing statements and the grammar

A statement is parsed by its first token, and a body statement by statement up to its `end`. A body
is never empty, so there is always a token behind a statement in it. A statement alone may be the
last of a text.

* `SpellsAlone` — statements, whatever comes next.
* `statement_sound`, `statements_sound` — what is parsed is spelled.
* `SpellsStatement.parses`, `SpellsBody.parses` — what is spelled is parsed.
* `statements_done_iff` — a body is parsed just if it is spelled. -/

namespace StackLang.Grammar

open Parse

/-! ## Statements apart from what comes next -/

/-- The kinds spell a statement, whatever the next token is. -/
inductive SpellsAlone : List TokenKind → Statement → Prop
  /-- `let name = initializer` -/
  | binding {kinds : List TokenKind} {initializer : Expression} (name : String)
      (h : SpellsExpression 0 kinds initializer) :
      SpellsAlone (.keyword .letWord :: .identifier name :: .delimiter .equals :: kinds)
        (.binding name initializer)
  /-- `return ;` -/
  | returningTerminated :
      SpellsAlone [.keyword .returnWord, .delimiter .terminator] (.returning none)
  /-- `return` -/
  | returning : SpellsAlone [.keyword .returnWord] (.returning none)
  /-- `return value` -/
  | returningValue {kinds : List TokenKind} {value : Expression}
      (h : SpellsExpression 0 kinds value) :
      SpellsAlone (.keyword .returnWord :: kinds) (.returning (some value))
  /-- `do body end` -/
  | block {kinds : List TokenKind} {body : List Statement} (h : SpellsBody kinds body) :
      SpellsAlone (.keyword .doWord :: kinds) (.block body)
  /-- An expression. -/
  | expression {kinds : List TokenKind} {evaluated : Expression}
      (h : SpellsExpression 0 kinds evaluated) : SpellsAlone kinds (.expression evaluated)

/-! ## What is parsed is spelled -/

/-- The kinds spell the statement, whatever comes next; and if a token does, they spell it before
that token. -/
structure SpelledBefore (rest : List Item) (kinds : List TokenKind) (parsed : Statement) : Prop where
  /-- They spell the statement. -/
  alone : SpellsAlone kinds parsed
  /-- They spell it before the next token. -/
  before : ∀ next behind, rest = .ok next :: behind → SpellsStatement kinds next.kind parsed

/-- An expression that is parsed is spelled, before a token that cannot go on with it. -/
theorem expression_sound {items rest : List Item} {parsed : Expression}
    (h : expression items = .done parsed rest) :
    ∃ kinds, Reads kinds items rest ∧ SpellsExpression 0 kinds parsed
      ∧ ∀ next behind, rest = .ok next :: behind → ¬ Continues next.kind := by
  obtain ⟨⟨kinds, hreads, hspelled⟩, hstops⟩ := expression_done_iff.mp h
  refine ⟨kinds, hreads, hspelled, ?_⟩
  rintro next behind rfl
  exact stops_zero_cons_iff.mp hstops

theorem letStatement_sound {token : Token} {items rest : List Item} {parsed : Statement}
    (hkind : token.kind = .keyword .letWord) (h : letStatement items = .done parsed rest) :
    ∃ kinds, Reads kinds (.ok token :: items) rest ∧ SpelledBefore rest kinds parsed := by
  obtain ⟨name, afterName, hname, hrest⟩ := andThen_eq_done h
  obtain ⟨_, start, hequals, hvalue⟩ := andThen_eq_done hrest
  obtain ⟨initializer, hexpression, rfl⟩ := map_eq_done hvalue
  obtain ⟨kinds, hreads, hspelled, hnext⟩ := expression_sound hexpression
  have hhead : Reads [.identifier name, .delimiter .equals] items start :=
    reads_cons.mpr
      ⟨afterName, identifier_done_iff.mp hname, consume_done_iff.mp hequals⟩
  exact ⟨_, .cons hkind (reads_append.mpr ⟨start, hhead, hreads⟩), .binding name hspelled,
    fun next behind hrest => .binding name hspelled (hnext next behind hrest)⟩

theorem returnStatement_sound {token : Token} {items rest : List Item} {parsed : Statement}
    (hkind : token.kind = .keyword .returnWord) (h : returnStatement items = .done parsed rest) :
    ∃ kinds, Reads kinds (.ok token :: items) rest ∧ SpelledBefore rest kinds parsed := by
  match items with
  | [] =>
      cases h
      exact ⟨_, .single hkind, .returning, fun _ _ hrest => by cases hrest⟩
  | .error _ :: _ => cases h
  | .ok first :: behind =>
      -- A terminator is taken with the word, `end` is left for the body, else a value follows.
      simp only [returnStatement] at h
      split at h
      · next hfirst =>
          cases h
          exact ⟨_, .cons hkind (.single hfirst), .returningTerminated,
            fun next _ _ => .returningTerminated next.kind⟩
      · next hfirst =>
          cases h
          refine ⟨_, .single hkind, .returning, fun next behind hrest => ?_⟩
          cases hrest
          rw [hfirst]
          exact .returning
      · obtain ⟨value, hexpression, rfl⟩ := map_eq_done h
        obtain ⟨kinds, hreads, hspelled, hnext⟩ := expression_sound hexpression
        exact ⟨_, .cons hkind hreads, .returningValue hspelled,
          fun next behind hrest => .returningValue hspelled (hnext next behind hrest)⟩

/-- Where no statement is parsed there is a terminator. -/
theorem statement_none {items rest : List Item} (h : statement items = .done none rest) :
    Reads [.delimiter .terminator] items rest := by
  rw [statement_eq] at h
  match items with
  | [] => cases h
  | .error _ :: _ => cases h
  | .ok token :: behind =>
      -- With every other first token there is a statement or an error.
      dsimp only at h
      split at h
      · obtain ⟨_, -, hsome⟩ := map_eq_done h
        cases hsome
      · obtain ⟨_, -, hsome⟩ := map_eq_done h
        cases hsome
      · obtain ⟨_, -, hsome⟩ := map_eq_done h
        cases hsome
      · next hkind =>
          cases h
          exact .single hkind
      · cases h
      · obtain ⟨_, -, hsome⟩ := map_eq_done h
        cases hsome

/-- A body starts with some token. -/
theorem SpellsBody.exists_cons {kinds : List TokenKind} {body : List Statement}
    (h : SpellsBody kinds body) : ∃ next behind, kinds = next :: behind := by
  cases h with
  | close => exact ⟨_, _, rfl⟩
  | terminator _ => exact ⟨_, _, rfl⟩
  | @statement first _ _ _ _ _ _ =>
      cases first with
      | nil => exact ⟨_, _, rfl⟩
      | cons _ _ => exact ⟨_, _, rfl⟩

mutual

/-- A statement that is parsed is spelled, before any token that comes next. -/
theorem statement_sound {items rest : List Item} {parsed : Statement}
    (h : statement items = .done (some parsed) rest) :
    ∃ kinds, Reads kinds items rest ∧ SpelledBefore rest kinds parsed := by
  rw [statement_eq] at h
  match hitems : items with
  | [] => cases h
  | .error _ :: _ => cases h
  | .ok token :: behind =>
      have hlength : items.length = behind.length + 1 := by rw [hitems, List.length_cons]
      -- The first token tells the rule; only `do` leads back to bodies.
      dsimp only at h
      split at h
      · next hkind =>
          obtain ⟨_, hlet, hsome⟩ := map_eq_done h
          cases hsome
          exact letStatement_sound hkind hlet
      · next hkind =>
          obtain ⟨_, hreturn, hsome⟩ := map_eq_done h
          cases hsome
          exact returnStatement_sound hkind hreturn
      · next hkind =>
          obtain ⟨body, hbody, hsome⟩ := map_eq_done h
          cases hsome
          obtain ⟨kinds, hreads, hspelled⟩ := statements_sound hbody
          exact ⟨_, .cons hkind hreads, .block hspelled, fun next _ _ => .block next.kind hspelled⟩
      · cases h
      · cases h
      · obtain ⟨value, hexpression, hsome⟩ := map_eq_done h
        cases hsome
        obtain ⟨kinds, hreads, hspelled, hnext⟩ := expression_sound hexpression
        exact ⟨kinds, hreads, .expression hspelled,
          fun next behind hrest => .expression hspelled (hnext next behind hrest)⟩
termination_by 2 * items.length
decreasing_by all_goals omega

/-- A body that is parsed is spelled. -/
theorem statements_sound {items rest : List Item} {body : List Statement}
    (h : statements items = .done body rest) :
    ∃ kinds, Reads kinds items rest ∧ SpellsBody kinds body := by
  rw [statements_eq] at h
  match hitems : items with
  | [] => cases h
  | .error _ :: _ => cases h
  | .ok token :: behind =>
      have hlength : items.length = (Except.ok token :: behind : List Item).length := by rw [hitems]
      dsimp only at h
      split at h
      · next hkind =>
          cases h
          exact ⟨_, .single hkind, .close⟩
      · obtain ⟨first, middle, hfirst, hothers⟩ := andThen_eq_done h
        obtain ⟨others, hbody, rfl⟩ := map_eq_done hothers
        have hshorter : middle.length < (Except.ok token :: behind : List Item).length := by
          have hwithin := statement_within (.ok token :: behind)
          rwa [hfirst] at hwithin
        obtain ⟨kinds, hreads, hspelled⟩ := statements_sound hbody
        cases first with
        | none =>
            exact ⟨_, reads_append.mpr ⟨middle, statement_none hfirst, hreads⟩,
              .terminator hspelled⟩
        | some parsed =>
            -- What is left of the body is not empty, so a token stands behind the statement.
            obtain ⟨next, more, rfl⟩ := hspelled.exists_cons
            obtain ⟨nextToken, after, rfl, rfl, hmore⟩ := hreads
            obtain ⟨start, hstart, hstatement⟩ := statement_sound hfirst
            exact ⟨_, reads_append.mpr ⟨_, hstart, Reads.cons rfl hmore⟩,
              .statement (hstatement.before _ _ rfl) hspelled⟩
termination_by 2 * items.length + 1
decreasing_by all_goals omega

end

/-! ## What is spelled is parsed -/

/-- Where the kinds stand before the next token, the statement is parsed. -/
def ParsesStatement (kinds : List TokenKind) (next : TokenKind) (parsed : Statement) : Prop :=
  ∀ {items behind : List Item} {token : Token}, token.kind = next →
    Reads kinds items (.ok token :: behind) →
      statement items = .done (some parsed) (.ok token :: behind)

/-- Where the kinds stand, the body is parsed. -/
def ParsesBody (kinds : List TokenKind) (body : List Statement) : Prop :=
  ∀ {items rest : List Item}, Reads kinds items rest → statements items = .done body rest

/-- Before a token that cannot go on with it, an expression is parsed. -/
theorem expression_complete {kinds : List TokenKind} {parsed : Expression}
    {items behind : List Item} {token : Token} (h : SpellsExpression 0 kinds parsed)
    (hnext : ¬ Continues token.kind) (hreads : Reads kinds items (.ok token :: behind)) :
    expression items = .done parsed (.ok token :: behind) :=
  expression_done_iff.mpr ⟨⟨kinds, hreads, h⟩, stops_zero_cons_iff.mpr hnext⟩

/-- The first token of an expression is the start of an operand. -/
theorem start_of_expression {items rest : List Item} {parsed : Expression}
    (h : expression items = .done parsed rest) :
    ∃ token behind, items = .ok token :: behind ∧ (∀ reserved, token.kind ≠ .keyword reserved)
      ∧ token.kind ≠ .delimiter .terminator := by
  obtain ⟨⟨kinds, hreads, hspelled⟩, -⟩ := expression_done_iff.mp h
  obtain ⟨first, others, rfl, hstart⟩ := hspelled.exists_start
  obtain ⟨token, behind, rfl, rfl, -⟩ := hreads
  obtain ⟨hword, hterminator, -⟩ := hstart.ne
  exact ⟨token, behind, rfl, hword, hterminator⟩

/-- An expression stands as a statement. -/
theorem statement_of_expression {items rest : List Item} {parsed : Expression}
    (h : expression items = .done parsed rest) :
    statement items = .done (some (.expression parsed)) rest := by
  obtain ⟨token, behind, rfl, hword, hterminator⟩ := start_of_expression h
  rw [statement_eq]
  dsimp only
  split
  · next hkind => exact absurd hkind (hword _)
  · next hkind => exact absurd hkind (hword _)
  · next hkind => exact absurd hkind (hword _)
  · next hkind => exact absurd hkind hterminator
  · next hkind => exact absurd hkind (hword _)
  · rw [h, Outcome.map_done]

/-- An expression behind `return` is its value. -/
theorem returnStatement_of_expression {items rest : List Item} {parsed : Expression}
    (h : expression items = .done parsed rest) :
    returnStatement items = .done (.returning (some parsed)) rest := by
  obtain ⟨token, behind, rfl, hword, hterminator⟩ := start_of_expression h
  simp only [returnStatement]
  split
  · next hkind => exact absurd hkind hterminator
  · next hkind => exact absurd hkind (hword _)
  · rw [h, Outcome.map_done]

theorem parsesStatement_binding {kinds : List TokenKind} {next : TokenKind}
    {initializer : Expression} (name : String) (h : SpellsExpression 0 kinds initializer)
    (hnext : ¬ Continues next) :
    ParsesStatement (.keyword .letWord :: .identifier name :: .delimiter .equals :: kinds) next
      (.binding name initializer) := by
  intro items behind token htoken hreads
  obtain ⟨word, afterWord, rfl, hword, hname⟩ := hreads
  obtain ⟨afterName, hname, hequals⟩ :=
    reads_cons.mp hname
  obtain ⟨start, hequals, hvalue⟩ := reads_cons.mp hequals
  simp only [statement_eq, hword]
  rw [letStatement, identifier_done_iff.mpr hname, Outcome.andThen_done,
    consume_done_iff.mpr hequals, Outcome.andThen_done,
    expression_complete h (htoken ▸ hnext) hvalue, Outcome.map_done, Outcome.map_done]

theorem parsesStatement_returning {kinds : List TokenKind} {next : TokenKind}
    {value : Option Expression}
    (h : ∀ {items behind : List Item} {token : Token}, token.kind = next →
      Reads kinds items (.ok token :: behind) →
        returnStatement items = .done (.returning value) (.ok token :: behind)) :
    ParsesStatement (.keyword .returnWord :: kinds) next (.returning value) := by
  intro items behind token htoken hreads
  obtain ⟨word, afterWord, rfl, hword, hrest⟩ := hreads
  simp only [statement_eq, hword]
  rw [h htoken hrest, Outcome.map_done]

theorem parsesStatement_block {kinds : List TokenKind} {body : List Statement} (next : TokenKind)
    (h : ParsesBody kinds body) :
    ParsesStatement (.keyword .doWord :: kinds) next (.block body) := by
  intro items behind token _ hreads
  obtain ⟨word, afterWord, rfl, hword, hrest⟩ := hreads
  simp only [statement_eq, hword]
  rw [h hrest, Outcome.map_done]

/-- A statement is not the word `end`, so the body goes on behind it. -/
theorem statements_eq_map {items middle : List Item} {first : Option Statement}
    (h : statement items = .done first middle) :
    statements items = (statements middle).map fun others => first.toList ++ others := by
  rw [statements_eq]
  match items with
  | [] =>
      rw [statement_eq] at h
      cases h
  | .error _ :: _ =>
      rw [statement_eq] at h
      cases h
  | .ok token :: behind =>
      dsimp only
      split
      · next hkind =>
          -- No statement starts with `end`.
          simp only [statement_eq, hkind] at h
          cases h
      · rw [h, Outcome.andThen_done]

/-- What is parsed behind a statement of a body is the rest of the body. -/
theorem statements_of_statement {items middle rest : List Item} {first : Option Statement}
    {others : List Statement} (hfirst : statement items = .done first middle)
    (hothers : statements middle = .done others rest) :
    statements items = .done (first.toList ++ others) rest := by
  rw [statements_eq_map hfirst, hothers, Outcome.map_done]

/-- A terminator in a body is passed over. -/
theorem statements_terminator {items rest : List Item}
    (hreads : Reads [.delimiter .terminator] items rest) : statements items = statements rest := by
  obtain ⟨token, behind, rfl, hkind, hrest⟩ := hreads
  rw [reads_nil.mp hrest]
  have hnone : statement (.ok token :: rest) = .done none rest := by
    simp only [statement_eq, hkind]
  rw [statements_eq_map hnone]
  cases statements rest <;> rfl

theorem parsesBody_close : ParsesBody [.keyword .endWord] [] := by
  intro items rest hreads
  obtain ⟨token, behind, rfl, hkind, rfl⟩ := hreads
  rw [statements_eq]
  exact if_pos hkind

theorem parsesBody_terminator {kinds : List TokenKind} {body : List Statement}
    (h : ParsesBody kinds body) : ParsesBody (.delimiter .terminator :: kinds) body := by
  intro items rest hreads
  obtain ⟨middle, hterminator, hrest⟩ := reads_cons.mp hreads
  rw [statements_terminator hterminator, h hrest]

theorem parsesBody_statement {first kinds : List TokenKind} {next : TokenKind} {parsed : Statement}
    {body : List Statement} (hfirst : ParsesStatement first next parsed)
    (h : ParsesBody (next :: kinds) body) :
    ParsesBody (first ++ next :: kinds) (parsed :: body) := by
  intro items rest hreads
  obtain ⟨middle, hstart, hmiddle⟩ := reads_append.mp hreads
  have hothers := h hmiddle
  obtain ⟨token, behind, rfl, hkind, -⟩ := hmiddle
  exact statements_of_statement (hfirst hkind hstart) hothers

mutual

/-- A statement that is spelled is parsed: a case for each rule of the grammar. -/
theorem SpellsStatement.parses {kinds : List TokenKind} {next : TokenKind} {parsed : Statement} :
    SpellsStatement kinds next parsed → ParsesStatement kinds next parsed
  | .binding name h hnext => parsesStatement_binding name h hnext
  | .returningTerminated next => parsesStatement_returning fun htoken hreads => by
      obtain ⟨first, behind, rfl, hfirst, rfl⟩ := hreads
      simp only [returnStatement, hfirst]
  | .returning => parsesStatement_returning fun htoken hreads => by
      rw [reads_nil.mp hreads]
      simp only [returnStatement, htoken]
  | .returningValue h hnext => parsesStatement_returning fun htoken hreads =>
      returnStatement_of_expression (expression_complete h (htoken ▸ hnext) hreads)
  | .block next h => parsesStatement_block next h.parses
  | .expression h hnext => fun htoken hreads =>
      statement_of_expression (expression_complete h (htoken ▸ hnext) hreads)

/-- A body that is spelled is parsed. -/
theorem SpellsBody.parses {kinds : List TokenKind} {body : List Statement} :
    SpellsBody kinds body → ParsesBody kinds body
  | .close => parsesBody_close
  | .terminator h => parsesBody_terminator h.parses
  | .statement hfirst h => parsesBody_statement hfirst.parses h.parses

end

/-- A body is parsed just if it is spelled. -/
theorem statements_done_iff {items rest : List Item} {body : List Statement} :
    statements items = .done body rest ↔ ∃ kinds, Reads kinds items rest ∧ SpellsBody kinds body :=
  ⟨statements_sound, fun ⟨_, hreads, hspelled⟩ => SpellsBody.parses hspelled hreads⟩

end StackLang.Grammar
