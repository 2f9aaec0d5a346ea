import StackLang.Proofs.Grammar.Text

/-! # Parsing expressions and the grammar

Strength and tiers fit together: a sign of strength `tier + 1` goes behind an expression of the
tier. While an operand is being extended, what has been read is of a tier that the next sign may
extend.

* `binding_sound`, `SpellsExpression.parses` — what is parsed is what is spelled, as far as it goes.
* `expression_done_iff` — an expression is parsed just if it is spelled and cannot go on.
* `SpellsExpression.exists_start` — an expression starts with an operand.
* `Leading` — an expression at the start of some items, as long as it can be.
* `expression_exact` — the parser finds just the leading expression, and there is one at most. -/

namespace StackLang.Grammar

open Parse

/-! ## Where expressions stop -/

/-- The next item is a token that binds no more strongly than the bound, or there is none. -/
def Stops (bound : Nat) : List Item → Prop
  | [] => True
  | .error _ :: _ => False
  | .ok token :: _ => token.kind.precedence ≤ bound

theorem Stops.mono {small large : Nat} {items : List Item} (h : Stops small items)
    (hle : small ≤ large) : Stops large items := by
  match items with
  | [] => trivial
  | .error _ :: _ => exact h
  | .ok _ :: _ => exact Nat.le_trans h hle

/-- An operator is one stronger than the tier that it joins. -/
theorem precedence_operator (sign : Operator) :
    (TokenKind.operator sign).precedence = tierOf sign + 1 := by
  cases sign <;> rfl

theorem precedence_le_three (kind : TokenKind) : kind.precedence ≤ 3 := by
  unfold TokenKind.precedence
  split <;> decide

/-- The tokens that bind are those that could go on with an expression. -/
theorem continues_iff_precedence_pos (kind : TokenKind) : Continues kind ↔ 0 < kind.precedence := by
  constructor
  · rintro (rfl | ⟨sign, rfl⟩)
    · decide
    · rw [precedence_operator]
      exact Nat.succ_pos _
  · intro hpos
    unfold TokenKind.precedence at hpos
    split at hpos
    · exact .inr ⟨.plus, rfl⟩
    · exact .inr ⟨.minus, rfl⟩
    · exact .inr ⟨.star, rfl⟩
    · exact .inr ⟨.slash, rfl⟩
    · exact .inr ⟨.dot, rfl⟩
    · exact .inl rfl
    · cases hpos

/-- A bound of 0 stops before every token that could go on with an expression. -/
theorem stops_zero_cons_iff {token : Token} {rest : List Item} :
    Stops 0 (.ok token :: rest) ↔ ¬ Continues token.kind := by
  rw [continues_iff_precedence_pos, Nat.not_lt]
  exact Iff.rfl

/-- An expression of a tier is one of each lower tier. -/
theorem SpellsExpression.lower {tier low : Nat} {kinds : List TokenKind} {expression : Expression}
    (h : SpellsExpression tier kinds expression) (hle : low ≤ tier) :
    SpellsExpression low kinds expression := by
  induction hle with
  | refl => exact h
  | step _ ih => exact ih h.raise

/-! ## What is parsed is spelled -/

theorem advance_done {wanted : Expected} {items rest : List Item} {token : Token}
    (h : advance wanted items = .done token rest) : items = .ok token :: rest := by
  match items with
  | [] => cases h
  | .error _ :: _ => cases h
  | .ok _ :: _ => cases h; rfl

/-- A token is consumed just if it is of the kind. -/
theorem consume_done_iff {kind : TokenKind} {items rest : List Item} :
    consume kind items = .done () rest ↔ Reads [kind] items rest := by
  constructor
  · intro h
    match items with
    | [] => cases h
    | .error _ :: _ => cases h
    | .ok token :: behind =>
        simp only [consume, advance, Outcome.andThen_done] at h
        split at h
        · next hkind =>
            cases h
            exact .single hkind
        · cases h
  · rintro ⟨token, behind, rfl, hkind, rfl⟩
    simp [consume, advance, hkind]

/-- A name is taken just if there is one. -/
theorem identifier_done_iff {items rest : List Item} {name : String} :
    identifier items = .done name rest ↔ Reads [.identifier name] items rest := by
  constructor
  · intro h
    match items with
    | [] => cases h
    | .error _ :: _ => cases h
    | .ok token :: behind =>
        simp only [identifier, advance, Outcome.andThen_done] at h
        split at h
        · next found hkind =>
            cases h
            exact .single hkind
        · cases h
  · rintro ⟨token, behind, rfl, hkind, rfl⟩
    simp [identifier, advance, hkind]

/-- A success goes back to a success before it. -/
theorem andThen_eq_done {α β : Type} {first : Outcome α} {next : α → List Item → Outcome β}
    {value : β} {rest : List Item} (h : first.andThen next = .done value rest) :
    ∃ before middle, first = .done before middle ∧ next before middle = .done value rest := by
  cases first with
  | done before middle => exact ⟨before, middle, rfl, h⟩
  | failed error middle => cases h

theorem map_eq_done {α β : Type} {first : Outcome α} {change : α → β} {value : β}
    {rest : List Item} (h : first.map change = .done value rest) :
    ∃ before, first = .done before rest ∧ change before = value := by
  obtain ⟨before, middle, hfirst, hnext⟩ := andThen_eq_done h
  cases hnext
  exact ⟨before, hfirst, rfl⟩

mutual

/-- What is parsed is an expression of the tier of the bound, and stops at the bound. -/
theorem binding_sound {minimum : Nat} {items rest : List Item} {expression : Expression}
    (hminimum : minimum ≤ 3) (h : binding minimum items = .done expression rest) :
    ∃ kinds, Reads kinds items rest ∧ SpellsExpression minimum kinds expression
      ∧ Stops minimum rest := by
  rw [binding_eq] at h
  obtain ⟨token, behind, hadvance, hrest⟩ := andThen_eq_done h
  obtain ⟨left, middle, hoperand, hcontinuing⟩ := andThen_eq_done hrest
  have hitems := advance_done hadvance
  have hlength : items.length = behind.length + 1 := by rw [hitems, List.length_cons]
  obtain ⟨first, hfirst, hleft⟩ := operand_sound hoperand
  have hshorter := hfirst.length_eq
  obtain ⟨second, hsecond, hwhole, hstops⟩ :=
    continuing_sound hminimum hleft
      (fun next _ _ => Nat.le_succ_of_le (precedence_le_three next.kind)) hcontinuing
  exact ⟨token.kind :: first ++ second,
    reads_append.mpr ⟨middle, hitems ▸ .cons rfl hfirst, hsecond⟩, hwhole, hstops⟩
termination_by 4 * items.length
decreasing_by all_goals omega

/-- What is parsed as an operand is spelled as one. -/
theorem operand_sound {token : Token} {items rest : List Item} {expression : Expression}
    (h : operand token items = .done expression rest) :
    ∃ kinds, Reads kinds items rest ∧ SpellsExpression 3 (token.kind :: kinds) expression := by
  rw [operand_eq] at h
  split at h
  · next value hkind =>
      cases h
      exact ⟨[], rfl, hkind ▸ .number value⟩
  · next contents hkind =>
      cases h
      exact ⟨[], rfl, hkind ▸ .text contents⟩
  · next spelling hkind =>
      cases h
      exact ⟨[], rfl, hkind ▸ .name spelling⟩
  · next hkind =>
      obtain ⟨inner, middle, hinner, hclose⟩ := andThen_eq_done h
      obtain ⟨_, hconsume, rfl⟩ := map_eq_done hclose
      obtain ⟨inside, hinside, hspelled, -⟩ := binding_sound (Nat.zero_le 3) hinner
      exact ⟨inside ++ [.delimiter .closeParen],
        reads_append.mpr ⟨middle, hinside, consume_done_iff.mp hconsume⟩,
        hkind ▸ .parenthesized hspelled⟩
  · cases h
termination_by 4 * items.length + 1
decreasing_by all_goals omega

/-- An operand that the next sign may extend goes on as far as the bound lets it. -/
theorem continuing_sound {minimum tier : Nat} {left expression : Expression}
    {before : List TokenKind} {items rest : List Item} (hminimum : minimum ≤ tier)
    (hleft : SpellsExpression tier before left)
    (hnext : ∀ next behind, items = .ok next :: behind → next.kind.precedence ≤ tier + 1)
    (h : continuing minimum left items = .done expression rest) :
    ∃ kinds, Reads kinds items rest ∧ SpellsExpression minimum (before ++ kinds) expression
      ∧ Stops minimum rest := by
  rw [continuing_eq] at h
  match hitems : items with
  | [] =>
      cases h
      exact ⟨[], rfl, (List.append_nil before).symm ▸ hleft.lower hminimum, trivial⟩
  | .error _ :: _ => cases h
  | .ok token :: behind =>
      dsimp only at h
      split at h
      · next hweak =>
          cases h
          exact ⟨[], rfl, (List.append_nil before).symm ▸ hleft.lower hminimum, hweak⟩
      · next hstrong =>
          obtain ⟨longer, middle, hextend, hcontinuing⟩ := andThen_eq_done h
          -- The sign is stronger than the bound, so it has a tier, and one that may be extended.
          have hlow := hnext token behind rfl
          obtain ⟨strength, hstrength⟩ := Nat.exists_eq_succ_of_ne_zero
            (Nat.pos_iff_ne_zero.mp (Nat.lt_of_le_of_lt (Nat.zero_le minimum)
              (Nat.lt_of_not_le hstrong)))
          have hlength : items.length = behind.length + 1 := by rw [hitems, List.length_cons]
          obtain ⟨first, hfirst, hlonger, hstops⟩ :=
            extend_sound hstrength (hleft.lower (by omega)) hextend
          have hshorter := hfirst.length_eq
          obtain ⟨second, hsecond, hwhole, hend⟩ :=
            continuing_sound (by omega) hlonger hstops hcontinuing
          refine ⟨token.kind :: first ++ second,
            reads_append.mpr ⟨middle, .cons rfl hfirst, hsecond⟩, ?_, hend⟩
          rwa [← List.append_assoc]
termination_by 4 * items.length
decreasing_by all_goals omega

/-- A sign of some strength extends an expression of the tier below. -/
theorem extend_sound {tier : Nat} {left expression : Expression} {before : List TokenKind}
    {token : Token} {items rest : List Item} (hstrength : token.kind.precedence = tier + 1)
    (hleft : SpellsExpression tier before left)
    (h : extend left token items = .done expression rest) :
    ∃ kinds, Reads kinds items rest
      ∧ SpellsExpression tier (before ++ token.kind :: kinds) expression
      ∧ ∀ next behind, rest = .ok next :: behind → next.kind.precedence ≤ tier + 1 := by
  rw [extend_eq] at h
  split at h
  · next sign hkind =>
      -- The right operand is of a higher tier, so signs of one tier group to the left.
      obtain ⟨right, hright, rfl⟩ := map_eq_done h
      rw [hstrength] at hright
      have hthree := precedence_le_three token.kind
      obtain ⟨second, hsecond, hspelled, hstops⟩ := binding_sound (by omega) hright
      have hsign : tierOf sign = tier := by
        rw [hkind, precedence_operator] at hstrength
        exact Nat.succ.inj hstrength
      refine ⟨second, hsecond, hkind ▸ .operation hsign hleft hspelled, ?_⟩
      rintro next behind rfl
      exact hstops
  · next hkind =>
      obtain ⟨values, hvalues, rfl⟩ := map_eq_done h
      have htier : tier = 2 := by
        rw [hkind] at hstrength
        exact (Nat.succ.inj hstrength).symm
      subst htier
      obtain ⟨inside, hinside, hspelled⟩ := arguments_sound hvalues
      refine ⟨inside, hinside, ?_, fun next _ _ => precedence_le_three next.kind⟩
      rw [hkind]
      rcases hspelled with ⟨rfl, rfl⟩ | hlist
      · exact .emptyCall hleft
      · exact .call hleft hlist
  · cases h
termination_by 4 * items.length + 3
decreasing_by all_goals omega

/-- What is parsed as arguments is the closing parenthesis, or spelled as arguments. -/
theorem arguments_sound {items rest : List Item} {values : List Expression}
    (h : arguments items = .done values rest) :
    ∃ kinds, Reads kinds items rest
      ∧ (kinds = [.delimiter .closeParen] ∧ values = [] ∨ SpellsArguments kinds values) := by
  rw [arguments_eq] at h
  match hitems : items with
  | [] =>
      obtain ⟨kinds, hkinds, hspelled⟩ := argumentList_sound h
      exact ⟨kinds, hkinds, .inr hspelled⟩
  | .error _ :: _ => cases h
  | .ok token :: behind =>
      dsimp only at h
      split at h
      · next hkind =>
          cases h
          exact ⟨[.delimiter .closeParen], .single hkind, .inl ⟨rfl, rfl⟩⟩
      · obtain ⟨kinds, hkinds, hspelled⟩ := argumentList_sound h
        exact ⟨kinds, hkinds, .inr hspelled⟩
termination_by 4 * items.length + 2
decreasing_by all_goals rw [hitems]; exact Nat.lt_succ_self _

/-- What is parsed as one argument or more is spelled so. -/
theorem argumentList_sound {items rest : List Item} {values : List Expression}
    (h : argumentList items = .done values rest) :
    ∃ kinds, Reads kinds items rest ∧ SpellsArguments kinds values := by
  rw [argumentList_eq] at h
  obtain ⟨argument, middle, hargument, hmore⟩ := andThen_eq_done h
  obtain ⟨token, behind, hadvance, hend⟩ := andThen_eq_done hmore
  have hmiddle := advance_done hadvance
  have hlength : middle.length = behind.length + 1 := by rw [hmiddle, List.length_cons]
  obtain ⟨first, hfirst, hspelled, -⟩ := binding_sound (Nat.zero_le 3) hargument
  have hshorter := hfirst.length_eq
  rw [hmiddle] at hfirst
  split at hend
  · next hkind =>
      obtain ⟨others, hothers, rfl⟩ := map_eq_done hend
      obtain ⟨second, hsecond, hlist⟩ := argumentList_sound hothers
      exact ⟨first ++ .delimiter .comma :: second,
        reads_append.mpr ⟨_, hfirst, Reads.cons hkind hsecond⟩, .more hspelled hlist⟩
  · next hkind =>
      cases hend
      exact ⟨first ++ [.delimiter .closeParen],
        reads_append.mpr ⟨_, hfirst, .single hkind⟩, .last hspelled⟩
  · cases hend
termination_by 4 * items.length + 1
decreasing_by all_goals omega

end

/-! ## What is spelled is parsed -/

/-- At its bound an expression is left as it is. -/
theorem continuing_stops {minimum : Nat} {left : Expression} {items : List Item}
    (h : Stops minimum items) : continuing minimum left items = .done left items := by
  rw [continuing_eq]
  match items with
  | [] => rfl
  | .error _ :: _ => cases h
  | .ok token :: rest => exact if_pos h

/-- A stronger sign is taken in. -/
theorem continuing_cons {minimum : Nat} {left : Expression} {token : Token} {rest : List Item}
    (h : minimum < token.kind.precedence) :
    continuing minimum left (.ok token :: rest)
      = (extend left token rest).andThen (continuing minimum) := by
  rw [continuing_eq]
  exact if_neg (Nat.not_le_of_lt h)

/-- An operand is parsed by its first token. -/
theorem binding_operand {minimum : Nat} {token : Token} {items rest : List Item}
    {expression : Expression} (h : operand token items = .done expression rest) :
    binding minimum (.ok token :: items) = continuing minimum expression rest := by
  rw [binding_eq, advance, Outcome.andThen_done, h, Outcome.andThen_done]

/-- Where the kinds stand, an expression is parsed, as long as the bound is below the tier and what
follows could not go on in the tier; then parsing goes on behind it. -/
def Parses (tier : Nat) (kinds : List TokenKind) (expression : Expression) : Prop :=
  ∀ {minimum : Nat} {items rest : List Item}, minimum ≤ tier → Reads kinds items rest →
    Stops (tier + 1) rest → binding minimum items = continuing minimum expression rest

/-- Where the kinds stand, arguments are parsed. -/
def ParsesArguments (kinds : List TokenKind) (values : List Expression) : Prop :=
  ∀ {items rest : List Item}, Reads kinds items rest → argumentList items = .done values rest

/-- An expression that cannot go on is parsed. -/
theorem Parses.done {tier minimum : Nat} {kinds : List TokenKind} {expression : Expression}
    {items rest : List Item} (h : Parses tier kinds expression) (hminimum : minimum ≤ tier)
    (hreads : Reads kinds items rest) (hstops : Stops minimum rest) :
    binding minimum items = .done expression rest := by
  rw [h hminimum hreads (hstops.mono (Nat.le_succ_of_le hminimum)), continuing_stops hstops]

/-- Before a token that binds not at all an expression cannot go on. -/
theorem stops_zero_of_kind {token : Token} {rest : List Item} (h : token.kind.precedence = 0) :
    Stops 0 (.ok token :: rest) :=
  Nat.le_of_eq h

theorem parses_token {kind : TokenKind} {expression : Expression} {tier : Nat}
    (h : ∀ token items, token.kind = kind → operand token items = .done expression items) :
    Parses tier [kind] expression := by
  intro minimum items rest _ hreads _
  obtain ⟨token, behind, rfl, hkind, rfl⟩ := hreads
  exact binding_operand (h token behind hkind)

theorem parses_parenthesized {inside : List TokenKind} {inner : Expression}
    (h : Parses 0 inside inner) :
    Parses 3 (.delimiter .openParen :: (inside ++ [.delimiter .closeParen])) inner := by
  intro minimum items rest _ hreads _
  obtain ⟨token, behind, rfl, hkind, hbehind⟩ := hreads
  obtain ⟨middle, hinside, hclose⟩ := reads_append.mp hbehind
  have hconsume : consume (.delimiter .closeParen) middle = .done () rest :=
    consume_done_iff.mpr hclose
  obtain ⟨close, _, rfl, hparen, -⟩ := hclose
  refine binding_operand ?_
  rw [operand_eq, hkind]
  dsimp only
  rw [h.done (Nat.le_refl 0) hinside (stops_zero_of_kind (by rw [hparen]; rfl)),
    Outcome.andThen_done, hconsume, Outcome.map_done]

theorem parses_operation {tier : Nat} {sign : Operator} {first second : List TokenKind}
    {left right : Expression} (htier : tierOf sign = tier) (hleft : Parses tier first left)
    (hright : Parses (tier + 1) second right) :
    Parses tier (first ++ .operator sign :: second) (.binary left sign right) := by
  intro minimum items rest hminimum hreads hstops
  obtain ⟨middle, hfirst, token, behind, rfl, hkind, hsecond⟩ := reads_append.mp hreads
  have hstrength : token.kind.precedence = tier + 1 := by
    rw [hkind, precedence_operator, htier]
  have hextend : extend left token behind = .done (.binary left sign right) rest := by
    rw [extend_eq, hstrength, hkind]
    dsimp only
    rw [hright.done (Nat.le_refl _) hsecond hstops, Outcome.map_done]
  -- The left operand stops before the sign, which is then taken in.
  rw [hleft hminimum hfirst (Nat.le_of_eq hstrength),
    continuing_cons (by rw [hstrength]; exact Nat.lt_succ_of_le hminimum), hextend,
    Outcome.andThen_done]

/-- A callee with its arguments is parsed if the arguments are. -/
theorem parses_call {first inside : List TokenKind} {callee : Expression}
    {values : List Expression} (hcallee : Parses 2 first callee)
    (h : ∀ {items rest : List Item}, Reads inside items rest →
      arguments items = .done values rest) :
    Parses 2 (first ++ .delimiter .openParen :: inside) (.call callee values) := by
  intro minimum items rest hminimum hreads _
  obtain ⟨middle, hfirst, token, behind, rfl, hkind, hinside⟩ := reads_append.mp hreads
  have hstrength : token.kind.precedence = 3 := by rw [hkind]; rfl
  have hextend : extend callee token behind = .done (.call callee values) rest := by
    rw [extend_eq, hkind]
    dsimp only
    rw [h hinside, Outcome.map_done]
  rw [hcallee hminimum hfirst (Nat.le_of_eq hstrength),
    continuing_cons (by rw [hstrength]; exact Nat.lt_succ_of_le hminimum), hextend,
    Outcome.andThen_done]

/-- No argument starts with a closing parenthesis. -/
theorem arguments_of_argumentList {items rest : List Item} {values : List Expression}
    (h : argumentList items = .done values rest) : arguments items = .done values rest := by
  rw [arguments_eq]
  match items with
  | [] => exact h
  | .error error :: behind =>
      rw [argumentList_eq, binding_eq] at h
      cases h
  | .ok token :: behind =>
      dsimp only
      split
      · next hkind =>
          rw [argumentList_eq, binding_eq, advance, Outcome.andThen_done, operand_eq, hkind] at h
          cases h
      · exact h

theorem arguments_close {items rest : List Item} (h : Reads [.delimiter .closeParen] items rest) :
    arguments items = .done [] rest := by
  obtain ⟨token, behind, rfl, hkind, rfl⟩ := h
  rw [arguments_eq]
  exact if_pos hkind

theorem parsesArguments_last {kinds : List TokenKind} {argument : Expression}
    (h : Parses 0 kinds argument) :
    ParsesArguments (kinds ++ [.delimiter .closeParen]) [argument] := by
  intro items rest hreads
  obtain ⟨middle, hfirst, token, behind, rfl, hkind, rfl⟩ := reads_append.mp hreads
  rw [argumentList_eq, h.done (Nat.le_refl 0) hfirst (stops_zero_of_kind (by rw [hkind]; rfl)),
    Outcome.andThen_done, advance, Outcome.andThen_done, hkind]

theorem parsesArguments_more {kinds behind : List TokenKind} {argument : Expression}
    {others : List Expression} (h : Parses 0 kinds argument)
    (hothers : ParsesArguments behind others) :
    ParsesArguments (kinds ++ .delimiter .comma :: behind) (argument :: others) := by
  intro items rest hreads
  obtain ⟨middle, hfirst, token, after, rfl, hkind, hsecond⟩ := reads_append.mp hreads
  rw [argumentList_eq, h.done (Nat.le_refl 0) hfirst (stops_zero_of_kind (by rw [hkind]; rfl)),
    Outcome.andThen_done, advance, Outcome.andThen_done, hkind]
  dsimp only
  rw [hothers hsecond, Outcome.map_done]

mutual

/-- What is spelled is parsed: a case for each rule of the grammar. -/
theorem SpellsExpression.parses {tier : Nat} {kinds : List TokenKind} {expression : Expression} :
    SpellsExpression tier kinds expression → Parses tier kinds expression
  | .number value => parses_token fun token items hkind => by rw [operand_eq, hkind]
  | .text contents => parses_token fun token items hkind => by rw [operand_eq, hkind]
  | .name spelling => parses_token fun token items hkind => by rw [operand_eq, hkind]
  | .parenthesized h => parses_parenthesized h.parses
  | .operation htier hleft hright => parses_operation htier hleft.parses hright.parses
  | .emptyCall hcallee => parses_call hcallee.parses arguments_close
  | .call hcallee harguments =>
      parses_call hcallee.parses fun hreads =>
        arguments_of_argumentList (harguments.parses hreads)
  | .raise h => fun hminimum hreads hstops =>
      h.parses (Nat.le_succ_of_le hminimum) hreads (hstops.mono (Nat.le_succ _))

/-- Arguments that are spelled are parsed. -/
theorem SpellsArguments.parses {kinds : List TokenKind} {values : List Expression} :
    SpellsArguments kinds values → ParsesArguments kinds values
  | .last h => parsesArguments_last h.parses
  | .more h hothers => parsesArguments_more h.parses hothers.parses

end

/-- An expression is parsed just if it is spelled and could not go on with the next token. -/
theorem expression_done_iff {items rest : List Item} {parsed : Expression} :
    expression items = .done parsed rest
      ↔ (∃ kinds, Reads kinds items rest ∧ SpellsExpression 0 kinds parsed) ∧ Stops 0 rest := by
  constructor
  · intro h
    obtain ⟨kinds, hreads, hspelled, hstops⟩ := binding_sound (Nat.zero_le 3) h
    exact ⟨⟨kinds, hreads, hspelled⟩, hstops⟩
  · rintro ⟨⟨kinds, hreads, hspelled⟩, hstops⟩
    exact Parses.done hspelled.parses (Nat.le_refl 0) hreads hstops

/-! ## How expressions start -/

/-- The token is the first of an operand. -/
inductive StartsOperand : TokenKind → Prop
  /-- A number. -/
  | number (value : Float) : StartsOperand (.number value)
  /-- A quoted text. -/
  | text (contents : List Char) : StartsOperand (.text contents)
  /-- A name. -/
  | name (spelling : String) : StartsOperand (.identifier spelling)
  /-- The parenthesis before an expression. -/
  | openParen : StartsOperand (.delimiter .openParen)

/-- No operand starts with a reserved word, a terminator or an operator. -/
theorem StartsOperand.ne {kind : TokenKind} (h : StartsOperand kind) :
    (∀ word, kind ≠ .keyword word) ∧ kind ≠ .delimiter .terminator
      ∧ ∀ sign, kind ≠ .operator sign := by
  cases h <;> simp

/-- An expression starts with an operand. -/
theorem SpellsExpression.exists_start {tier : Nat} {kinds : List TokenKind}
    {expression : Expression} : SpellsExpression tier kinds expression →
      ∃ first behind, kinds = first :: behind ∧ StartsOperand first
  | .number value => ⟨_, _, rfl, .number value⟩
  | .text contents => ⟨_, _, rfl, .text contents⟩
  | .name spelling => ⟨_, _, rfl, .name spelling⟩
  | .parenthesized _ => ⟨_, _, rfl, .openParen⟩
  | .operation _ hleft _ => by
      obtain ⟨first, behind, rfl, hstart⟩ := hleft.exists_start
      exact ⟨first, _, rfl, hstart⟩
  | .emptyCall hcallee => by
      obtain ⟨first, behind, rfl, hstart⟩ := hcallee.exists_start
      exact ⟨first, _, rfl, hstart⟩
  | .call hcallee _ => by
      obtain ⟨first, behind, rfl, hstart⟩ := hcallee.exists_start
      exact ⟨first, _, rfl, hstart⟩
  | .raise h => h.exists_start

/-! ## The leading expression -/

/-- An expression does not go on with these items: there are none, or the first is a token that
could not go on with it. -/
def EndsExpression (items : List Item) : Prop :=
  items = [] ∨ ∃ token rest, items = .ok token :: rest ∧ ¬ Continues token.kind

theorem stops_zero_iff {items : List Item} : Stops 0 items ↔ EndsExpression items := by
  match items with
  | [] => exact ⟨fun _ => .inl rfl, fun _ => trivial⟩
  | .error _ :: _ => exact ⟨False.elim, by simp [EndsExpression]⟩
  | .ok token :: rest =>
      rw [stops_zero_cons_iff]
      constructor
      · intro hnext
        exact .inr ⟨token, rest, rfl, hnext⟩
      · rintro (hnil | ⟨_, _, hitems, hnext⟩)
        · cases hnil
        · cases hitems
          exact hnext

/-- The items start with tokens of the kinds, these spell the expression, and it does not go on with
the rest. -/
structure Leading (items : List Item) (kinds : List TokenKind) (leading : Expression)
    (rest : List Item) : Prop where
  /-- The tokens stand before the rest. -/
  reads : Reads kinds items rest
  /-- They spell the expression. -/
  spelled : SpellsExpression 0 kinds leading
  /-- The expression ends before the rest. -/
  ends : EndsExpression rest

/-- An expression is parsed just if it is the leading one. -/
theorem expression_done_iff_leading {items rest : List Item} {parsed : Expression} :
    expression items = .done parsed rest ↔ ∃ kinds, Leading items kinds parsed rest := by
  rw [expression_done_iff, stops_zero_iff]
  constructor
  · rintro ⟨⟨kinds, hreads, hspelled⟩, hends⟩
    exact ⟨kinds, hreads, hspelled, hends⟩
  · rintro ⟨kinds, h⟩
    exact ⟨⟨kinds, h.reads, h.spelled⟩, h.ends⟩

/-- Items have one leading expression at most, which takes up the same tokens. -/
theorem Leading.unique {items rest last : List Item} {kinds others : List TokenKind}
    {first second : Expression} (hfirst : Leading items kinds first rest)
    (hsecond : Leading items others second last) :
    kinds = others ∧ first = second ∧ rest = last := by
  -- The parser comes to both of them.
  have hparsed := expression_done_iff_leading.mpr ⟨kinds, hfirst⟩
  rw [expression_done_iff_leading.mpr ⟨others, hsecond⟩] at hparsed
  cases hparsed
  exact ⟨hfirst.reads.kinds_eq hsecond.reads, rfl, rfl⟩

/-- Kinds spell one expression at most. -/
theorem SpellsExpression.unique {kinds : List TokenKind} {first second : Expression}
    (hfirst : SpellsExpression 0 kinds first) (hsecond : SpellsExpression 0 kinds second) :
    first = second := by
  have hreads := reads_tokensOf_append kinds []
  have hends : EndsExpression [] := .inl rfl
  exact (Leading.unique ⟨hreads, hfirst, hends⟩ ⟨hreads, hsecond, hends⟩).2.1

/-- An expression is parsed just if the items start with tokens that spell it and it does not go on
with the items behind these. There is one such expression and one such place at most, the tokens
spell no other expression, and where there is none, parsing fails with an error. -/
theorem expression_exact (items : List Item) :
    (∀ parsed rest, expression items = .done parsed rest
      ↔ ∃ kinds, Leading items kinds parsed rest)
    ∧ (∀ kinds others first second rest last, Leading items kinds first rest →
        Leading items others second last → kinds = others ∧ first = second ∧ rest = last)
    ∧ (∀ kinds first second, SpellsExpression 0 kinds first → SpellsExpression 0 kinds second →
        first = second)
    ∧ ((∃ error rest, expression items = .failed error rest)
      ↔ ¬ ∃ kinds parsed rest, Leading items kinds parsed rest) := by
  refine ⟨?_, ?_, ?_, ?_⟩
  · intro parsed rest
    exact expression_done_iff_leading
  · intro kinds others first second rest last hfirst hsecond
    exact hfirst.unique hsecond
  · intro kinds first second hfirst hsecond
    exact hfirst.unique hsecond
  · constructor
    · rintro ⟨error, after, hfailed⟩ ⟨kinds, parsed, rest, hleading⟩
      rw [expression_done_iff_leading.mpr ⟨kinds, hleading⟩] at hfailed
      cases hfailed
    · intro hnone
      cases hparsed : expression items with
      | failed error rest => exact ⟨error, rest, rfl⟩
      | done parsed rest =>
          obtain ⟨kinds, hleading⟩ := expression_done_iff_leading.mp hparsed
          exact absurd ⟨kinds, parsed, rest, hleading⟩ hnone

/-- `a - b - c.d(e)` before the word `end`: the differences are taken from left to right, and the
call belongs to the field. -/
theorem expression_exact_difference :
    let kinds : List TokenKind := [.identifier "a", .operator .minus, .identifier "b",
      .operator .minus, .identifier "c", .operator .dot, .identifier "d", .delimiter .openParen,
      .identifier "e", .delimiter .closeParen]
    let rest : List Item := tokensOf [.keyword .endWord]
    let items : List Item := tokensOf kinds ++ rest
    let parsed : Expression := .binary (.binary (.name "a") .minus (.name "b")) .minus
      (.call (.binary (.name "c") .dot (.name "d")) [.name "e"])
    Leading items kinds parsed rest ∧ SpellsExpression 0 kinds parsed
      ∧ expression items = .done parsed rest ∧ rest = tokensOf [.keyword .endWord]
      ∧ parsed = .binary (.binary (.name "a") .minus (.name "b")) .minus
        (.call (.binary (.name "c") .dot (.name "d")) [.name "e"])
      ∧ ¬ ∃ error rest, expression items = .failed error rest := by
  intro kinds rest items parsed
  have hminus : tierOf .minus = 0 := rfl
  have hdot : tierOf .dot = 2 := rfl
  have hname : ∀ spelling, SpellsExpression 2 [.identifier spelling] (.name spelling) :=
    fun spelling => .raise (.name spelling)
  -- The call is of the tier of fields and calls, and so is the field that it calls.
  have hcall : SpellsExpression 2 [.identifier "c", .operator .dot, .identifier "d",
      .delimiter .openParen, .identifier "e", .delimiter .closeParen]
      (.call (.binary (.name "c") .dot (.name "d")) [.name "e"]) :=
    .call (.operation hdot (hname "c") (.name "d")) (.last (hname "e").raise.raise)
  have hleft : SpellsExpression 0 [.identifier "a", .operator .minus, .identifier "b"]
      (.binary (.name "a") .minus (.name "b")) :=
    .operation hminus (hname "a").raise.raise (hname "b").raise
  have hspelled : SpellsExpression 0 kinds parsed := .operation hminus hleft hcall.raise
  have hleading : Leading items kinds parsed rest :=
    ⟨reads_tokensOf_append kinds rest, hspelled, .inr ⟨_, _, rfl, by simp [Continues]⟩⟩
  obtain ⟨hdone, hunique, hspells, hfailed⟩ := expression_exact items
  refine ⟨hleading, hspelled, (hdone parsed rest).mpr ⟨kinds, hleading⟩,
    (hunique _ _ _ _ _ _ hleading hleading).2.2, hspells _ _ _ hspelled hspelled, ?_⟩
  intro h
  exact hfailed.mp h ⟨kinds, parsed, rest, hleading⟩

end StackLang.Grammar
