import StackLang.Proofs.Evaluation.Arithmetic
import StackLang.Proofs.Grammar.Contents
import StackLang.Proofs.Grammar.Expression

/-! # Parsing arithmetic

The text of a calculation is cut into its literals, signs and parentheses, whatever white space
stands between them: a literal never touches another one. These tokens spell the tree in which runs
of factors are terms and runs of terms are sums.

* `Calculation.kinds` — the tokens of a calculation.
* `Calculation.contents` — what its text reads as.
* `Calculation.spells` — the tree that its tokens spell.
* `Calculation.parses` — its text is parsed into its tree. -/

namespace StackLang.Arithmetic

open Grammar

/-! ## Tokens -/

mutual

/-- The tokens of an operand. -/
def Operand.kinds : Operand → List TokenKind
  | .literal _ literal => [.number literal.value]
  | .group _ inside _ => .delimiter .openParen :: (inside.kinds ++ [.delimiter .closeParen])

/-- The tokens of a calculation. -/
def Calculation.kinds : Calculation → List TokenKind
  | .single operand => operand.kinds
  | .step operand _ sign others => operand.kinds ++ .operator sign.operator :: others.kinds

end

/-- White space is passed over. -/
theorem contentsOf_blanks (ends : Bool) (blanks : Blanks) (text : List Char) :
    contentsOf ends (blanks.val ++ text) = contentsOf ends text := by
  obtain ⟨blanks, hblanks⟩ := blanks
  induction blanks with
  | nil => rfl
  | cons first others ih =>
      obtain ⟨⟨hblank, hnewline⟩, hothers⟩ := List.forall_mem_cons.mp hblanks
      exact (contentsOf_blank _ hblank fun h => hnewline h.1).trans (ih hothers)

/-- White space parts what is before it from what is behind. -/
theorem parted_blanks (blanks : Blanks) {text : List Char} (h : Parted text) :
    Parted (blanks.val ++ text) := by
  obtain ⟨blanks, hblanks⟩ := blanks
  cases blanks with
  | nil => exact h
  | cons first others =>
      exact parted_cons _ (isNumberPart_of_isBlank (hblanks first List.mem_cons_self).1)

/-- A literal is read as its number, as far as it goes. -/
theorem Literal.contents (literal : Literal) (ends : Bool) {behind : List Char}
    (hbehind : Parted behind) :
    contentsOf ends (literal.first :: (literal.tail ++ behind))
      = .ok (.number literal.value) :: contentsOf true behind := by
  obtain ⟨hblank, hlexeme⟩ := ofText_number literal.starts literal.continues hbehind
  rw [contentsOf_lexeme _ hblank, hlexeme, Lexeme.numberContent, literal.reads]
  rfl

mutual

/-- The text of an operand is read as its tokens. -/
theorem Operand.contents : (operand : Operand) → (ends : Bool) → {behind : List Char} →
    Parted behind → contentsOf ends (operand.text ++ behind)
      = operand.kinds.map .ok ++ contentsOf true behind
  | .literal before literal, ends, behind, hbehind => by
      rw [Operand.text, Operand.kinds, List.append_assoc, contentsOf_blanks, List.cons_append,
        literal.contents ends hbehind]
      rfl
  | .group before inside after, ends, behind, hbehind => by
      have hinside : Parted (after.val ++ ')' :: behind) :=
        parted_blanks after (parted_cons _ (by decide))
      have hopen : TokenKind.ofSign? '(' = some (.delimiter .openParen) := rfl
      have hclose : TokenKind.ofSign? ')' = some (.delimiter .closeParen) := rfl
      simp only [Operand.text, Operand.kinds, List.append_assoc, List.cons_append, List.nil_append]
      rw [contentsOf_blanks, contentsOf_sign hopen, inside.contents _ hinside, contentsOf_blanks,
        contentsOf_sign hclose, List.map_cons, List.map_append, List.cons_append, List.append_assoc]
      rfl

/-- The text of a calculation is read as its tokens. -/
theorem Calculation.contents : (calculation : Calculation) → (ends : Bool) → {behind : List Char} →
    Parted behind → contentsOf ends (calculation.text ++ behind)
      = calculation.kinds.map .ok ++ contentsOf true behind
  | .single operand, ends, behind, hbehind => by
      rw [Calculation.text, Calculation.kinds]
      exact operand.contents ends hbehind
  | .step operand between sign others, ends, behind, hbehind => by
      have hoperand : Parted (between.val ++ sign.operator.sign :: (others.text ++ behind)) :=
        parted_blanks between (parted_cons _ (by cases sign <;> decide))
      simp only [Calculation.text, Calculation.kinds, List.append_assoc, List.cons_append]
      rw [operand.contents ends hoperand, contentsOf_blanks,
        contentsOf_sign (TokenKind.ofSign?_operator sign.operator), others.contents _ hbehind,
        List.map_append, List.map_cons, List.append_assoc]
      rfl

end

/-! ## The tree -/

/-- Tokens in their order: parentheses around what is inside, signs between what they join. -/
def spelling : Reading (List TokenKind) where
  leaf literal := [.number literal.value]
  group inside := .delimiter .openParen :: (inside ++ [.delimiter .closeParen])
  join sign left right := left ++ .operator sign.operator :: right

/-- The tokens of a row behind its first operand. -/
def spellingBehind (others : List (Sign × List TokenKind)) : List TokenKind :=
  others.flatMap fun next => .operator next.1.operator :: next.2

/-- Folding runs into terms keeps the tokens in their order. -/
theorem terms_spelling (first : List TokenKind) (others : List (Sign × List TokenKind)) :
    (terms spelling first others).1 ++ spellingBehind (terms spelling first others).2
      = first ++ spellingBehind others := by
  induction others generalizing first with
  | nil => rfl
  | cons next others ih =>
      obtain ⟨sign, operand⟩ := next
      rw [terms]
      split
      · exact (ih _).trans (List.append_assoc _ _ _)
      · change first ++ (.operator sign.operator :: (terms spelling operand others).1
          ++ spellingBehind (terms spelling operand others).2) = _
        rw [List.cons_append, ih]
        rfl

/-- Folding terms keeps the tokens in their order. -/
theorem foldl_spelling (first : List TokenKind) (others : List (Sign × List TokenKind)) :
    others.foldl (fun sum next => spelling.join next.1 sum next.2) first
      = first ++ spellingBehind others := by
  induction others generalizing first with
  | nil => exact (List.append_nil first).symm
  | cons next others ih =>
      rw [List.foldl_cons, ih]
      exact List.append_assoc _ _ _

theorem total_spelling (first : List TokenKind) (others : List (Sign × List TokenKind)) :
    total spelling first others = first ++ spellingBehind others := by
  rw [total, foldl_spelling, terms_spelling]

mutual

theorem Operand.kinds_eq_fold : (operand : Operand) → operand.kinds = operand.fold spelling
  | .literal _ literal => by
      rw [Operand.kinds, Operand.fold]
      rfl
  | .group _ inside _ => by
      rw [Operand.kinds, Operand.fold, total_spelling, ← inside.kinds_eq_row]
      rfl

theorem Calculation.kinds_eq_row : (calculation : Calculation) →
    calculation.kinds = (calculation.row spelling).1 ++ spellingBehind (calculation.row spelling).2
  | .single operand => by
      rw [Calculation.kinds, Calculation.row, operand.kinds_eq_fold]
      exact (List.append_nil _).symm
  | .step operand _ sign others => by
      rw [Calculation.kinds, Calculation.row, operand.kinds_eq_fold, others.kinds_eq_row]
      rfl

end

/-- The tokens of a calculation, folded as its tree is. -/
theorem Calculation.kinds_eq_fold (calculation : Calculation) :
    calculation.kinds = calculation.fold spelling := by
  rw [Calculation.fold, total_spelling, calculation.kinds_eq_row]

/-- The sign of a term or of a sum is of the tier of products or of sums. -/
theorem tierOf_sign (sign : Sign) :
    tierOf sign.operator = if sign.joinsFactors then 1 else 0 := by
  cases sign <;> rfl

/-- Operands, terms and sums are spelled in tiers of their own. -/
theorem tiers_spelling :
    Tiers spelling trees (SpellsExpression 2) (SpellsExpression 1) (SpellsExpression 0) where
  leaf literal := .raise (.number literal.value)
  group h := .raise (.parenthesized h)
  term_of_operand h := .raise h
  sum_of_term h := .raise h
  join_term hsign hleft hright := .operation (by rw [tierOf_sign, hsign]; rfl) hleft hright
  join_sum hsign hleft hright := .operation (by rw [tierOf_sign, hsign]; rfl) hleft hright

/-- The tokens of a calculation spell its tree. -/
theorem Calculation.spells (calculation : Calculation) :
    SpellsExpression 0 calculation.kinds calculation.tree := by
  rw [Calculation.kinds_eq_fold, Calculation.tree]
  exact calculation.fold_rel tiers_spelling

/-- The text of a calculation, with white space behind it, is parsed into its tree. -/
theorem Calculation.parses (calculation : Calculation) (trailing : Blanks) :
    Parse.expression (itemsOf (calculation.text ++ trailing.val)) = .done calculation.tree [] := by
  have htrailing : contentsOf true (trailing.val ++ []) = [] := by
    rw [contentsOf_blanks, contentsOf_nil]
  have hparted : Parted (trailing.val ++ []) := parted_blanks trailing parted_nil
  rw [List.append_nil] at htrailing hparted
  have hcontents := calculation.contents false hparted
  rw [htrailing, List.append_nil] at hcontents
  exact expression_done_iff.mpr
    ⟨⟨_, reads_itemsOf_iff.mpr hcontents, calculation.spells⟩, trivial⟩

end StackLang.Arithmetic
