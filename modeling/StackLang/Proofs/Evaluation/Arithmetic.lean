import Mathlib.Data.List.Forall2
import StackLang.Syntax
import StackLang.Token.Lexeme

/-! # Arithmetic as it is written

A calculation is what stands on paper: operands in a row with signs between them, each a literal or
a calculation in parentheses, with white space at will. What it comes to is said on the row itself,
without a tree: runs of operands that are multiplied or divided are folded into terms, and the terms
are folded into the result, both from left to right.

* `Sign`, `Literal`, `Blanks`, `Operand`, `Calculation` — what is written.
* `Calculation.text` — the characters of a calculation.
* `Reading` — what literals, parentheses and signs are read as.
* `terms`, `total`, `Calculation.fold` — runs into terms, and terms into the result.
* `Calculation.value`, `Calculation.count`, `Calculation.tree` — three readings: the number that a
  calculation comes to, how many literals it has, and its syntax tree.
* `Tiers`, `Calculation.fold_rel` — two readings that are related step by step are related. -/

namespace StackLang.Arithmetic

/-! ## What is written -/

/-- The signs of arithmetic. -/
inductive Sign where
  /-- `+` -/
  | plus
  /-- `-` -/
  | minus
  /-- `*` -/
  | times
  /-- `/` -/
  | over
  deriving DecidableEq, Repr

/-- The operator that a sign is. -/
def Sign.operator : Sign → Operator
  | .plus => .plus
  | .minus => .minus
  | .times => .star
  | .over => .slash

/-- What a sign does to two numbers. -/
def Sign.operation : Sign → Float → Float → Float
  | .plus => (· + ·)
  | .minus => (· - ·)
  | .times => (· * ·)
  | .over => (· / ·)

/-- The sign joins factors to a term; the others join terms. -/
def Sign.joinsFactors : Sign → Bool
  | .plus => false
  | .minus => false
  | .times => true
  | .over => true

/-- A number literal: it starts like a number, goes on like one, and can be read. -/
structure Literal where
  /-- The first character. -/
  first : Char
  /-- The others. -/
  tail : List Char
  /-- What the literal is read as. -/
  decimal : Numeral.Scientific
  /-- It starts like a number. -/
  starts : Text.isNumeric first = true
  /-- It goes on like a number. -/
  continues : ∀ character ∈ tail, Lexeme.isNumberPart character = true
  /-- It can be read. -/
  reads : Numeral.Scientific.ofText? (first :: tail) = some decimal

/-- The number that a literal stands for. -/
def Literal.value (literal : Literal) : Float :=
  literal.decimal.toFloat

/-- White space without newlines, perhaps none at all. -/
abbrev Blanks :=
  { text : List Char // ∀ character ∈ text, Text.isBlank character = true ∧ character ≠ '\n' }

mutual

/-- An operand, with the white space before it. -/
inductive Operand where
  /-- A literal. -/
  | literal (before : Blanks) (literal : Literal)
  /-- A calculation in parentheses, with the white space before the closing one. -/
  | group (before : Blanks) (inside : Calculation) (behind : Blanks)

/-- A row of operands with signs between them. -/
inductive Calculation where
  /-- The last operand. -/
  | single (operand : Operand)
  /-- An operand before a sign and others, with the white space before the sign. -/
  | step (operand : Operand) (between : Blanks) (sign : Sign) (others : Calculation)

end

mutual

/-- The characters of an operand. -/
def Operand.text : Operand → List Char
  | .literal before literal => before.val ++ literal.first :: literal.tail
  | .group before inside behind => before.val ++ '(' :: (inside.text ++ (behind.val ++ [')']))

/-- The characters of a calculation. -/
def Calculation.text : Calculation → List Char
  | .single operand => operand.text
  | .step operand between sign others =>
      operand.text ++ (between.val ++ sign.operator.sign :: others.text)

end

/-! ## What it comes to -/

/-- What literals, parentheses and signs are read as. -/
structure Reading (α : Type) where
  /-- A literal. -/
  leaf : Literal → α
  /-- Something in parentheses. -/
  group : α → α
  /-- Two parts with a sign between them. -/
  join : Sign → α → α → α

variable {α β : Type}

/-- Fold runs of factors into terms, from left to right: the first term, and the others with the
signs before them. -/
def terms (reading : Reading α) : α → List (Sign × α) → α × List (Sign × α)
  | term, [] => (term, [])
  | term, (sign, operand) :: others =>
      if sign.joinsFactors then terms reading (reading.join sign term operand) others
      else (term, (sign, (terms reading operand others).1) :: (terms reading operand others).2)

/-- Fold a row: runs of factors into terms, and then the terms, from left to right. -/
def total (reading : Reading α) (first : α) (others : List (Sign × α)) : α :=
  (terms reading first others).2.foldl (fun sum next => reading.join next.1 sum next.2)
    (terms reading first others).1

mutual

/-- What an operand comes to. -/
def Operand.fold (reading : Reading α) : Operand → α
  | .literal _ literal => reading.leaf literal
  | .group _ inside _ =>
      reading.group (total reading (inside.row reading).1 (inside.row reading).2)

/-- What the operands of a calculation come to: the first, and the others with the signs before
them. -/
def Calculation.row (reading : Reading α) : Calculation → α × List (Sign × α)
  | .single operand => (operand.fold reading, [])
  | .step operand _ sign others =>
      (operand.fold reading, (sign, (others.row reading).1) :: (others.row reading).2)

end

/-- What a calculation comes to. -/
def Calculation.fold (reading : Reading α) (calculation : Calculation) : α :=
  total reading (calculation.row reading).1 (calculation.row reading).2

/-- Literals are read as their numbers, and signs as their operations. -/
def numbers : Reading Float where
  leaf := Literal.value
  group := id
  join := Sign.operation

/-- Each literal counts one. -/
def literals : Reading Nat where
  leaf _ := 1
  group := id
  join _ left right := left + right

/-- Literals and signs are read as syntax trees. -/
def trees : Reading Expression where
  leaf literal := .number literal.value
  group := id
  join sign left right := .binary left sign.operator right

/-- The number that a calculation comes to. -/
def Calculation.value (calculation : Calculation) : Float :=
  calculation.fold numbers

/-- How many literals a calculation has. -/
def Calculation.count (calculation : Calculation) : Nat :=
  calculation.fold literals

/-- The syntax tree of a calculation. -/
def Calculation.tree (calculation : Calculation) : Expression :=
  calculation.fold trees

/-! ## Two readings -/

/-- Two readings are related step by step, with one relation for operands, one for terms and one for
sums. -/
structure Tiers (first : Reading α) (second : Reading β) (operand term sum : α → β → Prop) :
    Prop where
  /-- Literals are operands. -/
  leaf : ∀ literal, operand (first.leaf literal) (second.leaf literal)
  /-- A sum in parentheses is an operand. -/
  group : ∀ {left right}, sum left right → operand (first.group left) (second.group right)
  /-- An operand is a term. -/
  term_of_operand : ∀ {left right}, operand left right → term left right
  /-- A term is a sum. -/
  sum_of_term : ∀ {left right}, term left right → sum left right
  /-- A term goes on with an operand. -/
  join_term : ∀ {sign left right left' right'}, sign.joinsFactors = true → term left right →
    operand left' right' → term (first.join sign left left') (second.join sign right right')
  /-- A sum goes on with a term. -/
  join_sum : ∀ {sign left right left' right'}, sign.joinsFactors = false → sum left right →
    term left' right' → sum (first.join sign left left') (second.join sign right right')

/-- Signed parts that are related one by one, with the same signs. -/
abbrev Row (rel : α → β → Prop) : List (Sign × α) → List (Sign × β) → Prop :=
  List.Forall₂ fun left right => left.1 = right.1 ∧ rel left.2 right.2

section

variable {first : Reading α} {second : Reading β} {operand term sum : α → β → Prop}
  (h : Tiers first second operand term sum)

include h

/-- Terms are related, and join terms. -/
theorem Tiers.terms_rel {left : α} {right : β} {others : List (Sign × α)}
    {others' : List (Sign × β)} (hterm : term left right) (hothers : Row operand others others') :
    term (terms first left others).1 (terms second right others').1
      ∧ List.Forall₂ (fun next next' => next.1.joinsFactors = false ∧ next.1 = next'.1
          ∧ term next.2 next'.2) (terms first left others).2 (terms second right others').2 := by
  induction hothers generalizing left right with
  | nil => exact ⟨hterm, .nil⟩
  | @cons next next' _ _ hnext _ ih =>
      obtain ⟨sign, value⟩ := next
      obtain ⟨_, value'⟩ := next'
      obtain ⟨rfl, hvalue⟩ := hnext
      rw [terms, terms]
      cases hsign : sign.joinsFactors with
      | true => exact ih (h.join_term hsign hterm hvalue)
      | false =>
          obtain ⟨hfirst, hlater⟩ := ih (h.term_of_operand hvalue)
          exact ⟨hterm, .cons ⟨hsign, rfl, hfirst⟩ hlater⟩

/-- The results of related rows are related. -/
theorem Tiers.total_rel {left : α} {right : β} {others : List (Sign × α)}
    {others' : List (Sign × β)} (hoperand : operand left right)
    (hothers : Row operand others others') :
    sum (total first left others) (total second right others') := by
  obtain ⟨hterm, hterms⟩ := h.terms_rel (h.term_of_operand hoperand) hothers
  have hsum := h.sum_of_term hterm
  rw [total, total]
  generalize terms first left others = folded at hsum hterms ⊢
  generalize terms second right others' = folded' at hsum hterms ⊢
  obtain ⟨start, later⟩ := folded
  obtain ⟨start', later'⟩ := folded'
  change List.Forall₂ _ later later' at hterms
  change sum start start' at hsum
  change sum (later.foldl _ start) (later'.foldl _ start')
  induction hterms generalizing start start' with
  | nil => exact hsum
  | @cons next next' _ _ hnext _ ih =>
      obtain ⟨hsign, hsame, hvalue⟩ := hnext
      rw [List.foldl_cons, List.foldl_cons, ← hsame]
      exact ih _ _ (h.join_sum hsign hsum hvalue)

end

mutual

/-- An operand comes to related things. -/
theorem Operand.fold_rel {first : Reading α} {second : Reading β} {operand term sum : α → β → Prop}
    (h : Tiers first second operand term sum) :
    (written : Operand) → operand (written.fold first) (written.fold second)
  | .literal _ literal => by
      rw [Operand.fold, Operand.fold]
      exact h.leaf literal
  | .group _ inside _ => by
      rw [Operand.fold, Operand.fold]
      exact h.group (h.total_rel (inside.row_rel h).1 (inside.row_rel h).2)

/-- The operands of a calculation come to related things. -/
theorem Calculation.row_rel {first : Reading α} {second : Reading β}
    {operand term sum : α → β → Prop} (h : Tiers first second operand term sum) :
    (written : Calculation) → operand (written.row first).1 (written.row second).1
      ∧ Row operand (written.row first).2 (written.row second).2
  | .single written => by
      rw [Calculation.row, Calculation.row]
      exact ⟨written.fold_rel h, .nil⟩
  | .step written _ sign others => by
      rw [Calculation.row, Calculation.row]
      obtain ⟨hfirst, hothers⟩ := others.row_rel h
      exact ⟨written.fold_rel h, .cons ⟨rfl, hfirst⟩ hothers⟩

end

/-- A calculation comes to related things. -/
theorem Calculation.fold_rel {first : Reading α} {second : Reading β}
    {operand term sum : α → β → Prop} (h : Tiers first second operand term sum)
    (calculation : Calculation) : sum (calculation.fold first) (calculation.fold second) :=
  h.total_rel (calculation.row_rel h).1 (calculation.row_rel h).2

end StackLang.Arithmetic
