import Mathlib
import StackLang.Syntax.Shown
import StackLang.Proofs.Token.Lexemes

/-! # Texts before a delimiter

An expression has no sign of its own at its end. What stands behind it in the text of a program is
one of a few signs, and these go on with no word and with no number. Texts that tell where they end
before such a sign can be separated by commas and put in parentheses.

* `Delimited`, `Called` — what stands behind a whole expression, and behind one that is called.
* `commaSeparated_append_inj` — texts in parentheses are told apart if each of them is. -/

namespace StackLang.Shown

/-- The signs that stand behind an expression. -/
def delimiters : List Char :=
  [' ', ')', ',', ';']

/-- The text is one that stands behind an expression: it is empty or starts with a delimiter. -/
def Delimited (text : List Char) : Prop :=
  ∀ character ∈ text.head?, character ∈ delimiters

/-- The text is one that stands behind an expression, or behind one that is called. -/
def Called (text : List Char) : Prop :=
  ∀ character ∈ text.head?, character ∈ '(' :: delimiters

theorem delimited_cons {delimiter : Char} (h : delimiter ∈ delimiters) (text : List Char) :
    Delimited (delimiter :: text) := by
  intro character hhead
  cases hhead
  exact h

theorem not_delimited_openParen (text : List Char) : ¬ Delimited ('(' :: text) :=
  fun h => absurd (h '(' rfl) (by decide)

theorem Delimited.called {text : List Char} (h : Delimited text) : Called text :=
  fun character hhead => List.mem_cons_of_mem _ (h character hhead)

theorem called_openParen (text : List Char) : Called ('(' :: text) := by
  intro character hhead
  cases hhead
  exact List.mem_cons_self

/-- What stands behind a called expression does not go on with a class of characters that none of
the signs belongs to. -/
theorem Called.apart {text : List Char} (h : Called text) {p : Char → Bool}
    (hp : ∀ character ∈ '(' :: delimiters, p character = false) : Apart p text :=
  fun character hhead => hp character (h character hhead)

/-- It goes on with no word. -/
theorem Called.apart_word {text : List Char} (h : Called text) : Apart Text.isWordPart text :=
  h.apart (by simp [delimiters]; decide)

/-! ## Texts in parentheses -/

/-- What stands behind the first of several texts in parentheses: the others, each behind a comma,
and the closing parenthesis. -/
def behindFirst : List (List Char) → List Char
  | [] => [')']
  | next :: others => ',' :: ' ' :: (next ++ behindFirst others)

theorem commaSeparated_cons (first : List Char) (others : List (List Char)) :
    commaSeparated (first :: others) ++ [')'] = first ++ behindFirst others := by
  induction others generalizing first with
  | nil => rfl
  | cons next others ih =>
      rw [commaSeparated, List.append_assoc, List.append_assoc, ih]
      · rfl
      · simp

theorem delimited_behindFirst (others : List (List Char)) (rest : List Char) :
    Delimited (behindFirst others ++ rest) := by
  cases others with
  | nil => exact delimited_cons (by decide) _
  | cons next others => exact delimited_cons (by decide) _

variable {α : Type} {shown : α → List Char} {values others : List α} {rest rest' : List Char}

/-- Two values with texts that tell where they end and what they are of, before a delimiter. -/
def ToldApart (shown : α → List Char) (value other : α) : Prop :=
  ∀ rest rest', Delimited rest → Delimited rest' →
    shown value ++ rest = shown other ++ rest' → value = other ∧ rest = rest'

theorem behindFirst_append_inj
    (hinj : ∀ value ∈ values, ∀ other ∈ others, ToldApart shown value other)
    (h : behindFirst (values.map shown) ++ rest = behindFirst (others.map shown) ++ rest') :
    values = others ∧ rest = rest' := by
  induction values generalizing others with
  | nil =>
      cases others with
      | nil => exact ⟨rfl, (List.cons.inj h).2⟩
      | cons other others => exact absurd (List.cons.inj h).1 (by decide)
  | cons value values ih =>
      cases others with
      | nil => exact absurd (List.cons.inj h).1 (by decide)
      | cons other others =>
          simp only [List.map_cons, behindFirst, List.cons_append, List.append_assoc,
            List.cons.injEq, true_and] at h
          obtain ⟨rfl, hlater⟩ := hinj value List.mem_cons_self other List.mem_cons_self _ _
            (delimited_behindFirst _ _) (delimited_behindFirst _ _) h
          obtain ⟨rfl, hrest⟩ := ih (fun value hvalue other hother =>
            hinj value (List.mem_cons_of_mem _ hvalue) other (List.mem_cons_of_mem _ hother)) hlater
          exact ⟨rfl, hrest⟩

/-- A text that is not empty and does not start with a closing parenthesis. -/
def StartsInside (text : List Char) : Prop :=
  ∃ first tail, text = first :: tail ∧ first ≠ ')'

/-- There is a first text in parentheses just if they do not close at once. -/
theorem StartsInside.ne_close {first : List Char} (h : StartsInside first)
    (later : List (List Char)) :
    commaSeparated (first :: later) ++ [')'] ++ rest ≠ ')' :: rest' := by
  obtain ⟨character, tail, rfl, hne⟩ := h
  rw [commaSeparated_cons]
  exact fun hsame => hne (List.cons.inj hsame).1

/-- Texts in parentheses are told apart if each of them is. -/
theorem commaSeparated_append_inj
    (hstart : ∀ value ∈ values, StartsInside (shown value))
    (hstart' : ∀ other ∈ others, StartsInside (shown other))
    (hinj : ∀ value ∈ values, ∀ other ∈ others, ToldApart shown value other)
    (h : commaSeparated (values.map shown) ++ [')'] ++ rest
      = commaSeparated (others.map shown) ++ [')'] ++ rest') :
    values = others ∧ rest = rest' := by
  cases values with
  | nil =>
      cases others with
      | nil => exact ⟨rfl, (List.cons.inj h).2⟩
      | cons other others =>
          exact absurd h.symm ((hstart' other List.mem_cons_self).ne_close _)
  | cons value values =>
      cases others with
      | nil => exact absurd h ((hstart value List.mem_cons_self).ne_close _)
      | cons other others =>
          -- With a comma before both of them, the first ones are like the others.
          refine behindFirst_append_inj hinj ?_
          rw [List.map_cons, List.map_cons, commaSeparated_cons, commaSeparated_cons] at h
          rw [List.map_cons, List.map_cons, behindFirst, behindFirst, List.cons_append,
            List.cons_append, List.cons_append, List.cons_append, h]

end StackLang.Shown
