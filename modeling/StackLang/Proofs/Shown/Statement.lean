import Mathlib
import StackLang.Proofs.Shown.Expression

/-! # Statements are told apart by their texts

A statement starts with a reserved word or is an expression, and no expression starts with a
reserved word. It ends with a semicolon or with `end`. A body goes on while its lines are indented
more than the `end` behind it.

* `opening`, `opening_eq` — the reserved word that a statement starts with, from its text.
* `semicolon_append_inj`, `binding_append_inj`, `returning_append_inj` — statements of one line.
* `shownAt_append_inj`, `linesAt_append_inj` — statements and bodies of any depth. -/

namespace StackLang.Shown

open Statement

variable {depth : Nat} {rest rest' : List Char}

/-! ## The text of a statement, before other text -/

theorem binding_append (depth : Nat) (name : String) (initializer : Expression)
    (rest : List Char) : (binding name initializer).shownAt depth ++ rest
      = indentation depth ++ (Keyword.letWord.word.toList ++ ' ' :: (name.toList
        ++ ' ' :: '=' :: ' ' :: (initializer.shown ++ ';' :: rest))) := by
  simp [shownAt, Keyword.word]

/-- What stands behind the word `return`, before other text. -/
def behindReturn (rest : List Char) : Option Expression → List Char
  | none => ';' :: rest
  | some value => ' ' :: (value.shown ++ ';' :: rest)

theorem returning_append (depth : Nat) (value : Option Expression) (rest : List Char) :
    (returning value).shownAt depth ++ rest
      = indentation depth ++ (Keyword.returnWord.word.toList ++ behindReturn rest value) := by
  cases value with
  | none => simp [shownAt, Keyword.word, behindReturn]
  | some value => simp [shownAt, Keyword.word, behindReturn]

theorem expression_append (depth : Nat) (evaluated : Expression) (rest : List Char) :
    (expression evaluated).shownAt depth ++ rest
      = indentation depth ++ (evaluated.shown ++ ';' :: rest) := by
  simp [shownAt]

/-- The word `end` in its line, before other text. -/
def closing (depth : Nat) (rest : List Char) : List Char :=
  indentation depth ++ (Keyword.endWord.word.toList ++ rest)

theorem block_append (depth : Nat) (statements : List Statement) (rest : List Char) :
    (block statements).shownAt depth ++ rest
      = indentation depth ++ (Keyword.doWord.word.toList
        ++ '\n' :: (linesAt (depth + 1) statements ++ closing depth rest)) := by
  simp [shownAt, Keyword.word, closing]

theorem linesAt_cons_append (depth : Nat) (first : Statement) (later : List Statement)
    (rest : List Char) : linesAt depth (first :: later) ++ rest
      = first.shownAt depth ++ '\n' :: (linesAt depth later ++ rest) := by
  rw [linesAt, List.append_assoc, List.cons_append]

/-! ## How statements start -/

/-- The reserved word that a statement starts with, if it starts with one. -/
def opening : Statement → Option Keyword
  | .binding _ _ => some .letWord
  | .returning _ => some .returnWord
  | .expression _ => none
  | .block _ => some .doWord

/-- A statement starts with its reserved word, or it is an expression. -/
theorem exists_opening (statement : Statement) (depth : Nat) (rest : List Char) :
    (∃ reserved behind, opening statement = some reserved ∧ Apart Text.isWordPart behind
        ∧ statement.shownAt depth ++ rest
          = indentation depth ++ (reserved.word.toList ++ behind))
      ∨ ∃ evaluated, statement = .expression evaluated := by
  have hapart : ∀ first, Text.isWordPart first = false → ∀ behind,
      Apart Text.isWordPart (first :: behind) := by
    rintro first hfirst behind _ ⟨⟩
    exact hfirst
  match statement with
  | .binding name initializer =>
      exact .inl ⟨_, _, rfl, hapart ' ' (by decide) _, binding_append _ _ _ _⟩
  | .returning (some value) =>
      exact .inl ⟨_, _, rfl, hapart ' ' (by decide) _, returning_append _ _ _⟩
  | .returning none => exact .inl ⟨_, _, rfl, hapart ';' (by decide) _, returning_append _ _ _⟩
  | .expression evaluated => exact .inr ⟨evaluated, rfl⟩
  | .block statements =>
      exact .inl ⟨_, _, rfl, hapart '\n' (by decide) _, block_append _ _ _⟩

/-- A statement stands behind its indentation. -/
theorem exists_shownAt (statement : Statement) (depth : Nat) :
    ∃ tail, statement.shownAt depth = indentation depth ++ tail := by
  rcases exists_opening statement depth [] with ⟨_, _, -, -, htext⟩ | ⟨evaluated, rfl⟩
  · rw [List.append_nil] at htext
    exact ⟨_, htext⟩
  · have htext := expression_append depth evaluated []
    rw [List.append_nil] at htext
    exact ⟨_, htext⟩

theorem word_inj {reserved other : Keyword} (h : reserved.word.toList = other.word.toList) :
    reserved = other := by
  have hfound := Keyword.ofWord?_word reserved
  rw [String.toList_inj.mp h, Keyword.ofWord?_word] at hfound
  exact (Option.some.inj hfound).symm

/-- The text of a statement tells the reserved word that it starts with. -/
theorem opening_eq {statement other : Statement} (h : Proper statement.leaves)
    (h' : Proper other.leaves)
    (hsame : statement.shownAt depth ++ rest = other.shownAt depth ++ rest') :
    opening statement = opening other := by
  -- Two reserved words, a reserved word and an expression, or two expressions.
  rcases exists_opening statement depth rest with
    ⟨reserved, behind, hopening, hapart, htext⟩ | ⟨evaluated, rfl⟩
    <;> rcases exists_opening other depth rest' with
      ⟨reserved', behind', hopening', hapart', htext'⟩ | ⟨evaluated', rfl⟩
  · rw [htext, htext', List.append_cancel_left_eq] at hsame
    obtain rfl := word_inj (append_inj_of_apart (isWordPart_word reserved) hapart
      (isWordPart_word reserved') hapart' hsame).1
    rw [hopening, hopening']
  · rw [htext, expression_append, List.append_cancel_left_eq] at hsame
    exact absurd hsame.symm
      (shown_append_ne_word h' reserved (delimited_cons (by decide) _) hapart)
  · rw [htext', expression_append, List.append_cancel_left_eq] at hsame
    exact absurd hsame (shown_append_ne_word h reserved' (delimited_cons (by decide) _) hapart')
  · rfl

/-! ## Statements of one line -/

/-- An expression is told apart before the semicolon behind it. -/
theorem semicolon_append_inj {evaluated evaluated' : Expression}
    (h : Proper evaluated.leaves) (h' : Proper evaluated'.leaves)
    (hsame : evaluated.shown ++ ';' :: rest = evaluated'.shown ++ ';' :: rest') :
    evaluated = evaluated' ∧ rest = rest' := by
  obtain ⟨rfl, hend⟩ := readable h _ h' _ _ (delimited_cons (by decide) _)
    (delimited_cons (by decide) _) hsame
  exact ⟨rfl, (List.cons.inj hend).2⟩

theorem binding_append_inj {name name' : String} {initializer initializer' : Expression}
    (h : Proper (binding name initializer).leaves) (h' : Proper (binding name' initializer').leaves)
    (hsame : (binding name initializer).shownAt depth ++ rest
      = (binding name' initializer').shownAt depth ++ rest') :
    binding name initializer = binding name' initializer' ∧ rest = rest' := by
  obtain ⟨hname, hinitializer⟩ := proper_cons.mp h
  obtain ⟨hname', hinitializer'⟩ := proper_cons.mp h'
  rw [binding_append, binding_append, List.append_cancel_left_eq, List.append_cancel_left_eq]
    at hsame
  have hspace := fun text => (delimited_cons (show ' ' ∈ delimiters by decide) text).called
  obtain ⟨rfl, hvalue⟩ := hname.append_inj hname' (hspace _).apart_word (hspace _).apart_word
    (List.cons.inj hsame).2
  simp only [List.cons.injEq, true_and] at hvalue
  obtain ⟨rfl, hend⟩ := semicolon_append_inj hinitializer hinitializer' hvalue
  exact ⟨rfl, hend⟩

/-- A space or a semicolon behind the word tells whether there is a value. -/
theorem returning_append_inj {value value' : Option Expression}
    (h : Proper (returning value).leaves) (h' : Proper (returning value').leaves)
    (hsame : (returning value).shownAt depth ++ rest
      = (returning value').shownAt depth ++ rest') : value = value' ∧ rest = rest' := by
  rw [returning_append, returning_append, List.append_cancel_left_eq, List.append_cancel_left_eq]
    at hsame
  cases value with
  | none =>
      cases value' with
      | none => exact ⟨rfl, (List.cons.inj hsame).2⟩
      | some value' => exact absurd (List.cons.inj hsame).1 (by decide)
  | some value =>
      cases value' with
      | none => exact absurd (List.cons.inj hsame).1 (by decide)
      | some value' =>
          obtain ⟨rfl, hend⟩ := semicolon_append_inj h h' (List.cons.inj hsame).2
          exact ⟨rfl, hend⟩

/-! ## Bodies -/

theorem indentation_succ (depth : Nat) :
    indentation (depth + 1) = indentation depth ++ [' ', ' '] := by
  rw [indentation, indentation, Nat.mul_add, List.replicate_add]
  rfl

/-- A line of a body is indented more than the `end` behind the body. -/
theorem closing_ne_linesAt (first : Statement) (later : List Statement) :
    closing depth rest ≠ linesAt (depth + 1) (first :: later) ++ rest' := by
  obtain ⟨tail, htext⟩ := exists_shownAt first (depth + 1)
  rw [linesAt_cons_append, htext, closing, indentation_succ, List.append_assoc, List.append_assoc]
  intro hsame
  -- Behind the spaces of the `end` there would be a letter and a space at once.
  exact absurd (List.cons.inj (List.append_cancel_left hsame)).1 (by decide)

mutual

/-- Statements are told apart by their texts, before any other text. -/
theorem shownAt_append_inj : (statement : Statement) → Proper statement.leaves →
    ∀ {depth : Nat} {other : Statement} {rest rest' : List Char}, Proper other.leaves →
      statement.shownAt depth ++ rest = other.shownAt depth ++ rest' →
        statement = other ∧ rest = rest'
  | .binding name initializer, h, _, other, _, _, h', hsame => by
      have hopening := opening_eq h h' hsame
      cases other with
      | binding name' initializer' => exact binding_append_inj h h' hsame
      | _ => cases hopening
  | .returning value, h, _, other, _, _, h', hsame => by
      have hopening := opening_eq h h' hsame
      cases other with
      | returning value' =>
          obtain ⟨rfl, hend⟩ := returning_append_inj h h' hsame
          exact ⟨rfl, hend⟩
      | _ => cases hopening
  | .expression evaluated, h, _, other, _, _, h', hsame => by
      have hopening := opening_eq h h' hsame
      cases other with
      | expression evaluated' =>
          rw [expression_append, expression_append, List.append_cancel_left_eq] at hsame
          obtain ⟨rfl, hend⟩ := semicolon_append_inj h h' hsame
          exact ⟨rfl, hend⟩
      | _ => cases hopening
  | .block statements, h, _, other, _, _, h', hsame => by
      have hopening := opening_eq h h' hsame
      cases other with
      | block statements' =>
          rw [block_append, block_append, List.append_cancel_left_eq, List.append_cancel_left_eq]
            at hsame
          obtain ⟨rfl, hend⟩ := linesAt_append_inj statements h h' (List.cons.inj hsame).2
          exact ⟨rfl, hend⟩
      | _ => cases hopening

/-- Bodies are told apart by their lines, before the `end` that closes them. -/
theorem linesAt_append_inj : (statements : List Statement) → Proper (leavesAll statements) →
    ∀ {depth : Nat} {others : List Statement} {rest rest' : List Char},
      Proper (leavesAll others) →
      linesAt (depth + 1) statements ++ closing depth rest
        = linesAt (depth + 1) others ++ closing depth rest' →
        statements = others ∧ rest = rest'
  | [], _, depth, others, rest, rest', _, hsame => by
      cases others with
      | nil =>
          rw [linesAt, List.nil_append, List.nil_append, closing, closing,
            List.append_cancel_left_eq, List.append_cancel_left_eq] at hsame
          exact ⟨rfl, hsame⟩
      | cons first' later' => exact absurd hsame (closing_ne_linesAt first' later')
  | first :: later, h, depth, others, rest, rest', h', hsame => by
      cases others with
      | nil => exact absurd hsame.symm (closing_ne_linesAt first later)
      | cons first' later' =>
          obtain ⟨hfirst, hlater⟩ := proper_append.mp h
          obtain ⟨hfirst', hlater'⟩ := proper_append.mp h'
          rw [linesAt_cons_append, linesAt_cons_append] at hsame
          obtain ⟨rfl, hbehind⟩ := shownAt_append_inj first hfirst hfirst' hsame
          obtain ⟨rfl, hend⟩ := linesAt_append_inj later hlater hlater' (List.cons.inj hbehind).2
          exact ⟨rfl, hend⟩

end

end StackLang.Shown
