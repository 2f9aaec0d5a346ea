import Mathlib.Data.List.Basic
import StackLang.Text.Position

/-! # Positions by counting

The position behind a text is found by going through it character by character. It is also told by
two counts: the newlines, and the characters behind the last of them. So two places in one text have
two positions.

* `Position.behind` — the position behind a text, by counting.
* `Position.behind_append` — going through the text leads there.
* `Position.behind_inj` — positions tell places apart. -/

namespace StackLang.Text.Position

/-- The position behind a text: its newlines are counted, and the characters behind the last of
them. -/
def behind (text : List Char) : Position :=
  ⟨text.count '\n' + 1, (text.reverse.takeWhile (· ≠ '\n')).length + 1⟩

/-- A newline starts a line, any other character goes on with one. -/
theorem behind_concat (text : List Char) (character : Char) :
    behind (text ++ [character]) = (behind text).after character := by
  by_cases hnewline : character = '\n' <;> simp [behind, after, hnewline]

/-- Counting leads where going through a text does. -/
theorem behind_append (before text : List Char) :
    behind (before ++ text) = (behind before).afterAll text := by
  induction text generalizing before with
  | nil => rw [List.append_nil, afterAll_nil]
  | cons character text ih => rw [List.append_cons, ih, behind_concat, afterAll_cons]

/-- More text leads to another position. -/
theorem behind_append_eq_iff {text more : List Char} :
    behind (text ++ more) = behind text ↔ more = [] := by
  constructor
  · intro hsame
    simp only [behind, mk.injEq, List.count_append, List.reverse_append] at hsame
    obtain ⟨hline, hcolumn⟩ := hsame
    -- There is no newline in it, so all of it counts for the column.
    have hnone : '\n' ∉ more := List.count_eq_zero.mp (by omega)
    have hall : ∀ character ∈ more.reverse, decide (character ≠ '\n') = true := by
      intro character hmem
      exact decide_eq_true fun hnewline => hnone (hnewline ▸ List.mem_reverse.mp hmem)
    rw [List.takeWhile_append_of_pos hall, List.length_append, List.length_reverse] at hcolumn
    exact List.length_eq_zero_iff.mp (by omega)
  · rintro rfl
    rw [List.append_nil]

/-- Two places in one text that have the same position are the same. -/
theorem behind_inj {before first second rest other : List Char}
    (htext : first ++ rest = second ++ other)
    (hsame : behind (before ++ first) = behind (before ++ second)) :
    first = second ∧ rest = other := by
  rcases List.append_eq_append_iff.mp htext with ⟨more, rfl, rfl⟩ | ⟨more, rfl, rfl⟩
  · rw [← List.append_assoc, eq_comm, behind_append_eq_iff] at hsame
    subst hsame
    exact ⟨(List.append_nil _).symm, List.nil_append _⟩
  · rw [← List.append_assoc, behind_append_eq_iff] at hsame
    subst hsame
    exact ⟨List.append_nil _, (List.nil_append _).symm⟩

end StackLang.Text.Position
