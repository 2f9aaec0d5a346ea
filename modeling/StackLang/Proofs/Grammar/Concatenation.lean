import StackLang.Proofs.Grammar.Contents
import StackLang.Proofs.Grammar.Module

/-! # Texts one below the other

A text that is read to its end may be followed by another one on a new line: what is read of the two
is what is read of each. The newline may become a terminator, which stands between definitions
without meaning anything.

* `SpellsModule.append` — kinds one after the other.
* `definitions_newline` — the definitions of two texts with a newline between them.
* `definitions_lines` — the definitions of any number of texts, joined by newlines. -/

namespace StackLang.Grammar

open Parse

/-- What two texts spell is spelled by the one behind the other. -/
theorem SpellsModule.append {kinds others : List TokenKind} {found definitions : Module}
    (hfirst : SpellsModule kinds found) (hsecond : SpellsModule others definitions) :
    SpellsModule (kinds ++ others) (found ++ definitions) := by
  induction hfirst with
  | nil => exact hsecond
  | terminator _ ih => exact .terminator ih
  | definition hdefinition _ ih =>
      rw [List.append_assoc]
      exact .definition hdefinition ih

/-- Two texts with a newline between them are read one after the other. -/
theorem definitions_newline {first second : List Char} {found others : List Definition}
    (hfirst : definitions (itemsOf first) = (found, .done () []))
    (hsecond : definitions (itemsOf second) = (others, .done () [])) :
    definitions (itemsOf (first ++ '\n' :: second)) = (found ++ others, .done () []) := by
  obtain ⟨kinds, hreads, hspelled⟩ := definitions_done_iff.mp hfirst
  obtain ⟨kinds', hreads', hspelled'⟩ := definitions_done_iff.mp hsecond
  have hcontents := contentsOf_append (parted_newline second) (reads_itemsOf_iff.mp hreads)
  rw [contentsOf_any_newline, reads_itemsOf_iff.mp hreads', ← List.map_append, ← List.map_append]
    at hcontents
  refine definitions_done_iff.mpr ⟨_, reads_itemsOf_iff.mpr hcontents, hspelled.append ?_⟩
  cases endsBehind false kinds with
  | true => exact .terminator hspelled'
  | false => exact hspelled'

/-- Texts joined by newlines are read one after the other. -/
theorem definitions_lines {texts : List (List Char)} {found : List Char → List Definition}
    (h : ∀ text ∈ texts, definitions (itemsOf text) = (found text, .done () [])) :
    definitions (itemsOf (['\n'].intercalate texts)) = (texts.flatMap found, .done () []) := by
  induction texts with
  | nil => exact definitions_done_iff.mpr ⟨[], reads_itemsOf_iff.mpr (contentsOf_nil false), .nil⟩
  | cons first others ih =>
      have hfirst := h first List.mem_cons_self
      cases others with
      | nil =>
          rw [List.intercalate_singleton, List.flatMap_singleton]
          exact hfirst
      | cons second others =>
          rw [List.intercalate_cons_cons, List.append_assoc, List.flatMap_cons]
          exact definitions_newline hfirst (ih fun text hmem => h text (List.mem_cons_of_mem _ hmem))

end StackLang.Grammar
