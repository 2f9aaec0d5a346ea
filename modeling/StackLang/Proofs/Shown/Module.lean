import Mathlib
import StackLang.Proofs.Grammar.Contents
import StackLang.Proofs.Shown.Statement

/-! # Printed programs are unambiguous

A definition ends where the indentation of its body ends, and a module is its definitions one after
the other. So the text of a module tells the module, if its numbers are finite; the names of a
module that was parsed are spelled so that they are told from reserved words and numbers.

* `definition_append_inj`, `module_inj` — definitions and modules are told apart by their texts.
* `shown_unambiguous` — parsed modules with finite numbers and the same text are the same. -/

namespace StackLang.Shown

variable {rest rest' : List Char}

/-! ## Definitions -/

theorem definition_append (definition : Definition) (rest : List Char) :
    definition.shown ++ rest = "defun ".toList ++ (definition.name.toList ++ '('
      :: (commaSeparated (definition.parameters.map String.toList) ++ [')']
        ++ (" =\n".toList ++ (Statement.linesAt 1 definition.body ++ closing 0 rest)))) := by
  have hclose : ") =\n".toList = ')' :: " =\n".toList := by simp
  have hend : closing 0 rest = "end".toList ++ rest := by
    rw [closing, Keyword.word, indentation, Nat.mul_zero, List.replicate_zero, List.nil_append]
  unfold Definition.shown
  simp only [hclose, hend, List.append_assoc, List.cons_append, List.nil_append]

theorem startsInside_name {name : String} (h : IsName name) : StartsInside name.toList := by
  obtain ⟨first, tail, htext, -⟩ := h.exists_first
  refine ⟨first, tail, htext, ?_⟩
  rintro rfl
  exact absurd (h.isWordPart ')' (htext ▸ List.mem_cons_self)) (by decide)

/-- Definitions are told apart by their texts, before any other text. -/
theorem definition_append_inj {definition other : Definition} (h : Proper definition.leaves)
    (h' : Proper other.leaves) (hsame : definition.shown ++ rest = other.shown ++ rest') :
    definition = other ∧ rest = rest' := by
  obtain ⟨name, parameters, body⟩ := definition
  obtain ⟨name', parameters', body'⟩ := other
  simp only [Definition.leaves, proper_cons, proper_append] at h h'
  obtain ⟨hname, hparameters, hbody⟩ := h
  obtain ⟨hname', hparameters', hbody'⟩ := h'
  have hisName : ∀ {parameters : List String}, Proper (parameters.map .name) →
      ∀ parameter ∈ parameters, IsName parameter :=
    fun hproper parameter hmem => hproper _ (List.mem_map_of_mem hmem)
  -- The name ends at the first parenthesis, the parameters end at the second one, and the body ends
  -- at its `end`.
  rw [definition_append, definition_append, List.append_cancel_left_eq] at hsame
  obtain ⟨rfl, hinside⟩ := hname.append_inj hname' (called_openParen _).apart_word
    (called_openParen _).apart_word hsame
  obtain ⟨rfl, hbehind⟩ := commaSeparated_append_inj
    (fun _ hmem => startsInside_name (hisName hparameters _ hmem))
    (fun _ hmem => startsInside_name (hisName hparameters' _ hmem))
    (fun parameter hmem other hother _ _ hrest hrest' htexts =>
      (hisName hparameters _ hmem).append_inj (hisName hparameters' _ hother)
        hrest.called.apart_word hrest'.called.apart_word htexts)
    (List.cons.inj hinside).2
  rw [List.append_cancel_left_eq] at hbehind
  obtain ⟨rfl, hend⟩ := linesAt_append_inj body hbody hbody' hbehind
  exact ⟨rfl, hend⟩

/-- Modules are told apart by their texts. -/
theorem module_inj {definitions others : Module} (h : Proper (Module.leaves definitions))
    (h' : Proper (Module.leaves others)) (hsame : Module.shown definitions = Module.shown others) :
    definitions = others := by
  have hcons : ∀ (first : Definition) (later : Module),
      Module.shown (first :: later) = first.shown ++ '\n' :: Module.shown later := by
    intro first later
    rw [Module.shown, List.flatMap_cons, List.append_assoc]
    rfl
  have hne : ∀ (first : Definition) (later : Module), Module.shown (first :: later) ≠ [] := by
    intro first later
    rw [hcons]
    exact List.append_ne_nil_of_right_ne_nil _ (List.cons_ne_nil _ _)
  induction definitions generalizing others with
  | nil =>
      cases others with
      | nil => rfl
      | cons first' later' => exact absurd hsame.symm (hne first' later')
  | cons first later ih =>
      cases others with
      | nil => exact absurd hsame (hne first later)
      | cons first' later' =>
          rw [hcons, hcons] at hsame
          rw [Module.leaves, List.flatMap_cons, proper_append] at h h'
          obtain ⟨rfl, hbehind⟩ := definition_append_inj h.1 h'.1 hsame
          rw [ih h.2 h'.2 (List.cons.inj hbehind).2]

/-! ## Parsed modules -/

/-- The leaves of a parsed module are proper if its numbers are finite. -/
theorem proper_of_parsed {source : List Char} {found : Module} {rest : List Item}
    (h : Parse.module (itemsOf source) = .done found rest)
    (hfinite : ∀ value, .number value ∈ Module.leaves found → Numeral.IsFinite value) :
    Proper (Module.leaves found) := by
  rintro (value | name) hmem
  · exact hfinite value hmem
  · exact isName_of_parsed h hmem

/-- A function with a number for its body is parsed from each text that reads as the number. -/
theorem module_number {first : Char} {tail : List Char} {value : Float}
    (hfirst : Text.isNumeric first = true)
    (htail : ∀ character ∈ tail, Lexeme.isNumberPart character = true)
    (hread : Numeral.read? (first :: tail) = some value) :
    Parse.module (itemsOf (['d', 'e', 'f', 'u', 'n', ' ', 'f', '(', ')', '=']
        ++ ' ' :: (first :: tail ++ [' ', 'e', 'n', 'd'])))
      = .done [⟨"f", [], [.expression (.number value)]⟩] [] := by
  have hstatement : Grammar.SpellsStatement [.number value] (.keyword .endWord)
      (.expression (.number value)) := by
    refine .expression (.raise (.raise (.raise (.number value)))) ?_
    rintro (hparen | ⟨sign, hsign⟩)
    · cases hparen
    · cases hsign
  have hspelled : Grammar.SpellsModule [.keyword .defunWord, .identifier "f",
      .delimiter .openParen, .delimiter .closeParen, .delimiter .equals, .number value,
      .keyword .endWord] [⟨"f", [], [.expression (.number value)]⟩] :=
    .definition (.plain "f" (.statement hstatement .close)) .nil
  have hbefore : Grammar.contentsOf false ['d', 'e', 'f', 'u', 'n', ' ', 'f', '(', ')', '=']
      = [TokenKind.keyword .defunWord, .identifier "f", .delimiter .openParen,
        .delimiter .closeParen, .delimiter .equals].map .ok := by cbv
  have hnumber : Grammar.contentsOf false (first :: tail)
      = [TokenKind.number value].map .ok := by
    obtain ⟨hblank, htext⟩ := ofText_number hfirst htail Grammar.parted_nil
    rw [numberContent_of_read? hfirst, hread, List.append_nil] at htext
    rw [Grammar.contentsOf_lexeme tail hblank, htext, Grammar.contentsOf_nil]
    rfl
  have hend : Grammar.contentsOf true [' ', 'e', 'n', 'd']
      = [TokenKind.keyword .endWord].map .ok := by cbv
  have hspace : ∀ text, Grammar.Parted (' ' :: text) :=
    fun text => Grammar.parted_cons text (by decide)
  have hbehind : Grammar.contentsOf false (' ' :: (first :: tail ++ [' ', 'e', 'n', 'd']))
      = [TokenKind.number value, .keyword .endWord].map .ok := by
    rw [Grammar.contentsOf_blank _ (by decide) (by simp)]
    exact (Grammar.contentsOf_append (hspace _) hnumber).trans (congrArg _ hend)
  refine Grammar.module_done_iff.mpr ⟨rfl, _, Grammar.reads_itemsOf_iff.mpr ?_, hspelled⟩
  exact (Grammar.contentsOf_append (hspace _) hbefore).trans (congrArg _ hbehind)

/-- Modules that were parsed from any two texts, and whose numbers are finite, are the same if they
are printed alike. -/
theorem shown_unambiguous {first second : List Char} {found found' : Module}
    {rest rest' : List Item} (h : Parse.module (itemsOf first) = .done found rest)
    (h' : Parse.module (itemsOf second) = .done found' rest')
    (hfinite : ∀ value, .number value ∈ Module.leaves found → Numeral.IsFinite value)
    (hfinite' : ∀ value, .number value ∈ Module.leaves found' → Numeral.IsFinite value)
    (hsame : Module.shown found = Module.shown found') : found = found' :=
  module_inj (proper_of_parsed h hfinite) (proper_of_parsed h' hfinite') hsame

/-- A function whose number is written with a point, and without one. -/
theorem shown_unambiguous_one :
    let first := ['d', 'e', 'f', 'u', 'n', ' ', 'f', '(', ')', '=', ' ', '1', ' ', 'e', 'n', 'd']
    let second := ['d', 'e', 'f', 'u', 'n', ' ', 'f', '(', ')', '=', ' ', '1', '.', '0', ' ', 'e',
      'n', 'd']
    let found : Module := [⟨"f", [], [.expression (.number 1)]⟩]
    let found' : Module := [⟨"f", [], [.expression (.number (.ofScientific 10 true 1))]⟩]
    Parse.module (itemsOf first) = .done found [] ∧ Parse.module (itemsOf second) = .done found' []
      ∧ (∀ value, .number value ∈ Module.leaves found → Numeral.IsFinite value)
      ∧ (∀ value, .number value ∈ Module.leaves found' → Numeral.IsFinite value)
      ∧ Module.shown found = "defun f() =\n  1;\nend\n".toList
      ∧ Module.shown found' = "defun f() =\n  1;\nend\n".toList ∧ found = found' := by
  intro first second found found'
  have hfirst : Parse.module (itemsOf first) = .done found [] :=
    module_number (by decide) (List.forall_mem_nil _) rfl
  have hsecond : Parse.module (itemsOf second) = .done found' [] :=
    @module_number '1' ['.', '0'] _ (by decide) (by simp; decide) rfl
  have hfinite : ∀ value, .number value ∈ Module.leaves found → Numeral.IsFinite value := by
    intro value hmem
    change _ ∈ [Leaf.name "f", .number 1] at hmem
    obtain rfl : value = 1 := by simpa using hmem
    unfold Numeral.IsFinite
    decide
  have hfinite' : ∀ value, .number value ∈ Module.leaves found' → Numeral.IsFinite value := by
    intro value hmem
    change _ ∈ [Leaf.name "f", .number (.ofScientific 10 true 1)] at hmem
    obtain rfl : value = .ofScientific 10 true 1 := by simpa using hmem
    unfold Numeral.IsFinite
    decide
  have hshown : Module.shown found = "defun f() =\n  1;\nend\n".toList := by decide +kernel
  have hshown' : Module.shown found' = "defun f() =\n  1;\nend\n".toList := by decide +kernel
  exact ⟨hfirst, hsecond, hfinite, hfinite', hshown, hshown',
    shown_unambiguous hfirst hsecond hfinite hfinite' (hshown.trans hshown'.symm)⟩

-- An infinite number has the text of a name.
example : Module.shown [⟨"f", [], [.expression (.number Numeral.infinity)]⟩]
    = Module.shown [⟨"f", [], [.expression (.name "inf")]⟩] := by
  decide +kernel

end StackLang.Shown
