import Mathlib
import StackLang.Proofs.Grammar.Module
import StackLang.Proofs.Token.Lossless

/-! # The numbers and the names of a program

The leaves of a tree are the numbers and the names among the tokens that spell it. A name that was
read from a source text is a word, does not start like a number, and is not reserved.

* `Leaf`, `Expression.leaves`, `Statement.leaves`, `Definition.leaves`, `Module.leaves` — the
  numbers and the names of a tree, in order.
* `SpellsModule.leaves_eq` — they are found among the tokens.
* `IsName`, `isName_of_parsed` — what a name is, and that a parsed module has no other ones. -/

namespace StackLang

/-- A number or a name in a tree. -/
inductive Leaf where
  /-- A number. -/
  | number (value : Float)
  /-- A name: one that is bound, defined or used. -/
  | name (spelling : String)

/-- The leaf that a token makes, if it makes one. -/
def Leaf.ofKind? : TokenKind → Option Leaf
  | .number value => some (.number value)
  | .identifier spelling => some (.name spelling)
  | _ => none

mutual

/-- The leaves of an expression. -/
def Expression.leaves : Expression → List Leaf
  | .number value => [.number value]
  | .text _ => []
  | .name spelling => [.name spelling]
  | .binary left _ right => left.leaves ++ right.leaves
  | .call callee arguments => callee.leaves ++ Expression.leavesAll arguments

/-- The leaves of several expressions. -/
def Expression.leavesAll : List Expression → List Leaf
  | [] => []
  | first :: rest => first.leaves ++ Expression.leavesAll rest

end

mutual

/-- The leaves of a statement. -/
def Statement.leaves : Statement → List Leaf
  | .binding name initializer => .name name :: initializer.leaves
  | .returning (some value) => value.leaves
  | .returning none => []
  | .expression evaluated => evaluated.leaves
  | .block statements => Statement.leavesAll statements

/-- The leaves of several statements. -/
def Statement.leavesAll : List Statement → List Leaf
  | [] => []
  | first :: rest => first.leaves ++ Statement.leavesAll rest

end

/-- The leaves of a definition. -/
def Definition.leaves (definition : Definition) : List Leaf :=
  .name definition.name :: (definition.parameters.map .name
    ++ Statement.leavesAll definition.body)

/-- The leaves of a module. -/
def Module.leaves (definitions : Module) : List Leaf :=
  definitions.flatMap Definition.leaves

namespace Grammar

/-! ## The leaves among the tokens -/

mutual

theorem SpellsExpression.leaves_eq {tier : Nat} {kinds : List TokenKind}
    {expression : Expression} : SpellsExpression tier kinds expression →
      kinds.filterMap Leaf.ofKind? = expression.leaves
  | .number value => rfl
  | .text contents => rfl
  | .name spelling => rfl
  | .parenthesized h => by simp [List.filterMap_cons, Leaf.ofKind?, h.leaves_eq]
  | .operation _ hleft hright => by
      simp [List.filterMap_cons, Leaf.ofKind?, Expression.leaves, hleft.leaves_eq, hright.leaves_eq]
  | .emptyCall hcallee => by
      simp [List.filterMap_cons, Leaf.ofKind?, Expression.leaves, Expression.leavesAll,
        hcallee.leaves_eq]
  | .call hcallee harguments => by
      simp [List.filterMap_cons, Leaf.ofKind?, Expression.leaves, hcallee.leaves_eq,
        harguments.leaves_eq]
  | .raise h => h.leaves_eq

theorem SpellsArguments.leaves_eq {kinds : List TokenKind} {values : List Expression} :
    SpellsArguments kinds values →
      kinds.filterMap Leaf.ofKind? = Expression.leavesAll values
  | .last h => by simp [List.filterMap_cons, Leaf.ofKind?, Expression.leavesAll, h.leaves_eq]
  | .more h hothers => by
      simp [List.filterMap_cons, Leaf.ofKind?, Expression.leavesAll, h.leaves_eq, hothers.leaves_eq]

end

mutual

theorem SpellsStatement.leaves_eq {kinds : List TokenKind} {next : TokenKind}
    {statement : Statement} : SpellsStatement kinds next statement →
      kinds.filterMap Leaf.ofKind? = statement.leaves
  | .binding name h _ => by simp [List.filterMap_cons, Leaf.ofKind?, Statement.leaves, h.leaves_eq]
  | .returningTerminated _ => rfl
  | .returning => rfl
  | .returningValue h _ => by
      simp [List.filterMap_cons, Leaf.ofKind?, Statement.leaves, h.leaves_eq]
  | .block _ h => by simp [List.filterMap_cons, Leaf.ofKind?, Statement.leaves, h.leaves_eq]
  | .expression h _ => h.leaves_eq

theorem SpellsBody.leaves_eq {kinds : List TokenKind} {body : List Statement} :
    SpellsBody kinds body → kinds.filterMap Leaf.ofKind? = Statement.leavesAll body
  | .close => rfl
  | .terminator h => h.leaves_eq
  | .statement hfirst h => by
      rw [List.filterMap_append, hfirst.leaves_eq, h.leaves_eq, Statement.leavesAll]

end

theorem SpellsParameters.leaves_eq {kinds : List TokenKind} {names : List String}
    (h : SpellsParameters kinds names) : kinds.filterMap Leaf.ofKind? = names.map .name := by
  induction h with
  | last name => rfl
  | more name _ ih => simp [List.filterMap_cons, Leaf.ofKind?, ih]

theorem SpellsDefinition.leaves_eq {kinds : List TokenKind} {found : Definition}
    (h : SpellsDefinition kinds found) : kinds.filterMap Leaf.ofKind? = found.leaves := by
  cases h with
  | plain name h => simp [List.filterMap_cons, Leaf.ofKind?, Definition.leaves, h.leaves_eq]
  | parametric name hparameters h =>
      simp [List.filterMap_cons, Leaf.ofKind?, Definition.leaves, hparameters.leaves_eq,
        h.leaves_eq]

/-- The leaves of a module are the numbers and the names among its tokens. -/
theorem SpellsModule.leaves_eq {kinds : List TokenKind} {found : Module}
    (h : SpellsModule kinds found) : kinds.filterMap Leaf.ofKind? = Module.leaves found := by
  induction h with
  | nil => rfl
  | terminator _ ih => exact ih
  | definition hfirst _ ih =>
      rw [List.filterMap_append, hfirst.leaves_eq, ih, Module.leaves, Module.leaves,
        List.flatMap_cons]

end Grammar

/-! ## Names -/

/-- What a name is spelled like. -/
structure IsName (spelling : String) : Prop where
  /-- It is a word. -/
  isWordPart : ∀ character ∈ spelling.toList, Text.isWordPart character = true
  /-- It does not start like a number. -/
  exists_first : ∃ first tail, spelling.toList = first :: tail ∧ Text.isNumeric first = false
  /-- It is not reserved. -/
  ne_word : ∀ reserved : Keyword, spelling.toList ≠ reserved.word.toList

/-- Names are told apart before a text that goes on with no word. -/
theorem IsName.append_inj {name name' : String} {rest rest' : List Char} (h : IsName name)
    (h' : IsName name') (hrest : Apart Text.isWordPart rest)
    (hrest' : Apart Text.isWordPart rest')
    (hsame : name.toList ++ rest = name'.toList ++ rest') : name = name' ∧ rest = rest' := by
  obtain ⟨hnames, hbehind⟩ :=
    append_inj_of_apart h.isWordPart hrest h'.isWordPart hrest' hsame
  exact ⟨String.toList_inj.mp hnames, hbehind⟩

theorem isWordPart_word (reserved : Keyword) :
    ∀ character ∈ reserved.word.toList, Text.isWordPart character = true :=
  fun character hmem => ((letters_word reserved).2 character hmem).1

/-- A name is no reserved word, before a text that goes on with no word. -/
theorem IsName.append_ne_word {name : String} {rest rest' : List Char} (h : IsName name)
    (reserved : Keyword) (hrest : Apart Text.isWordPart rest)
    (hrest' : Apart Text.isWordPart rest') :
    name.toList ++ rest ≠ reserved.word.toList ++ rest' := by
  intro hsame
  exact h.ne_word reserved
    (append_inj_of_apart h.isWordPart hrest (isWordPart_word reserved) hrest' hsame).1

/-- Every item of a text reads as a lexeme does. -/
theorem exists_lexeme {before : List Char} {items : List Item} {split : Split}
    (h : split.Fits before items) {item : Item} (hmem : item ∈ items) :
    ∃ lexeme behind, IsLexeme lexeme behind item.content := by
  induction h with
  | last before _ => cases hmem
  | piece _ _ hlexeme hitem _ ih =>
      rcases List.mem_cons.mp hmem with rfl | hlater
      · rw [hitem, Item.content_of]
        exact ⟨_, _, hlexeme⟩
      · exact ih hlater

/-- A name that is read from a text is spelled like one. -/
theorem isName_of_content {source : List Char} {name : String}
    (h : .ok (.identifier name) ∈ (itemsOf source).map Item.content) : IsName name := by
  obtain ⟨item, hmem, hcontent⟩ := List.mem_map.mp h
  obtain ⟨split, -, hfits⟩ := @exists_fits (.start source) [] rfl
  obtain ⟨lexeme, behind, hlexeme⟩ := exists_lexeme hfits hmem
  rw [hcontent] at hlexeme
  cases hlexeme with
  | identifier hword hfirst hnone _ =>
      refine ⟨?_, ?_, ?_⟩
      · rwa [String.toList_ofList]
      · rw [String.toList_ofList]
        exact ⟨_, _, rfl, hfirst⟩
      · rwa [String.toList_ofList]

/-- The names of a module that was parsed are spelled like names. -/
theorem isName_of_parsed {source : List Char} {rest : List Item} {found : Module} {name : String}
    (h : Parse.module (itemsOf source) = .done found rest)
    (hname : Leaf.name name ∈ Module.leaves found) : IsName name := by
  obtain ⟨-, kinds, hreads, hspelled⟩ := Grammar.module_done_iff.mp h
  -- The name is that of a token, and the token is an item of the source.
  rw [← hspelled.leaves_eq, List.mem_filterMap] at hname
  obtain ⟨kind, hkind, hleaf⟩ := hname
  apply @isName_of_content source
  rw [Grammar.reads_end_iff.mp hreads]
  refine List.mem_map.mpr ⟨kind, hkind, ?_⟩
  cases kind with
  | identifier other => cases hleaf; rfl
  | _ => cases hleaf

end StackLang
