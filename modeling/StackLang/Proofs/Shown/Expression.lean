import Mathlib
import StackLang.Proofs.Numeral.Distinct
import StackLang.Proofs.Shown.Delimited
import StackLang.Proofs.Shown.Leaves
import StackLang.Proofs.Text.Escaping

/-! # Expressions are told apart by their texts

A call stands behind what it calls, so the text of an expression does not tell where a called
expression ends. An expression is therefore taken apart into its head, which is no call, and the
lists of arguments behind it: `f(1)(2)` has the head `f` and two lists. The first character of a
head tells which kind of head it is, and a head tells where it ends before a parenthesis and before
a delimiter.

* `Proper` — leaves whose texts tell what they are: finite numbers, and names.
* `Expression.calls`, `exists_calls` — an expression from its head and the lists of arguments.
* `Shape`, `shape_eq` — the kind of a head, from its first character.
* `HeadReadable`, `Readable` — heads and expressions that their texts tell apart.
* `readable` — all expressions are.
* `shown_append_ne_word` — no expression reads like a reserved word. -/

namespace StackLang.Shown

open Expression

/-! ## Leaves -/

/-- What the text of a leaf needs to tell what it is of: a number is finite, and a name is spelled
like a name. -/
def IsProper : Leaf → Prop
  | .number value => Numeral.IsFinite value
  | .name spelling => IsName spelling

/-- All of the leaves are proper. -/
def Proper (leaves : List Leaf) : Prop :=
  ∀ leaf ∈ leaves, IsProper leaf

@[simp] theorem proper_append {first second : List Leaf} :
    Proper (first ++ second) ↔ Proper first ∧ Proper second :=
  List.forall_mem_append

@[simp] theorem proper_cons {leaf : Leaf} {leaves : List Leaf} :
    Proper (leaf :: leaves) ↔ IsProper leaf ∧ Proper leaves :=
  List.forall_mem_cons

theorem proper_nil : Proper [] :=
  List.forall_mem_nil _

/-! ## Heads and arguments -/

/-- An expression that is called again and again, with these lists of arguments. -/
def calls (head : Expression) (lists : List (List Expression)) : Expression :=
  lists.foldl .call head

/-- The text of a list of arguments. -/
def argumentsShown (arguments : List Expression) : List Char :=
  '(' :: (commaSeparated (arguments.map Expression.shown) ++ [')'])

theorem shownAll_eq_map (expressions : List Expression) :
    shownAll expressions = expressions.map Expression.shown := by
  induction expressions with
  | nil => rfl
  | cons first rest ih => rw [shownAll, ih, List.map_cons]

theorem shown_call (callee : Expression) (arguments : List Expression) :
    (Expression.call callee arguments).shown = callee.shown ++ argumentsShown arguments := by
  rw [Expression.shown, shownAll_eq_map, argumentsShown, List.append_assoc, List.cons_append]

/-- The lists of arguments stand behind the head. -/
theorem shown_calls (head : Expression) (lists : List (List Expression)) :
    (calls head lists).shown = head.shown ++ lists.flatMap argumentsShown := by
  induction lists generalizing head with
  | nil => exact (List.append_nil _).symm
  | cons arguments lists ih =>
      rw [calls, List.foldl_cons, ← calls, ih, shown_call, List.flatMap_cons, List.append_assoc]

theorem leaves_calls (head : Expression) (lists : List (List Expression)) :
    (calls head lists).leaves = head.leaves ++ lists.flatMap leavesAll := by
  induction lists generalizing head with
  | nil => exact (List.append_nil _).symm
  | cons arguments lists ih =>
      rw [calls, List.foldl_cons, ← calls, ih, leaves, List.flatMap_cons, List.append_assoc]

/-- An expression that is no call. -/
inductive IsHead : Expression → Prop
  /-- A number. -/
  | number (value : Float) : IsHead (.number value)
  /-- A quoted text. -/
  | text (contents : List Char) : IsHead (.text contents)
  /-- A name. -/
  | name (spelling : String) : IsHead (.name spelling)
  /-- Two operands joined by a sign. -/
  | binary (left : Expression) (sign : Operator) (right : Expression) :
      IsHead (.binary left sign right)

/-- Every expression is a head with lists of arguments behind it. -/
theorem exists_calls (expression : Expression) :
    ∃ head lists, IsHead head ∧ expression = calls head lists := by
  match expression with
  | .number value => exact ⟨_, [], .number value, rfl⟩
  | .text contents => exact ⟨_, [], .text contents, rfl⟩
  | .name spelling => exact ⟨_, [], .name spelling, rfl⟩
  | .binary left sign right => exact ⟨_, [], .binary left sign right, rfl⟩
  | .call callee arguments =>
      obtain ⟨head, lists, hhead, rfl⟩ := exists_calls callee
      refine ⟨head, lists ++ [arguments], hhead, ?_⟩
      rw [calls, calls, List.foldl_append]
      rfl

/-- Behind the head stands a list of arguments, or what stands behind the whole. -/
theorem called_flatMap (lists : List (List Expression)) {rest : List Char}
    (hrest : Delimited rest) : Called (lists.flatMap argumentsShown ++ rest) := by
  cases lists with
  | nil => exact hrest.called
  | cons arguments lists => exact called_openParen _

theorem Proper.of_mem {expressions : List Expression} (h : Proper (leavesAll expressions))
    {expression : Expression} (hmem : expression ∈ expressions) : Proper expression.leaves := by
  induction expressions with
  | nil => cases hmem
  | cons first later ih =>
      obtain ⟨hfirst, hlater⟩ := proper_append.mp h
      rcases List.mem_cons.mp hmem with rfl | hmem
      · exact hfirst
      · exact ih hlater hmem

/-! ## How expressions start -/

/-- The kinds of heads. -/
inductive Shape where
  /-- A number. -/
  | number
  /-- A quoted text. -/
  | text
  /-- A name. -/
  | name
  /-- An operator with its operands. -/
  | binary

/-- The kind of head that starts with a character, if there is one. -/
def Shape.ofFirst? (first : Char) : Option Shape :=
  if first = '"' then some .text
  else if first = '(' then some .binary
  else if first = '-' ∨ Text.isNumeric first then some .number
  else if Text.isWordPart first then some .name
  else none

/-- The kind of the head of an expression. -/
def shape : Expression → Shape
  | .number _ => .number
  | .text _ => .text
  | .name _ => .name
  | .binary _ _ _ => .binary
  | .call callee _ => shape callee

theorem ofFirst?_of_isDigit {first : Char} (h : first.isDigit = true) :
    Shape.ofFirst? first = some .number := by
  have hnumeric : Text.isNumeric first = true := by
    have hbounds : first.toNat < 0x80 := by
      simp only [Char.isDigit, Bool.and_eq_true, decide_eq_true_eq, UInt32.le_iff_toNat_le] at h
      exact h.2.trans_lt (by decide)
    rw [Text.isNumeric, if_pos hbounds, h]
  rw [Shape.ofFirst?, if_neg, if_neg, if_pos (.inr hnumeric)]
  · rintro rfl
    cases h
  · rintro rfl
    cases h

theorem ofFirst?_of_isWordPart {first : Char} (hword : Text.isWordPart first = true)
    (hnumeric : Text.isNumeric first = false) : Shape.ofFirst? first = some .name := by
  have hne : ∀ other, Text.isWordPart other = false → first ≠ other := by
    rintro _ hother rfl
    rw [hword] at hother
    cases hother
  rw [Shape.ofFirst?, if_neg (hne '"' (by decide)), if_neg (hne '(' (by decide)), if_neg,
    if_pos hword]
  rw [hnumeric]
  exact fun heither => heither.elim (hne '-' (by decide)) Bool.false_ne_true

/-- The first character of an expression tells the kind of its head. -/
theorem exists_first : (expression : Expression) → Proper expression.leaves →
    ∃ first tail, expression.shown = first :: tail ∧ Shape.ofFirst? first = some (shape expression)
  | .number value, h => by
      obtain ⟨first, tail, hdigit, htext⟩ := Numeral.exists_written (proper_cons.mp h).1
      rw [Expression.shown, htext]
      split
      · exact ⟨_, _, rfl, rfl⟩
      · exact ⟨_, _, rfl, ofFirst?_of_isDigit hdigit⟩
  | .text contents, _ => ⟨_, _, rfl, rfl⟩
  | .name spelling, h => by
      obtain ⟨hword, ⟨first, tail, htext, hnumeric⟩, -⟩ := (proper_cons.mp h).1
      refine ⟨first, tail, htext, ofFirst?_of_isWordPart (hword first ?_) hnumeric⟩
      rw [htext]
      exact List.mem_cons_self
  | .binary left sign right, _ => ⟨_, _, rfl, rfl⟩
  | .call callee arguments, h => by
      obtain ⟨first, tail, htext, hshape⟩ := exists_first callee (proper_append.mp h).1
      rw [shown_call, htext]
      exact ⟨_, _, rfl, hshape⟩

/-- Expressions whose texts start alike have heads of one kind. -/
theorem shape_eq {expression other : Expression} {rest rest' : List Char}
    (h : Proper expression.leaves) (h' : Proper other.leaves)
    (hsame : expression.shown ++ rest = other.shown ++ rest') : shape expression = shape other := by
  obtain ⟨first, tail, htext, hshape⟩ := exists_first expression h
  obtain ⟨first', tail', htext', hshape'⟩ := exists_first other h'
  rw [htext, htext'] at hsame
  rw [(List.cons.inj hsame).1, hshape'] at hshape
  exact (Option.some.inj hshape).symm

/-- No expression starts with a closing parenthesis. -/
theorem startsInside_shown {expression : Expression} (h : Proper expression.leaves) :
    StartsInside expression.shown := by
  obtain ⟨first, tail, htext, hshape⟩ := exists_first expression h
  refine ⟨first, tail, htext, ?_⟩
  rintro rfl
  cases hshape

/-! ## Heads -/

/-- A head that is told apart from all others, before what stands behind a called expression. -/
def HeadReadable (head : Expression) : Prop :=
  ∀ other rest rest', IsHead other → Proper other.leaves → Called rest → Called rest' →
    head.shown ++ rest = other.shown ++ rest' → head = other ∧ rest = rest'

/-- An expression that is told apart from all others, before a delimiter. -/
def Readable (expression : Expression) : Prop :=
  ∀ other, Proper other.leaves → ToldApart Expression.shown expression other

theorem headReadable_number {value : Float} (h : Proper (leaves (.number value))) :
    HeadReadable (.number value) := by
  intro other rest rest' hhead hproper hrest hrest' hsame
  -- Heads of another kind start with other characters.
  have hshape := shape_eq h hproper hsame
  have hpart : ∀ character ∈ '(' :: delimiters, Numeral.isWrittenPart character = false := by
    simp [delimiters]
    decide
  cases hhead with
  | number value' =>
      obtain ⟨rfl, hbehind⟩ := Numeral.written_append_inj (proper_cons.mp h).1
        (proper_cons.mp hproper).1 (hrest.apart hpart) (hrest'.apart hpart) hsame
      exact ⟨rfl, hbehind⟩
  | _ => cases hshape

theorem headReadable_text (contents : List Char) : HeadReadable (.text contents) := by
  intro other rest rest' hhead hproper _ _ hsame
  have hshape := @shape_eq (.text contents) _ _ _ proper_nil hproper hsame
  cases hhead with
  | text contents' =>
      obtain ⟨rfl, hbehind⟩ := Text.Quoted.text_append_inj hsame
      exact ⟨rfl, hbehind⟩
  | _ => cases hshape

theorem headReadable_name {spelling : String} (h : Proper (leaves (.name spelling))) :
    HeadReadable (.name spelling) := by
  intro other rest rest' hhead hproper hrest hrest' hsame
  have hshape := shape_eq h hproper hsame
  cases hhead with
  | name spelling' =>
      obtain ⟨rfl, hbehind⟩ := (proper_cons.mp h).1.append_inj (proper_cons.mp hproper).1
        hrest.apart_word hrest'.apart_word hsame
      exact ⟨rfl, hbehind⟩
  | _ => cases hshape

/-- Different operators have different signs. -/
theorem sign_inj {first second : Operator} (h : first.sign = second.sign) : first = second := by
  have hread := TokenKind.ofSign?_operator first
  rw [h, TokenKind.ofSign?_operator] at hread
  cases hread
  rfl

/-- An operation ends with a parenthesis, and both of its operands stand before a delimiter. -/
theorem headReadable_binary {left right : Expression} {sign : Operator}
    (h : Proper (leaves (.binary left sign right))) (hleft : Readable left)
    (hright : Readable right) : HeadReadable (.binary left sign right) := by
  intro other rest rest' hhead hproper _ _ hsame
  have hshape := shape_eq h hproper hsame
  cases hhead with
  | binary left' sign' right' =>
      obtain ⟨hproperLeft, hproperRight⟩ := proper_append.mp hproper
      simp only [Expression.shown, List.cons_append, List.append_assoc, List.cons.injEq, true_and,
        List.nil_append] at hsame
      obtain ⟨hsign, hoperands⟩ := hsame
      obtain ⟨rfl, hsecond⟩ := hleft left' hproperLeft _ _ (delimited_cons (by decide) _)
        (delimited_cons (by decide) _) hoperands
      obtain ⟨rfl, hend⟩ := hright right' hproperRight _ _ (delimited_cons (by decide) _)
        (delimited_cons (by decide) _) (List.cons.inj hsecond).2
      obtain rfl := sign_inj hsign
      exact ⟨rfl, (List.cons.inj hend).2⟩
  | _ => cases hshape

/-! ## Expressions -/

/-- Lists of arguments are told apart if each argument is. -/
theorem argumentsShown_append_inj {lists lists' : List (List Expression)} {rest rest' : List Char}
    (h : Proper (lists.flatMap leavesAll)) (h' : Proper (lists'.flatMap leavesAll))
    (hreadable : ∀ arguments ∈ lists, ∀ argument ∈ arguments, Readable argument)
    (hrest : Delimited rest) (hrest' : Delimited rest')
    (hsame : lists.flatMap argumentsShown ++ rest = lists'.flatMap argumentsShown ++ rest') :
    lists = lists' ∧ rest = rest' := by
  induction lists generalizing lists' with
  | nil =>
      cases lists' with
      | nil => exact ⟨rfl, hsame⟩
      | cons arguments' lists' =>
          -- What stands behind the whole does not start with a parenthesis.
          rw [List.flatMap_nil, List.nil_append] at hsame
          rw [hsame] at hrest
          exact absurd hrest (not_delimited_openParen _)
  | cons arguments lists ih =>
      cases lists' with
      | nil =>
          rw [List.flatMap_nil, List.nil_append] at hsame
          rw [← hsame] at hrest'
          exact absurd hrest' (not_delimited_openParen _)
      | cons arguments' lists' =>
          rw [List.flatMap_cons, proper_append] at h h'
          obtain ⟨hfirst, hlater⟩ := List.forall_mem_cons.mp hreadable
          rw [List.flatMap_cons, List.flatMap_cons, List.append_assoc, List.append_assoc] at hsame
          obtain ⟨rfl, hbehind⟩ := commaSeparated_append_inj
            (fun _ hmem => startsInside_shown (h.1.of_mem hmem))
            (fun _ hmem => startsInside_shown (h'.1.of_mem hmem))
            (fun argument hmem other hother => hfirst argument hmem other (h'.1.of_mem hother))
            (List.cons.inj hsame).2
          obtain ⟨rfl, hend⟩ := ih h.2 h'.2 hlater hbehind
          exact ⟨rfl, hend⟩

/-- A head that is told apart makes expressions that are, with any arguments that are. -/
theorem HeadReadable.readable {head : Expression} {lists : List (List Expression)}
    (hhead : HeadReadable head) (h : Proper (lists.flatMap leavesAll))
    (hlists : ∀ arguments ∈ lists, ∀ argument ∈ arguments, Readable argument) :
    Readable (calls head lists) := by
  intro other hproper rest rest' hrest hrest' hsame
  -- Both are taken apart; the heads end at a parenthesis, or where the whole ends.
  obtain ⟨head', lists', hhead', rfl⟩ := exists_calls other
  rw [leaves_calls, proper_append] at hproper
  rw [shown_calls, shown_calls, List.append_assoc, List.append_assoc] at hsame
  obtain ⟨rfl, hbehind⟩ := hhead _ _ _ hhead' hproper.1 (called_flatMap lists hrest)
    (called_flatMap lists' hrest') hsame
  obtain ⟨rfl, hend⟩ := argumentsShown_append_inj h hproper.2 hlists hrest hrest' hbehind
  exact ⟨rfl, hend⟩

mutual

/-- The lists of arguments behind an expression are collected until its head is reached. -/
theorem readable_calls : (expression : Expression) → Proper expression.leaves →
    ∀ {lists : List (List Expression)}, Proper (lists.flatMap leavesAll) →
      (∀ arguments ∈ lists, ∀ argument ∈ arguments, Readable argument) →
        Readable (calls expression lists)
  | .number value, h, _, hproper, hlists => (headReadable_number h).readable hproper hlists
  | .text contents, _, _, hproper, hlists => (headReadable_text contents).readable hproper hlists
  | .name spelling, h, _, hproper, hlists => (headReadable_name h).readable hproper hlists
  | .binary left sign right, h, _, hproper, hlists => by
      obtain ⟨hproperLeft, hproperRight⟩ := proper_append.mp h
      have hleft : Readable left := @readable_calls left hproperLeft [] proper_nil
        (List.forall_mem_nil _)
      have hright : Readable right := @readable_calls right hproperRight [] proper_nil
        (List.forall_mem_nil _)
      exact (headReadable_binary h hleft hright).readable hproper hlists
  | .call callee arguments, h, lists, hproper, hlists => by
      obtain ⟨hcallee, harguments⟩ := proper_append.mp h
      -- The same expression is the callee with one more list of arguments behind it.
      refine @readable_calls callee hcallee (arguments :: lists) ?_ ?_
      · rw [List.flatMap_cons]
        exact proper_append.mpr ⟨harguments, hproper⟩
      · exact List.forall_mem_cons.mpr ⟨readable_all arguments harguments, hlists⟩

theorem readable_all : (expressions : List Expression) → Proper (leavesAll expressions) →
    ∀ expression ∈ expressions, Readable expression
  | [], _ => List.forall_mem_nil _
  | first :: later, h => by
      obtain ⟨hfirst, hlater⟩ := proper_append.mp h
      exact List.forall_mem_cons.mpr
        ⟨@readable_calls first hfirst [] proper_nil (List.forall_mem_nil _),
          readable_all later hlater⟩

end

/-- Expressions are told apart by their texts, before a delimiter. -/
theorem readable {expression : Expression} (h : Proper expression.leaves) : Readable expression :=
  @readable_calls expression h [] proper_nil (List.forall_mem_nil _)

/-- No expression starts with a reserved word. -/
theorem shown_append_ne_word {expression : Expression} (h : Proper expression.leaves)
    (reserved : Keyword) {rest behind : List Char} (hrest : Delimited rest)
    (hbehind : Apart Text.isWordPart behind) :
    expression.shown ++ rest ≠ reserved.word.toList ++ behind := by
  obtain ⟨head, lists, hhead, rfl⟩ := exists_calls expression
  rw [leaves_calls, proper_append] at h
  rw [shown_calls, List.append_assoc]
  intro hsame
  -- The head could only be a name, and it would be the reserved word itself.
  have hshape : shape head = .name := by
    obtain ⟨first, tail, htext, hshape⟩ := exists_first head h.1
    obtain ⟨hne, hletters⟩ := letters_word reserved
    obtain ⟨letter, letters, hword⟩ := List.exists_cons_of_ne_nil hne
    obtain ⟨hpart, hnumeric⟩ := hletters letter (hword ▸ List.mem_cons_self)
    rw [htext, hword] at hsame
    rw [(List.cons.inj hsame).1, ofFirst?_of_isWordPart hpart hnumeric] at hshape
    exact (Option.some.inj hshape).symm
  cases hhead with
  | name spelling =>
      exact (proper_cons.mp h.1).1.append_ne_word reserved
        (called_flatMap lists hrest).apart_word hbehind hsame
  | _ => cases hshape

end StackLang.Shown
