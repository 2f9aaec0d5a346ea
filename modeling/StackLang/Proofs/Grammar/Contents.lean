import StackLang.Proofs.Grammar.Text
import StackLang.Proofs.Token.Items
import StackLang.Proofs.Token.Lexemes

/-! # What texts read as

What the items of a text read as depends on two things only: on the text, and on whether a newline
at its start would end a statement. Read in this way, a text may be taken apart at every place that
is no middle of a lexeme.

* `contentsOf` — what the items of a text read as, wherever it stands.
* `contentsOf_newline`, `contentsOf_blank`, `contentsOf_lexeme` — one equation for each way a text
  can start.
* `endsBehind` — whether a newline behind some tokens would end a statement.
* `contentsOf_append` — a text before another one reads as it does alone, and so does the other one
  behind it. -/

namespace StackLang.Grammar

/-! ## Reading apart from positions -/

/-- What an item reads as, the text behind it, and whether a newline there would end a statement. -/
def seen (read : Item × Cursor) : Except LexicalFault TokenKind × List Char × Bool :=
  (read.1.content, read.2.rest, read.2.endsStatement)

/-- What is read next does not depend on the position. -/
theorem scanFrom_position (first second : Text.Position) (ends : Bool) (text : List Char) :
    (Cursor.scanFrom first ends text).map seen = (Cursor.scanFrom second ends text).map seen := by
  induction text generalizing first second with
  | nil => rfl
  | cons character text ih =>
      rw [Cursor.scanFrom, Cursor.scanFrom]
      split
      · split
        · rfl
        · exact ih _ _
      · simp only [Option.map_some, seen, Item.content_of]

/-- What is read from a text on does not depend on the position. -/
theorem items_content (cursor other : Cursor) (hrest : cursor.rest = other.rest)
    (hends : cursor.endsStatement = other.endsStatement) :
    cursor.items.map Item.content = other.items.map Item.content := by
  have hscan : cursor.scan.map seen = other.scan.map seen := by
    rw [Cursor.scan, Cursor.scan, hrest, hends]
    exact scanFrom_position _ _ _ _
  cases hfirst : cursor.scan with
  | none =>
      rw [hfirst, Option.map_none, eq_comm, Option.map_eq_none_iff] at hscan
      rw [Cursor.items_of_scan_none hfirst, Cursor.items_of_scan_none hscan]
  | some read =>
      obtain ⟨item, next⟩ := read
      rw [hfirst, Option.map_some, eq_comm, Option.map_eq_some_iff] at hscan
      obtain ⟨⟨otherItem, otherNext⟩, hsecond, hsame⟩ := hscan
      simp only [seen, Prod.mk.injEq] at hsame
      obtain ⟨hcontent, hnextRest, hnextEnds⟩ := hsame
      have hshorter := Cursor.length_rest_lt hfirst
      rw [Cursor.items_of_scan_some hfirst, Cursor.items_of_scan_some hsecond, List.map_cons,
        List.map_cons, hcontent, items_content next otherNext hnextRest.symm hnextEnds.symm]
termination_by cursor.rest.length
decreasing_by exact hshorter

/-- What the items of a text read as. The flag tells whether a newline at the start of the text
would end a statement. -/
def contentsOf (ends : Bool) (text : List Char) : List (Except LexicalFault TokenKind) :=
  (Cursor.mk text .start ends).items.map Item.content

/-- The items from a place on read as the text there does. -/
theorem content_items (cursor : Cursor) :
    cursor.items.map Item.content = contentsOf cursor.endsStatement cursor.rest :=
  items_content _ _ rfl rfl

/-- The items of a text read as the text does. -/
theorem content_itemsOf (source : List Char) :
    (itemsOf source).map Item.content = contentsOf false source :=
  content_items _

/-- The items of a text are tokens of some kinds just if the text reads as these kinds. -/
theorem reads_itemsOf_iff {kinds : List TokenKind} {source : List Char} :
    Reads kinds (itemsOf source) [] ↔ contentsOf false source = kinds.map .ok := by
  rw [reads_end_iff, content_itemsOf]

/-! ## One equation for each start of a text -/

@[simp] theorem contentsOf_nil (ends : Bool) : contentsOf ends [] = [] := by
  rw [contentsOf, Cursor.items_of_scan_none rfl]
  rfl

/-- A newline that ends a statement is a terminator. -/
theorem contentsOf_newline (text : List Char) :
    contentsOf true ('\n' :: text) = .ok (.delimiter .terminator) :: contentsOf false text := by
  rw [contentsOf, items_newline, List.map_cons, content_items]
  rfl

/-- All other white space is passed over. -/
theorem contentsOf_blank {ends : Bool} {character : Char} (text : List Char)
    (hblank : Text.isBlank character = true) (hpassed : ¬ (character = '\n' ∧ ends = true)) :
    contentsOf ends (character :: text) = contentsOf ends text := by
  rw [contentsOf, items_blank text _ hblank hpassed, content_items]

/-- Behind a token that ends no statement a newline is passed over. -/
theorem contentsOf_false_newline (text : List Char) :
    contentsOf false ('\n' :: text) = contentsOf false text :=
  contentsOf_blank text Text.isBlank_newline (by simp)

/-- A newline is a terminator or nothing. -/
theorem contentsOf_any_newline (ends : Bool) (text : List Char) :
    contentsOf ends ('\n' :: text)
      = (if ends then [TokenKind.delimiter .terminator] else []).map .ok
        ++ contentsOf false text := by
  cases ends with
  | true => exact contentsOf_newline text
  | false => exact contentsOf_false_newline text

/-- A lexeme is read before the text behind it. -/
theorem contentsOf_lexeme {ends : Bool} {first : Char} (text : List Char)
    (hblank : Text.isBlank first = false) :
    contentsOf ends (first :: text) = (Lexeme.ofText first text).content
      :: contentsOf (Lexeme.ofText first text).endsStatement (Lexeme.ofText first text).rest := by
  rw [contentsOf, items_lexeme _ hblank rfl, List.map_cons, Item.content_of, content_items]

/-- A sign is read from its character. -/
theorem contentsOf_sign {ends : Bool} {first : Char} {kind : TokenKind}
    (h : TokenKind.ofSign? first = some kind) (text : List Char) :
    contentsOf ends (first :: text) = .ok kind :: contentsOf kind.endsStatement text := by
  have hblank : Text.isBlank first = false := by
    unfold TokenKind.ofSign? at h
    split at h
    all_goals first | decide | cases h
  have hlexeme : Lexeme.ofText first text = ⟨.ok kind, [], text⟩ := by
    rw [Lexeme.ofText, h]
  rw [contentsOf_lexeme text hblank, hlexeme]
  rfl

/-! ## Texts before more text -/

/-- Whether the last of some tokens has a property; behind none, what was so before. -/
def lastIs (property : TokenKind → Bool) (start : Bool) (kinds : List TokenKind) : Bool :=
  (kinds.getLast?.map property).getD start

variable (property : TokenKind → Bool) (start : Bool)

@[simp] theorem lastIs_nil : lastIs property start [] = start := rfl

@[simp] theorem lastIs_cons (kind : TokenKind) (kinds : List TokenKind) :
    lastIs property start (kind :: kinds) = lastIs property (property kind) kinds := by
  rw [lastIs, lastIs, List.getLast?_cons]
  cases kinds.getLast? <;> rfl

@[simp] theorem lastIs_append (first second : List TokenKind) :
    lastIs property start (first ++ second)
      = lastIs property (lastIs property start first) second := by
  induction first generalizing start with
  | nil => rfl
  | cons kind kinds ih => rw [List.cons_append, lastIs_cons, lastIs_cons, ih]

/-- Whether a newline behind the tokens would end a statement; behind none, what it was before. -/
abbrev endsBehind (ends : Bool) (kinds : List TokenKind) : Bool :=
  lastIs TokenKind.endsStatement ends kinds

/-- A text that reads as tokens does so before more text that does not go on with its last lexeme,
and the text behind it reads as it does behind these tokens. -/
theorem contentsOf_append {ends : Bool} {text behind : List Char} {kinds : List TokenKind}
    (hparted : Parted behind) (h : contentsOf ends text = kinds.map .ok) :
    contentsOf ends (text ++ behind)
      = kinds.map .ok ++ contentsOf (endsBehind ends kinds) behind := by
  match text with
  | [] =>
      rw [contentsOf_nil, eq_comm, List.map_eq_nil_iff] at h
      subst h
      rfl
  | first :: text =>
      rw [List.cons_append]
      by_cases hblank : Text.isBlank first = true
      · by_cases hnewline : first = '\n' ∧ ends = true
        · obtain ⟨rfl, rfl⟩ := hnewline
          rw [contentsOf_newline] at h ⊢
          obtain ⟨kind, others, rfl, hkind, hothers⟩ := List.map_eq_cons_iff.mp h.symm
          rw [contentsOf_append hparted hothers.symm]
          cases hkind
          simp [TokenKind.endsStatement]
        · rw [contentsOf_blank _ hblank hnewline] at h ⊢
          exact contentsOf_append hparted h
      · have hlexeme := Bool.not_eq_true _ |>.mp hblank
        rw [contentsOf_lexeme _ hlexeme] at h ⊢
        obtain ⟨kind, others, rfl, hkind, hothers⟩ := List.map_eq_cons_iff.mp h.symm
        have hshorter := Lexeme.length_rest_le first text
        have hends : (Lexeme.ofText first text).endsStatement = kind.endsStatement := by
          rw [Lexeme.endsStatement, ← hkind]
        rw [hends] at hothers
        rw [ofText_extend behind hlexeme (by simp [← hkind]) fun _ => hparted]
        change (Lexeme.ofText first text).content
          :: contentsOf (Lexeme.ofText first text).endsStatement
            ((Lexeme.ofText first text).rest ++ behind) = _
        have hlast : endsBehind ends (kind :: others) = endsBehind kind.endsStatement others :=
          lastIs_cons _ _ _ _
        rw [hends, contentsOf_append hparted hothers.symm, ← hkind, hlast]
        rfl
termination_by text.length
decreasing_by all_goals simp_all only [List.length_cons]; omega

end StackLang.Grammar
