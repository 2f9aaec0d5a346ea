import Mathlib
import StackLang.Proofs.Text.Counting
import StackLang.Proofs.Token.Lexemes
import StackLang.Token.Lookahead

/-! # Cutting without loss

A source text is cut into lexemes with white space between them. The span of an item is found by
counting in the text before its lexeme and in the lexeme. Nothing is left out and nothing is read
twice, also behind lexemes that are faulty.

* `Split`, `Split.Fits` — a text cut into lexemes and white space, and the items of these lexemes.
* `exists_fits` — reading cuts a text in this way.
* `Split.Fits.unique` — the spans of the items settle where the text is cut.
* `itemsOf_lossless` — the items of a source text are those of one way to cut it, and they are read
  one by one. -/

namespace StackLang

open Text (Position Span)

/-! ## Cutting a text -/

/-- A lexeme with the white space before it. -/
structure Piece where
  /-- White space. -/
  blanks : List Char
  /-- The lexeme behind it. -/
  lexeme : List Char

/-- A text cut into pieces. -/
structure Split where
  /-- The lexemes with the white space before them. -/
  pieces : List Piece
  /-- The white space behind the last lexeme. -/
  last : List Char

/-- The text that was cut. -/
def Split.text (split : Split) : List Char :=
  split.pieces.flatMap (fun piece => piece.blanks ++ piece.lexeme) ++ split.last

/-- Where a lexeme stands behind some text. The span of a newline has no extent. -/
def spanBehind (before lexeme : List Char) : Span where
  start := .behind before
  stop := if lexeme = ['\n'] then .behind before else .behind (before ++ lexeme)

/-- Behind some text, the lexemes of a text that was cut make the items. -/
inductive Split.Fits : List Char → List Item → Split → Prop
  /-- There is nothing but white space. -/
  | last (before : List Char) {blanks : List Char}
      (hblanks : ∀ character ∈ blanks, Text.isBlank character = true) :
      Fits before [] ⟨[], blanks⟩
  /-- A lexeme makes the first item. -/
  | piece {before blanks lexeme last : List Char} {pieces : List Piece} {item : Item}
      {items : List Item} {content : Except LexicalFault TokenKind}
      (hblanks : ∀ character ∈ blanks, Text.isBlank character = true) (hsome : lexeme ≠ [])
      (hlexeme : IsLexeme lexeme (Split.text ⟨pieces, last⟩) content)
      (hitem : item = Item.of content (spanBehind (before ++ blanks) lexeme))
      (h : Fits (before ++ (blanks ++ lexeme)) items ⟨pieces, last⟩) :
      Fits before (item :: items) ⟨⟨blanks, lexeme⟩ :: pieces, last⟩

theorem Split.text_cons (piece : Piece) (pieces : List Piece) (last : List Char) :
    Split.text ⟨piece :: pieces, last⟩
      = piece.blanks ++ (piece.lexeme ++ Split.text ⟨pieces, last⟩) := by
  simp only [Split.text, List.flatMap_cons, List.append_assoc]

/-- The next item is made by the first lexeme, and reading goes on behind it. -/
theorem scanFrom_piece {before text : List Char} {ends : Bool} {item : Item} {next : Cursor}
    (h : Cursor.scanFrom (.behind before) ends text = some (item, next)) :
    ∃ blanks lexeme content, text = blanks ++ (lexeme ++ next.rest)
      ∧ (∀ character ∈ blanks, Text.isBlank character = true)
      ∧ IsLexeme lexeme next.rest content
      ∧ item = Item.of content (spanBehind (before ++ blanks) lexeme)
      ∧ next.position = .behind (before ++ (blanks ++ lexeme)) := by
  induction text generalizing before with
  | nil => cases h
  | cons first text ih =>
      rw [Cursor.scanFrom] at h
      split at h
      · next hblank =>
          split at h
          · next hnewline =>
              -- The newline is a lexeme itself.
              obtain ⟨rfl, rfl⟩ := hnewline
              cases h
              refine ⟨[], ['\n'], _, rfl, List.forall_mem_nil _, .newline text, ?_, ?_⟩
              · rw [List.append_nil, spanBehind, if_pos rfl]
                rfl
              · exact (Position.behind_concat before '\n').symm
          · rw [← Position.behind_concat] at h
            obtain ⟨blanks, lexeme, content, rfl, hblanks, hlexeme, hitem, hposition⟩ := ih h
            refine ⟨first :: blanks, lexeme, content, rfl,
              List.forall_mem_cons.mpr ⟨hblank, hblanks⟩, hlexeme, ?_, ?_⟩
            · rw [hitem, List.append_assoc]
              rfl
            · rw [hposition, List.append_assoc]
              rfl
      · next hblank =>
          rw [Bool.not_eq_true] at hblank
          have hlexeme := isLexeme_ofText text hblank
          have hrest := Lexeme.tail_append_rest first text
          -- Only white space has no extent.
          have hextent : first :: (Lexeme.ofText first text).tail ≠ ['\n'] := by
            intro hsame
            cases hsame
            exact absurd hblank (by decide)
          cases h
          have htext : first :: text = [] ++ (first :: (Lexeme.ofText first text).tail
              ++ (Lexeme.ofText first text).rest) := by
            rw [List.nil_append, List.cons_append, hrest]
          refine ⟨[], _, _, htext, List.forall_mem_nil _, hlexeme, ?_, ?_⟩
          · rw [List.append_nil, spanBehind, if_neg hextent, Position.behind_append]
          · exact (Position.behind_append _ _).symm

/-- If there is no next item, there is nothing but white space. -/
theorem blank_of_scanFrom {position : Position} {text : List Char} {ends : Bool}
    (h : Cursor.scanFrom position ends text = none) :
    ∀ character ∈ text, Text.isBlank character = true := by
  induction text generalizing position with
  | nil => exact List.forall_mem_nil _
  | cons first text ih =>
      rw [Cursor.scanFrom] at h
      split at h
      · next hblank =>
          split at h
          · cases h
          · exact List.forall_mem_cons.mpr ⟨hblank, ih h⟩
      · cases h

/-- The text behind some other text can be cut so that the lexemes make its items. -/
theorem exists_fits (cursor : Cursor) {before : List Char}
    (hposition : cursor.position = .behind before) :
    ∃ split : Split, split.text = cursor.rest ∧ split.Fits before cursor.items := by
  cases hscan : cursor.scan with
  | none =>
      rw [Cursor.items_of_scan_none hscan]
      exact ⟨⟨[], cursor.rest⟩, rfl, .last before (blank_of_scanFrom hscan)⟩
  | some read =>
      obtain ⟨item, next⟩ := read
      have hshorter := Cursor.length_rest_lt hscan
      rw [Cursor.items_of_scan_some hscan]
      rw [Cursor.scan, hposition] at hscan
      obtain ⟨blanks, lexeme, content, htext, hblanks, hlexeme, hitem, hnext⟩ :=
        scanFrom_piece hscan
      obtain ⟨⟨pieces, last⟩, hrest, hfits⟩ := exists_fits next hnext
      refine ⟨⟨⟨blanks, lexeme⟩ :: pieces, last⟩, ?_, ?_⟩
      · rw [Split.text_cons, hrest, htext]
      · rw [← hrest] at hlexeme
        exact .piece hblanks hlexeme.ne_nil hlexeme hitem hfits
termination_by cursor.rest.length
decreasing_by exact hshorter

/-! ## The only way to cut it -/

/-- Lexemes that start at the same place and have the same span are the same. -/
theorem lexeme_eq_of_span {before lexeme other rest rest' : List Char}
    (htext : lexeme ++ rest = other ++ rest') (hsome : lexeme ≠ []) (hsome' : other ≠ [])
    (hspan : (spanBehind before lexeme).stop = (spanBehind before other).stop) :
    lexeme = other := by
  simp only [spanBehind] at hspan
  split at hspan
  · next hnewline =>
      split at hspan
      · next hnewline' => rw [hnewline, hnewline']
      · exact absurd (Position.behind_append_eq_iff.mp hspan.symm) hsome'
  · split at hspan
    · exact absurd (Position.behind_append_eq_iff.mp hspan) hsome
    · exact (Position.behind_inj htext hspan).1

/-- The spans of the items settle where the text is cut. -/
theorem Split.Fits.unique {before : List Char} {items : List Item} {split other : Split}
    (h : split.Fits before items) (h' : other.Fits before items)
    (htext : split.text = other.text) : split = other := by
  induction h generalizing other with
  | last before hblanks =>
      cases h' with
      | last =>
          obtain rfl : _ = _ := htext
          rfl
  | @piece before blanks lexeme last pieces item items content _ hsome _ hitem _ ih =>
      cases h' with
      | @piece _ blanks' lexeme' last' pieces' _ _ content' _ hsome' _ hitem' hfits' =>
          rw [Split.text_cons, Split.text_cons] at htext
          have hspan := congrArg Item.span (hitem.symm.trans hitem')
          rw [Item.span_of, Item.span_of] at hspan
          -- The items start at the same place, and so end at the same place.
          obtain ⟨rfl, hlexeme⟩ := Position.behind_inj htext (congrArg Span.start hspan)
          obtain rfl := lexeme_eq_of_span hlexeme hsome hsome' (congrArg Span.stop hspan)
          cases ih hfits' (List.append_cancel_left hlexeme)
          rfl

/-! ## Reading a source text -/

/-- The reader behind some items of a source text. -/
def Lookahead.behind (source : List Char) (interner : Interner) (count : Nat) : Lookahead :=
  (fun reader => reader.next.2)^[count] (.start source interner)

/-- A reader that has not looked ahead reads the items from its place on, one by one. -/
theorem next_iterate (count : Nat) {reader : Lookahead} (h : reader.pending = none) :
    ((fun reader => reader.next.2)^[count] reader).next.1 = reader.cursor.items[count]? := by
  induction count generalizing reader with
  | zero =>
      rw [Function.iterate_zero, id_eq, Lookahead.next, h]
      dsimp only
      rw [Lookahead.scan]
      cases hscan : reader.cursor.scan with
      | none => rw [Cursor.items_of_scan_none hscan, List.getElem?_nil]
      | some read => rw [Cursor.items_of_scan_some hscan, List.getElem?_cons_zero]
  | succ count ih =>
      rw [Function.iterate_succ_apply]
      have hnext : reader.next.2 = reader.scan.2 := by rw [Lookahead.next, h]
      rw [hnext, Lookahead.scan]
      cases hscan : reader.cursor.scan with
      | none =>
          rw [ih h, Cursor.items_of_scan_none hscan, List.getElem?_nil, List.getElem?_nil]
      | some read =>
          rw [Cursor.items_of_scan_some hscan, List.getElem?_cons_succ]
          exact ih h

/-- Reading a source text item by item gives the items of its lexemes. The text is cut in one way
only into lexemes with white space between them, so that each item stands where its lexeme does; and
a lexeme settles what its item reads as. -/
theorem itemsOf_lossless (source : List Char) (interner : Interner) :
    (∃! split : Split, split.text = source ∧ split.Fits [] (itemsOf source))
      ∧ (∀ lexeme behind other content content', IsLexeme lexeme behind content →
        IsLexeme lexeme other content' → content = content')
      ∧ ∀ count, (Lookahead.behind source interner count).next.1 = (itemsOf source)[count]? := by
  refine ⟨?_, fun _ _ _ _ _ => IsLexeme.content_eq, fun count => next_iterate count rfl⟩
  obtain ⟨split, htext, hfits⟩ := @exists_fits (.start source) [] rfl
  refine ⟨split, ⟨htext, hfits⟩, ?_⟩
  rintro other ⟨htext', hfits'⟩
  exact hfits'.unique hfits (htext'.trans htext.symm)

/-- A name, the newline that ends it, and a quoted text that is left open. -/
theorem itemsOf_lossless_name :
    Split.Fits [] (itemsOf ['a', '\n', ' ', '"', 'b'])
        ⟨[⟨[], ['a']⟩, ⟨[], ['\n']⟩, ⟨[' '], ['"', 'b']⟩], []⟩
      ∧ (∃! split : Split, split.text = ['a', '\n', ' ', '"', 'b']
        ∧ split.Fits [] (itemsOf ['a', '\n', ' ', '"', 'b']))
      ∧ IsLexeme ['a'] ['\n', ' ', '"', 'b'] (.ok (.identifier "a"))
      ∧ ∀ content, IsLexeme ['a'] [] content → content = .ok (.identifier "a") := by
  have hall := itemsOf_lossless ['a', '\n', ' ', '"', 'b'] (.empty 0)
  have hname : IsLexeme ['a'] ['\n', ' ', '"', 'b'] (.ok (.identifier "a")) := by
    refine .identifier (List.forall_mem_singleton.mpr (by decide)) (by decide) ?_ ?_
    · intro reserved
      cases reserved <;> simp [Keyword.word]
    · rintro _ ⟨⟩
      decide
  have hitems : itemsOf ['a', '\n', ' ', '"', 'b']
      = [.ok ⟨.identifier "a", ⟨1, 1⟩, ⟨1, 2⟩⟩,
        .ok ⟨.delimiter .terminator, ⟨1, 2⟩, ⟨1, 2⟩⟩,
        .error ⟨.unterminatedText, ⟨2, 2⟩, ⟨2, 4⟩⟩] := by cbv
  refine ⟨?_, hall.1, hname, fun content h => hall.2.1 _ _ _ _ _ h hname⟩
  rw [hitems]
  refine .piece (List.forall_mem_nil _) hname.ne_nil hname rfl ?_
  refine .piece (List.forall_mem_nil _) (List.cons_ne_nil _ _) (.newline _) rfl ?_
  refine .piece (List.forall_mem_singleton.mpr (by decide)) (List.cons_ne_nil _ _)
    (.unterminated (by decide)) rfl ?_
  exact .last _ (List.forall_mem_nil _)

end StackLang
