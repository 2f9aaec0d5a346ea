import StackLang.Token.Cursor

/-! # The items from a place on

One equation for each way in which the text there can start.

* `items_newline` — a newline that ends a statement is an item.
* `items_blank` — all other white space is passed over.
* `items_lexeme` — a lexeme makes an item. -/

namespace StackLang

open Text (Position)

/-- A newline that ends a statement is an item. -/
theorem items_newline (text : List Char) (position : Position) :
    (Cursor.mk ('\n' :: text) position true).items
      = Cursor.newlineTerminator position :: (Cursor.mk text (position.after '\n') false).items :=
  Cursor.items_of_scan_some rfl

/-- All other white space is passed over. -/
theorem items_blank {ends : Bool} {character : Char} (text : List Char) (position : Position)
    (hblank : Text.isBlank character = true) (hpassed : ¬ (character = '\n' ∧ ends = true)) :
    (Cursor.mk (character :: text) position ends).items
      = (Cursor.mk text (position.after character) ends).items := by
  have hscan : (Cursor.mk (character :: text) position ends).scan
      = (Cursor.mk text (position.after character) ends).scan := by
    rw [Cursor.scan, Cursor.scanFrom, if_pos hblank, if_neg hpassed]
    rfl
  rw [Cursor.items.eq_def, Cursor.items.eq_def ⟨text, _, _⟩, hscan]

/-- A lexeme makes an item. -/
theorem items_lexeme {ends : Bool} {first : Char} {text : List Char} {lexeme : Lexeme}
    (position : Position) (hblank : Text.isBlank first = false)
    (htext : Lexeme.ofText first text = lexeme) :
    (Cursor.mk (first :: text) position ends).items
      = Item.of lexeme.content ⟨position, position.afterAll (first :: lexeme.tail)⟩
        :: (Cursor.mk lexeme.rest (position.afterAll (first :: lexeme.tail))
          lexeme.endsStatement).items := by
  subst htext
  refine Cursor.items_of_scan_some ?_
  rw [Cursor.scan, Cursor.scanFrom, hblank]
  rfl

end StackLang
