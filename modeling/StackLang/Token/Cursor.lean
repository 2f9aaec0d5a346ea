import StackLang.Token.Lexeme

/-! # Cutting source text into items

Source text is a sequence of lexemes between white space. Each lexeme gives an item: a token, or an
error after which reading goes on. A newline is white space, except right behind a token that can
end a statement: there it is a terminator.

* `LexicalError` — a fault and where it was met.
* `Item` — a token or a lexical error.
* `Cursor` — a place in the source from which items are read.
* `Cursor.scan` — the next item and the place behind it.
* `Cursor.items` — all items.
* `Cursor.length_rest_lt` — reading an item uses up some text. -/

namespace StackLang

/-- A fault and the lexeme in which it was met. -/
structure LexicalError where
  /-- What is wrong. -/
  fault : LexicalFault
  /-- Where the faulty lexeme stands. -/
  span : Text.Span
  deriving DecidableEq, Repr

/-- The message of a lexical error. -/
def LexicalError.message (error : LexicalError) : String :=
  let place := error.span.start.text
  match error.fault with
  | .unexpectedCharacter character =>
      let shown := String.ofList (Text.Quoted.character character)
      s!"Unexpected character {shown} at {place}"
  | .invalidNumber characters =>
      let text := String.ofList characters
      s!"Invalid number literal \"{text}\" at {place}"
  | .unterminatedText => s!"Unterminated string starting at {place}"

/-- What is read from one lexeme: a token or an error. -/
abbrev Item := Except LexicalError Token

/-- The item with a given content and span. -/
def Item.of (content : Except LexicalFault TokenKind) (span : Text.Span) : Item :=
  match content with
  | .ok kind => .ok ⟨kind, span⟩
  | .error fault => .error ⟨fault, span⟩

/-- What an item reads as, apart from where it stands. -/
def Item.content : Item → Except LexicalFault TokenKind
  | .ok token => .ok token.kind
  | .error error => .error error.fault

/-- Where an item stands. -/
def Item.span : Item → Text.Span
  | .ok token => token.span
  | .error error => error.span

@[simp] theorem Item.content_of (content : Except LexicalFault TokenKind) (span : Text.Span) :
    (Item.of content span).content = content := by
  cases content <;> rfl

@[simp] theorem Item.span_of (content : Except LexicalFault TokenKind) (span : Text.Span) :
    (Item.of content span).span = span := by
  cases content <;> rfl

/-- A place in a source text from which items are read. -/
structure Cursor where
  /-- The text from here on. -/
  rest : List Char
  /-- The position of this place. -/
  position : Text.Position
  /-- The last item was a token that a newline would end a statement behind. -/
  endsStatement : Bool
  deriving DecidableEq, Repr

namespace Cursor

/-- The start of a source text. -/
def start (source : List Char) : Cursor := ⟨source, .start, false⟩

/-- The terminator read from a newline. Its span has no extent. -/
def newlineTerminator (position : Text.Position) : Item :=
  .ok ⟨.delimiter .terminator, .point position⟩

/-- The next item and the place behind it; nothing at the end of the text. -/
def scanFrom (position : Text.Position) (endsStatement : Bool) :
    List Char → Option (Item × Cursor)
  | [] => none
  | first :: text =>
      if Text.isBlank first then
        if first = '\n' ∧ endsStatement then
          some (newlineTerminator position, ⟨text, position.after first, false⟩)
        else scanFrom (position.after first) endsStatement text
      else
        let lexeme := Lexeme.ofText first text
        let stop := position.afterAll (first :: lexeme.tail)
        some (.of lexeme.content ⟨position, stop⟩, ⟨lexeme.rest, stop, lexeme.endsStatement⟩)

/-- The next item and the place behind it; nothing at the end of the text. -/
def scan (cursor : Cursor) : Option (Item × Cursor) :=
  scanFrom cursor.position cursor.endsStatement cursor.rest

theorem length_rest_lt_of_scanFrom {position : Text.Position} {endsStatement : Bool}
    {text : List Char} {item : Item} {next : Cursor}
    (scanned : scanFrom position endsStatement text = some (item, next)) :
    next.rest.length < text.length := by
  induction text generalizing position with
  | nil => simp [scanFrom] at scanned
  | cons first text induction =>
      simp only [scanFrom] at scanned
      split at scanned
      · split at scanned
        · cases scanned
          simp
        · have shorter := induction scanned
          simp only [List.length_cons]
          omega
      · cases scanned
        have shorter := Lexeme.length_rest_le first text
        simp only [List.length_cons]
        omega

/-- Reading an item uses up some text. -/
theorem length_rest_lt {cursor next : Cursor} {item : Item}
    (scanned : cursor.scan = some (item, next)) : next.rest.length < cursor.rest.length :=
  length_rest_lt_of_scanFrom scanned

/-- All items from a place on. -/
def items (cursor : Cursor) : List Item :=
  match _scanned : cursor.scan with
  | none => []
  | some (item, next) => item :: next.items
termination_by cursor.rest.length
decreasing_by exact length_rest_lt _scanned

/-- Where no item follows there are none. -/
theorem items_of_scan_none {cursor : Cursor} (scanned : cursor.scan = none) :
    cursor.items = [] := by
  rw [items]
  split
  · rfl
  · next found => simp [found] at scanned

/-- The next item is the first of all. -/
theorem items_of_scan_some {cursor next : Cursor} {item : Item}
    (scanned : cursor.scan = some (item, next)) : cursor.items = item :: next.items := by
  rw [items]
  split
  · next found => simp [found] at scanned
  · next found =>
      rw [scanned] at found
      cases found
      rfl

end Cursor

/-- All items of a source text. -/
def itemsOf (source : List Char) : List Item :=
  (Cursor.start source).items

end StackLang
