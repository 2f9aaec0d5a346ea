/-! # Positions in a source text

* `Position` — a line and a column, both counted from one.
* `Position.after` — the position behind a character, and behind a run of characters.
* `Span` — where a piece of text starts and where it ends. -/

namespace StackLang.Text

/-- A place in a source text: in front of a character, or at the end. -/
structure Position where
  /-- One more than the number of newlines before it. -/
  line : Nat
  /-- One more than the number of characters before it on its line. -/
  column : Nat
  deriving DecidableEq, Repr

namespace Position

/-- The position in front of the first character. -/
def start : Position := ⟨1, 1⟩

/-- The position behind one character. -/
def after (position : Position) (character : Char) : Position :=
  if character = '\n' then ⟨position.line + 1, 1⟩ else ⟨position.line, position.column + 1⟩

/-- The position behind a run of characters. -/
def afterAll (position : Position) (characters : List Char) : Position :=
  characters.foldl after position

@[simp] theorem afterAll_nil (position : Position) : position.afterAll [] = position := rfl

@[simp] theorem afterAll_cons (position : Position) (character : Char) (rest : List Char) :
    position.afterAll (character :: rest) = (position.after character).afterAll rest := rfl

/-- The position behind two runs is found by going through them one after the other. -/
theorem afterAll_append (position : Position) (left right : List Char) :
    position.afterAll (left ++ right) = (position.afterAll left).afterAll right := by
  simp [afterAll, List.foldl_append]

/-- A position as it is named in messages: the line, a colon, the column. -/
def text (position : Position) : String :=
  s!"{position.line}:{position.column}"

end Position

/-- The stretch of source text that an item was read from. -/
structure Span where
  /-- In front of the first character. -/
  start : Position
  /-- Behind the last character. -/
  stop : Position
  deriving DecidableEq, Repr

namespace Span

/-- A span of no extent. -/
def point (position : Position) : Span := ⟨position, position⟩

end Span

end StackLang.Text
