import StackLang.Text.Alphabetic
import StackLang.Text.Numeric
import StackLang.Text.Unprintable

/-! # Classes of characters

The classes by which source text is cut into lexical items, and the class by which quoted text
decides what to escape.

* `isBlank` — white space, which separates items.
* `isNumeric` — the start of a number.
* `isWordPart` — what an identifier, a keyword or the tail of a number consists of.
* `isPrintable` — what stands for itself in quoted text. -/

namespace StackLang.Text

/-- Code points with the property White_Space. -/
def blankRanges : Ranges :=
  [(0x09, 0x0D), (0x20, 0x20), (0x85, 0x85), (0xA0, 0xA0), (0x1680, 0x1680), (0x2000, 0x200A),
   (0x2028, 0x2029), (0x202F, 0x202F), (0x205F, 0x205F), (0x3000, 0x3000)]

/-- White space. -/
def isBlank (character : Char) : Bool :=
  blankRanges.contains character

/-- A character that starts a number: an ASCII digit, or a numeric character beyond ASCII. -/
def isNumeric (character : Char) : Bool :=
  if character.toNat < 0x80 then character.isDigit else numericRanges.contains character

/-- A letter: of the ASCII alphabet, or an alphabetic character beyond ASCII. -/
def isAlphabetic (character : Char) : Bool :=
  if character.toNat < 0x80 then character.isAlpha else alphabeticRanges.contains character

/-- A letter, a numeric character or an underscore. -/
def isWordPart (character : Char) : Bool :=
  isAlphabetic character || isNumeric character || character == '_'

/-- A character that shows as itself: in ASCII the space and the visible characters, beyond ASCII
whatever is not listed as unprintable. -/
def isPrintable (character : Char) : Bool :=
  if character.toNat < 0x80 then 0x20 ≤ character.toNat && character.toNat != 0x7F
  else !unprintableRanges.contains character

/-! ## Relations between the classes -/

/-- A numeric character can stand inside a word. -/
theorem isWordPart_of_isNumeric {character : Char} (numeric : isNumeric character = true) :
    isWordPart character = true := by
  simp [isWordPart, numeric]

/-- A newline is white space. -/
theorem isBlank_newline : isBlank '\n' = true := by decide

/-- A newline ends every word. -/
theorem isWordPart_newline : isWordPart '\n' = false := by decide

end StackLang.Text
