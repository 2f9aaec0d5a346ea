import StackLang.Numeral.Read
import StackLang.Text.Character
import StackLang.Token

/-! # Lexemes

The piece of text that makes one item: a sign, a word, a number, a quoted text or a stray character.

* `LexicalFault` — what can be wrong with a lexeme.
* `Lexeme` — a lexeme with what it reads as and the text behind it.
* `Lexeme.ofText` — the lexeme at the start of a text. Words and numbers are as long as they can be;
  a quoted text goes to the next double quote.
* `Lexeme.characters_append_rest` — cutting a lexeme off loses nothing. -/

namespace StackLang

/-- What can be wrong with a lexeme. -/
inductive LexicalFault where
  /-- A character that starts no item. -/
  | unexpectedCharacter (character : Char)
  /-- Something that starts like a number and is none. -/
  | invalidNumber (characters : List Char)
  /-- A quoted text whose closing quote is missing. -/
  | unterminatedText
  deriving DecidableEq, Repr

/-- A lexeme cut off a text. -/
structure Lexeme where
  /-- What the lexeme reads as. -/
  content : Except LexicalFault TokenKind
  /-- The characters of the lexeme behind its first one. -/
  tail : List Char
  /-- The text behind the lexeme. -/
  rest : List Char

namespace Lexeme

/-- A character of a number behind its first one. -/
def isNumberPart (character : Char) : Bool :=
  Text.isWordPart character || character == '.'

/-- What a lexeme that starts like a number reads as. -/
def numberContent (characters : List Char) : Except LexicalFault TokenKind :=
  match Numeral.Scientific.ofText? characters with
  | some decimal => .ok (.number decimal.toFloat)
  | none => .error (.invalidNumber characters)

/-- The lexeme behind an opening quote: up to the next quote, or the whole text if there is none. -/
def quoted (text : List Char) : Lexeme :=
  let contents := text.takeWhile (· != '"')
  match text.dropWhile (· != '"') with
  | [] => ⟨.error .unterminatedText, contents, []⟩
  | quote :: rest => ⟨.ok (.text contents), contents ++ [quote], rest⟩

/-- The lexeme that starts with a character which is not white space. -/
def ofText (first : Char) (text : List Char) : Lexeme :=
  match TokenKind.ofSign? first with
  | some kind => ⟨.ok kind, [], text⟩
  | none =>
    if first = '"' then quoted text
    else if Text.isNumeric first then
      let tail := text.takeWhile isNumberPart
      ⟨numberContent (first :: tail), tail, text.dropWhile isNumberPart⟩
    else if Text.isWordPart first then
      let tail := text.takeWhile Text.isWordPart
      ⟨.ok (.ofWord (first :: tail)), tail, text.dropWhile Text.isWordPart⟩
    else ⟨.error (.unexpectedCharacter first), [], text⟩

/-- Whether a newline right behind the lexeme ends the statement. -/
def endsStatement (lexeme : Lexeme) : Bool :=
  match lexeme.content with
  | .ok kind => kind.endsStatement
  | .error _ => false

/-- Cutting off a quoted text loses nothing. -/
theorem quoted_tail_append_rest (text : List Char) :
    (quoted text).tail ++ (quoted text).rest = text := by
  have split := List.takeWhile_append_dropWhile (p := (· != '"')) (l := text)
  unfold quoted
  cases behind : text.dropWhile (· != '"') with
  | nil => simpa [behind] using split
  | cons quote rest => simpa [behind] using split

/-- Cutting off a lexeme loses nothing. -/
theorem tail_append_rest (first : Char) (text : List Char) :
    (ofText first text).tail ++ (ofText first text).rest = text := by
  unfold ofText
  split
  · rfl
  · split
    · exact quoted_tail_append_rest text
    · split
      · exact List.takeWhile_append_dropWhile
      · split
        · exact List.takeWhile_append_dropWhile
        · rfl

/-- The text behind a lexeme is no longer than the text in which it was found. -/
theorem length_rest_le (first : Char) (text : List Char) :
    (ofText first text).rest.length ≤ text.length := by
  have whole := congrArg List.length (tail_append_rest first text)
  simp only [List.length_append] at whole
  omega

end Lexeme

end StackLang
