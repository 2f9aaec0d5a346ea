import StackLang.Text.Character

/-! # Quoted text

The written form of a text or of a character inside quotes. A backslash, the quote in use, and
every character that would not show stand behind a backslash; all others stand for themselves.

* `Quoted.escape` — the written form of one character inside a given kind of quotes.
* `Quoted.text`, `Quoted.character` — a whole text in double quotes, one character in single
  quotes. -/

namespace StackLang.Text.Quoted

/-- The lower-case hexadecimal digits of a code point, without leading zeros. -/
def hexadecimal (code : Nat) : List Char :=
  Nat.toDigits 16 code

/-- The written form of a character inside the given quotes. -/
def escape (quote character : Char) : List Char :=
  match character with
  | '\x00' => ['\\', '0']
  | '\t' => ['\\', 't']
  | '\r' => ['\\', 'r']
  | '\n' => ['\\', 'n']
  | '\\' => ['\\', '\\']
  | other =>
      if other = quote then ['\\', other]
      else if isPrintable other then [other]
      else ['\\', 'u', '\x7b'] ++ hexadecimal other.toNat ++ ['\x7d']

/-- A text between the given quotes. -/
def between (quote : Char) (characters : List Char) : List Char :=
  quote :: characters.flatMap (escape quote) ++ [quote]

/-- A text in double quotes. -/
def text (characters : List Char) : List Char :=
  between '"' characters

/-- A character in single quotes. -/
def character (shown : Char) : List Char :=
  between '\'' [shown]

end StackLang.Text.Quoted
