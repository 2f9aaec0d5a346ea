import StackLang.Numeral.Written
import StackLang.Text.Position
import StackLang.Text.Quoted

/-! # Tokens

The words and signs of the language.

* `Keyword`, `Delimiter`, `Operator` — the reserved words and the signs.
* `TokenKind` — what a token is, apart from where it stands.
* `TokenKind.precedence` — how strongly a token binds behind an operand.
* `TokenKind.endsStatement` — whether a newline right behind the token ends the statement.
* `TokenKind.shown` — a token as it is shown.
* `Token` — a kind with its span. -/

namespace StackLang

/-- The reserved words. -/
inductive Keyword where
  /-- `defun` opens a definition. -/
  | defunWord
  /-- `end` closes a definition or a block. -/
  | endWord
  /-- `return` leaves a function. -/
  | returnWord
  /-- `let` binds a local name. -/
  | letWord
  /-- `if` is reserved. -/
  | ifWord
  /-- `then` is reserved. -/
  | thenWord
  /-- `else` is reserved. -/
  | elseWord
  /-- `do` opens a block. -/
  | doWord
  deriving DecidableEq, Repr

namespace Keyword

/-- The spelling of a reserved word. -/
def word : Keyword → String
  | .defunWord => "defun"
  | .endWord => "end"
  | .returnWord => "return"
  | .letWord => "let"
  | .ifWord => "if"
  | .thenWord => "then"
  | .elseWord => "else"
  | .doWord => "do"

/-- All reserved words. -/
def all : List Keyword :=
  [.defunWord, .endWord, .returnWord, .letWord, .ifWord, .thenWord, .elseWord, .doWord]

/-- The reserved word with a given spelling. -/
def ofWord? (spelling : String) : Option Keyword :=
  all.find? fun keyword => keyword.word == spelling

/-- A reserved word is found by its spelling. -/
@[simp] theorem ofWord?_word (keyword : Keyword) : ofWord? keyword.word = some keyword := by
  cases keyword <;> decide

/-- What is found by a spelling is spelled so. -/
theorem word_of_ofWord? {spelling : String} {keyword : Keyword}
    (found : ofWord? spelling = some keyword) : keyword.word = spelling := by
  simpa using List.find?_some found

end Keyword

/-- The signs that group and separate. -/
inductive Delimiter where
  /-- `(` -/
  | openParen
  /-- `)` -/
  | closeParen
  /-- `[` -/
  | openBracket
  /-- `]` -/
  | closeBracket
  /-- `,` -/
  | comma
  /-- `=` -/
  | equals
  /-- `;`, or a newline that ends a statement. -/
  | terminator
  deriving DecidableEq, Repr

/-- The sign of a delimiter. -/
def Delimiter.sign : Delimiter → Char
  | .openParen => '('
  | .closeParen => ')'
  | .openBracket => '['
  | .closeBracket => ']'
  | .comma => ','
  | .equals => '='
  | .terminator => ';'

/-- The signs that stand between operands. -/
inductive Operator where
  /-- `+` -/
  | plus
  /-- `-` -/
  | minus
  /-- `*` -/
  | star
  /-- `/` -/
  | slash
  /-- `.` -/
  | dot
  deriving DecidableEq, Repr

/-- The sign of an operator. -/
def Operator.sign : Operator → Char
  | .plus => '+'
  | .minus => '-'
  | .star => '*'
  | .slash => '/'
  | .dot => '.'

/-- What a token is, apart from where it stands. -/
inductive TokenKind where
  /-- A reserved word. -/
  | keyword (reserved : Keyword)
  /-- A sign that groups or separates. -/
  | delimiter (separator : Delimiter)
  /-- A sign between operands. -/
  | operator (infixSign : Operator)
  /-- A name. -/
  | identifier (name : String)
  /-- A quoted text, given by its contents. -/
  | text (contents : List Char)
  /-- A number. -/
  | number (value : Float)
  deriving DecidableEq, Repr

namespace TokenKind

/-- The kind of a token that is a single sign. -/
def ofSign? : Char → Option TokenKind
  | ';' => some (.delimiter .terminator)
  | '(' => some (.delimiter .openParen)
  | ')' => some (.delimiter .closeParen)
  | '[' => some (.delimiter .openBracket)
  | ']' => some (.delimiter .closeBracket)
  | ',' => some (.delimiter .comma)
  | '=' => some (.delimiter .equals)
  | '+' => some (.operator .plus)
  | '-' => some (.operator .minus)
  | '*' => some (.operator .star)
  | '/' => some (.operator .slash)
  | '.' => some (.operator .dot)
  | _ => none

/-- The kind of a token that is a word: a reserved word, or else a name. -/
def ofWord (characters : List Char) : TokenKind :=
  let spelling := String.ofList characters
  match Keyword.ofWord? spelling with
  | some reserved => .keyword reserved
  | none => .identifier spelling

/-- How strongly a token binds behind an operand: not at all (0), as a sum (1), as a product (2), or
as a field access or a call (3). -/
def precedence : TokenKind → Nat
  | .operator .plus => 1
  | .operator .minus => 1
  | .operator .star => 2
  | .operator .slash => 2
  | .operator .dot => 3
  | .delimiter .openParen => 3
  | _ => 0

/-- Whether a newline right behind the token ends the statement. -/
def endsStatement : TokenKind → Bool
  | .number _ => true
  | .identifier _ => true
  | .delimiter .closeParen => true
  | .delimiter .closeBracket => true
  | .keyword .returnWord => true
  | _ => false

/-- A token as it is shown; a terminator is shown as a semicolon whatever it was read from. -/
def shown : TokenKind → List Char
  | .keyword reserved => reserved.word.toList
  | .delimiter separator => [separator.sign]
  | .operator infixSign => [infixSign.sign]
  | .identifier name => name.toList
  | .text contents => Text.Quoted.text contents
  | .number value => Numeral.written value

/-- The shown form as a string. -/
def toText (kind : TokenKind) : String :=
  String.ofList kind.shown

/-- A delimiter is read from its sign. -/
@[simp] theorem ofSign?_delimiter (separator : Delimiter) :
    ofSign? separator.sign = some (.delimiter separator) := by
  cases separator <;> rfl

/-- An operator is read from its sign. -/
@[simp] theorem ofSign?_operator (infixSign : Operator) :
    ofSign? infixSign.sign = some (.operator infixSign) := by
  cases infixSign <;> rfl

end TokenKind

/-- A token: its kind and where it stands. -/
structure Token where
  /-- What the token is. -/
  kind : TokenKind
  /-- Where it was read. -/
  span : Text.Span
  deriving DecidableEq, Repr

end StackLang
