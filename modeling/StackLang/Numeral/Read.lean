/-! # Reading numbers

A number is read from an optional sign and then either one of the words `inf`, `infinity` and `nan`,
in any case, or digits with an optional point and an optional exponent. At least one digit must
stand before the exponent; a point may stand at either end of the digits. The number nearest to the
decimal is taken, the even one if two are equally near.

* `Scientific` — the digits, places and exponent of a decimal text.
* `Scientific.ofText?` — reading the digits.
* `Scientific.toFloat` — the nearest number.
* `read?` — reading a whole text with its sign. -/

namespace StackLang.Numeral

/-- The decimal `digits * 10 ^ (exponent - places)`. -/
structure Scientific where
  /-- The digits before and after the point, read as one natural number. -/
  digits : Nat
  /-- How many of them stand after the point. -/
  places : Nat
  /-- The power of ten written behind them. -/
  exponent : Int
  deriving DecidableEq, Repr

/-- The natural number written by nothing but ASCII digits, at least one. -/
def natural? (characters : List Char) : Option Nat :=
  if characters ≠ [] ∧ characters.all Char.isDigit then
    some (Nat.ofDigitChars 10 characters 0)
  else none

/-- The exponent behind its letter: an optional sign and digits. -/
def exponent? : List Char → Option Int
  | '+' :: digits => (natural? digits).map Int.ofNat
  | '-' :: digits => (natural? digits).map fun magnitude => -(magnitude : Int)
  | digits => (natural? digits).map Int.ofNat

/-- What may follow the digits: nothing, or the letter `e` and an exponent. -/
def exponentPart? : List Char → Option Int
  | [] => some 0
  | letter :: rest => if letter = 'e' ∨ letter = 'E' then exponent? rest else none

/-- What may follow the digits before the point: a point with more digits, or nothing. -/
def fractionPart : List Char → List Char × List Char
  | '.' :: rest => (rest.takeWhile Char.isDigit, rest.dropWhile Char.isDigit)
  | rest => ([], rest)

/-- Read digits with an optional point and an optional exponent. -/
def Scientific.ofText? (characters : List Char) : Option Scientific := do
  let whole := characters.takeWhile Char.isDigit
  let (fraction, rest) := fractionPart (characters.dropWhile Char.isDigit)
  let digits ← natural? (whole ++ fraction)
  let exponent ← exponentPart? rest
  return ⟨digits, fraction.length, exponent⟩

/-- Positive infinity. -/
def infinity : Float :=
  1 / 0

/-- The value that is not a number. -/
def notANumber : Float :=
  0 / 0

/-- The number nearest to a decimal. A decimal of more than 310 digits before its point lies beyond
the largest number, one whose first 330 places are zeros lies nearest to zero; only between these
bounds is the power of ten computed. -/
def Scientific.toFloat (decimal : Scientific) : Float :=
  let exponent := decimal.exponent - decimal.places
  let length := exponent + (Nat.toDigits 10 decimal.digits).length
  if decimal.digits = 0 ∨ length < -330 then 0
  else if 310 < length then infinity
  else Float.ofScientific decimal.digits (exponent < 0) exponent.natAbs

/-- Whether a text is one of the given words, upper and lower case alike. -/
def isWord (characters : List Char) (words : List String) : Bool :=
  words.any fun word => characters.map Char.toLower == word.toList

/-- Read a number without a sign. -/
def readUnsigned? (characters : List Char) : Option Float :=
  if isWord characters ["inf", "infinity"] then some infinity
  else if isWord characters ["nan"] then some notANumber
  else (Scientific.ofText? characters).map Scientific.toFloat

/-- Read a number with an optional sign. -/
def read? : List Char → Option Float
  | '-' :: rest => (readUnsigned? rest).map Float.neg
  | '+' :: rest => readUnsigned? rest
  | characters => readUnsigned? characters

end StackLang.Numeral
