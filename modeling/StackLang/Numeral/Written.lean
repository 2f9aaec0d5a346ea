import StackLang.Numeral.Shortest

/-! # The text of a number

Numbers are written with the fewest digits that read back to the same number, positionally however
large or small they are: no exponent, no point behind a whole number, a sign before a negative one
and before a negative zero.

* `Decimal.written` — the positional text of a decimal.
* `written` — the text of a number. -/

namespace StackLang.Numeral

/-- The digits after the point, padded on the left with zeros and without trailing zeros. -/
def Decimal.fractionDigits (decimal : Decimal) : List Char :=
  let digits := Nat.toDigits 10 (decimal.digits % Nat.pow 10 decimal.places)
  let padded := List.replicate (decimal.places - digits.length) '0' ++ digits
  if decimal.digits % Nat.pow 10 decimal.places = 0 then []
  else (padded.reverse.dropWhile (· == '0')).reverse

/-- The positional text of a decimal. -/
def Decimal.written (decimal : Decimal) : List Char :=
  let whole := Nat.toDigits 10 (decimal.digits / Nat.pow 10 decimal.places)
  match decimal.fractionDigits with
  | [] => whole
  | fraction => whole ++ '.' :: fraction

/-- The exponent field of the bits of a number. -/
def exponentField (number : Float) : Nat :=
  (number.toBits.toNat / Nat.pow 2 52) % Nat.pow 2 11

/-- The fraction field of the bits of a number. -/
def fractionField (number : Float) : Nat :=
  number.toBits.toNat % Nat.pow 2 52

/-- Whether the sign bit of a number is set. -/
def isNegative (number : Float) : Bool :=
  number.toBits.toNat / Nat.pow 2 63 == 1

/-- The text of a number without its sign. A number whose exponent field is all ones is infinite,
or not a number if its fraction field holds a bit. -/
def magnitudeWritten (number : Float) : List Char :=
  if exponentField number = 2047 then "inf".toList
  else if exponentField number = 0 ∧ fractionField number = 0 then ['0']
  else (Binary.ofFields (exponentField number) (fractionField number)).shortest.written

/-- The text of a number. What is not a number has no sign. -/
def written (number : Float) : List Char :=
  if exponentField number = 2047 ∧ fractionField number ≠ 0 then "NaN".toList
  else if isNegative number then '-' :: magnitudeWritten number
  else magnitudeWritten number

end StackLang.Numeral
