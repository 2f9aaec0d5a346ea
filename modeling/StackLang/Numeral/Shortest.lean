/-! # The shortest decimal of a binary fraction

A finite binary floating-point number stands for an interval of real numbers: those nearer to it
than to any of its neighbours, its two ends included exactly when its mantissa is even. The decimal
chosen for it is one of that interval with the fewest significant digits, and of those the nearest
to the number.

* `Binary` — a mantissa times a power of two, as the bits of a number give it.
* `Decimal` — a natural number over a power of ten.
* `Binary.covers` — whether a decimal lies in the interval of a binary fraction.
* `Binary.shortest` — the decimal chosen. -/

namespace StackLang.Numeral

/-- The binary fraction `mantissa * 2 ^ up / 2 ^ down`. -/
structure Binary where
  /-- The significant bits, as a natural number. -/
  mantissa : Nat
  /-- The power of two that multiplies the mantissa. -/
  up : Nat
  /-- The power of two that divides it; one of the two powers is zero. -/
  down : Nat
  /-- The gap to the neighbour below is half the gap to the neighbour above. -/
  narrowBelow : Bool
  deriving DecidableEq, Repr

/-- The decimal fraction `digits / 10 ^ places`. -/
structure Decimal where
  /-- All digits, read as a natural number. -/
  digits : Nat
  /-- How many of them stand after the point. -/
  places : Nat
  deriving DecidableEq, Repr

namespace Binary

/-- The binary fraction written by the exponent field and the fraction field of a finite number of
64 bits. Field zero stands for the smallest exponent, without the leading bit. -/
def ofFields (exponent fraction : Nat) : Binary :=
  if exponent = 0 then ⟨fraction, 0, 1074, false⟩
  else ⟨Nat.pow 2 52 + fraction, exponent - 1075, 1075 - exponent, fraction = 0 && 1 < exponent⟩

/-- The number multiplied by `2 ^ down`. -/
def numerator (value : Binary) : Nat :=
  value.mantissa * Nat.pow 2 value.up

/-- The power of two under the numerator. -/
def denominator (value : Binary) : Nat :=
  Nat.pow 2 value.down

/-- Four times the distance from zero of the lower end of the interval, in units of the last bit. -/
def lowerQuarters (value : Binary) : Nat :=
  if value.narrowBelow then 4 * value.mantissa - 1 else 4 * value.mantissa - 2

/-- Four times the distance from zero of the upper end of the interval, in units of the last bit. -/
def upperQuarters (value : Binary) : Nat :=
  4 * value.mantissa + 2

/-- Whether a decimal lies in the interval of numbers that a binary fraction stands for. -/
def covers (value : Binary) (decimal : Decimal) : Bool :=
  let point := 4 * decimal.digits * value.denominator
  let lower := value.lowerQuarters * Nat.pow 2 value.up * Nat.pow 10 decimal.places
  let upper := value.upperQuarters * Nat.pow 2 value.up * Nat.pow 10 decimal.places
  if value.mantissa % 2 = 0 then lower ≤ point && point ≤ upper
  else lower < point && point < upper

/-- How many decimal digits a natural number has. -/
def decimalLength (number : Nat) : Nat :=
  (Nat.toDigits 10 number).length

/-- The least power of ten above a binary fraction other than zero, as an exponent. -/
def magnitude (value : Binary) : Int :=
  if value.denominator ≤ value.numerator then
    decimalLength (value.numerator / value.denominator)
  else
    1 - (decimalLength ((value.denominator - 1) / value.numerator) : Int)

/-- The two neighbours of a binary fraction among the multiples of `10 ^ exponent`, the one below
(or equal) first. -/
def neighbours (value : Binary) (exponent : Int) : Decimal × Decimal :=
  let places := (-exponent).toNat
  let step := Nat.pow 10 exponent.toNat
  let below := value.numerator * Nat.pow 10 places / (value.denominator * step) * step
  (⟨below, places⟩, ⟨below + step, places⟩)

/-- Of two decimals on either side of a binary fraction, with equally many places, the nearer one;
the upper one if they are equally near. -/
def nearer (value : Binary) (below above : Decimal) : Decimal :=
  let scale := Nat.pow 10 above.places
  if (below.digits + above.digits) * value.denominator ≤ 2 * value.numerator * scale then above
  else below

/-- The neighbour chosen on one grid: one that the interval covers, the nearer one if it covers
both, none if it covers neither. -/
def chooseOn (value : Binary) (exponent : Int) : Option Decimal :=
  let (below, above) := value.neighbours exponent
  match value.covers below, value.covers above with
  | true, true => some (value.nearer below above)
  | true, false => some below
  | false, true => some above
  | false, false => none

/-- The exact decimal value of a binary fraction. -/
def exactly (value : Binary) : Decimal :=
  ⟨value.numerator * Nat.pow 5 value.down, value.down⟩

/-- The decimal with the fewest significant digits that the interval covers. Seventeen digits
suffice to tell any two numbers of 64 bits apart; beyond them the value is written exactly. -/
def shortest (value : Binary) : Decimal :=
  let grids := (List.range' 1 17).map fun (digits : Nat) => value.magnitude - digits
  (grids.findSome? value.chooseOn).getD value.exactly

end Binary

end StackLang.Numeral
