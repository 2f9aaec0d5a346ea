import Mathlib
import StackLang.Numeral.Shortest

/-! # The intervals of numbers

The decimal chosen for a binary fraction lies in the interval that the fraction stands for. Two
fractions that are written by different fields have intervals with no number in common: where two
intervals touch, one of the mantissas is odd, and that interval is open.

* `Decimal.value`, `Binary.Interval` — the value of a decimal, and the numbers of an interval.
* `covers_shortest` — the decimal chosen is covered.
* `interval_disjoint` — intervals of different fields are disjoint. -/

namespace StackLang.Numeral

/-! ## Decimals in an interval -/

/-- The value of a decimal. -/
def Decimal.value (decimal : Decimal) : ℚ :=
  decimal.digits / 10 ^ decimal.places

namespace Binary

/-- A quarter of the last bit. -/
def quarter (binary : Binary) : ℚ :=
  2 ^ binary.up / 2 ^ binary.down / 4

/-- The numbers that a binary fraction stands for: its two ends belong to them if its mantissa is
even. -/
def Interval (binary : Binary) (number : ℚ) : Prop :=
  binary.lowerQuarters * binary.quarter ≤ number ∧ number ≤ binary.upperQuarters * binary.quarter
    ∧ (binary.mantissa % 2 = 1 → binary.lowerQuarters * binary.quarter < number
      ∧ number < binary.upperQuarters * binary.quarter)

variable {binary : Binary} {decimal : Decimal}

theorem quarter_pos (binary : Binary) : 0 < binary.quarter := by
  rw [quarter]
  positivity

/-- A number of quarters as one fraction. -/
theorem mul_quarter (binary : Binary) (quarters : Nat) :
    (quarters : ℚ) * binary.quarter = quarters * 2 ^ binary.up / (4 * 2 ^ binary.down) := by
  rw [quarter]
  ring

/-- A number of quarters against a decimal, without fractions. -/
theorem mul_quarter_le_iff (quarters : Nat) :
    (quarters : ℚ) * binary.quarter ≤ decimal.value
      ↔ quarters * Nat.pow 2 binary.up * Nat.pow 10 decimal.places
        ≤ 4 * decimal.digits * binary.denominator := by
  rw [mul_quarter, Decimal.value, div_le_div_iff₀ (by positivity) (by positivity), denominator,
    ← @Nat.cast_le ℚ]
  simp only [Nat.pow_eq]
  push_cast
  constructor <;> intro h <;> linarith

/-- The same the other way round. -/
theorem le_mul_quarter_iff (quarters : Nat) :
    decimal.value ≤ (quarters : ℚ) * binary.quarter
      ↔ 4 * decimal.digits * binary.denominator
        ≤ quarters * Nat.pow 2 binary.up * Nat.pow 10 decimal.places := by
  rw [mul_quarter, Decimal.value, div_le_div_iff₀ (by positivity) (by positivity), denominator,
    ← @Nat.cast_le ℚ]
  simp only [Nat.pow_eq]
  push_cast
  constructor <;> intro h <;> linarith

/-- A decimal is covered just if its value belongs to the interval. -/
theorem covers_iff : binary.covers decimal = true ↔ binary.Interval decimal.value := by
  rw [Interval, ← not_le, ← not_le, mul_quarter_le_iff, le_mul_quarter_iff, mul_quarter_le_iff,
    le_mul_quarter_iff, covers]
  by_cases heven : binary.mantissa % 2 = 0
  · simp [heven]
  · have hodd : binary.mantissa % 2 = 1 := by omega
    simp [hodd]
    omega

/-- The interval of a number other than zero lies above zero. -/
theorem Interval.pos {number : ℚ} (h : binary.Interval number) (hmantissa : 0 < binary.mantissa) :
    0 < number := by
  have hlower : 0 < binary.lowerQuarters := by
    rw [lowerQuarters]
    split <;> omega
  exact (mul_pos (Nat.cast_pos.mpr hlower) binary.quarter_pos).trans_le h.1

/-! ## The decimal chosen -/

/-- What is chosen on a grid is covered. -/
theorem covers_of_chooseOn {exponent : Int} (h : binary.chooseOn exponent = some decimal) :
    binary.covers decimal = true := by
  simp only [chooseOn] at h
  split at h
  · next hbelow habove =>
      rw [nearer] at h
      split at h
      · exact Option.some.inj h ▸ habove
      · exact Option.some.inj h ▸ hbelow
  · next hbelow _ => exact Option.some.inj h ▸ hbelow
  · next _ habove => exact Option.some.inj h ▸ habove
  · cases h

/-- The exact value is four quarters for each unit of the mantissa. -/
theorem value_exactly (binary : Binary) :
    binary.exactly.value = (4 * binary.mantissa : Nat) * binary.quarter := by
  rw [mul_quarter, Decimal.value, exactly, numerator]
  simp only [Nat.pow_eq]
  have hten : (10 : ℚ) ^ binary.down = 2 ^ binary.down * 5 ^ binary.down := by
    rw [← mul_pow]
    norm_num
  push_cast
  rw [hten, div_eq_div_iff (by positivity) (by positivity)]
  ring

/-- The exact value of a number other than zero lies inside the interval. -/
theorem interval_exactly (h : 0 < binary.mantissa) : binary.Interval binary.exactly.value := by
  have hquarter := binary.quarter_pos
  have hlower : binary.lowerQuarters < 4 * binary.mantissa := by
    rw [lowerQuarters]
    split <;> omega
  have hupper : 4 * binary.mantissa < binary.upperQuarters := by
    rw [upperQuarters]
    omega
  have hbelow : (binary.lowerQuarters : ℚ) * binary.quarter
      < (4 * binary.mantissa : Nat) * binary.quarter :=
    mul_lt_mul_of_pos_right (Nat.cast_lt.mpr hlower) hquarter
  have habove : ((4 * binary.mantissa : Nat) : ℚ) * binary.quarter
      < binary.upperQuarters * binary.quarter :=
    mul_lt_mul_of_pos_right (Nat.cast_lt.mpr hupper) hquarter
  rw [value_exactly]
  exact ⟨hbelow.le, habove.le, fun _ => ⟨hbelow, habove⟩⟩

/-- The decimal chosen for a number other than zero is covered. -/
theorem interval_shortest (h : 0 < binary.mantissa) : binary.Interval binary.shortest.value := by
  rw [shortest]
  cases hfound : ((List.range' 1 17).map fun (digits : Nat) =>
      binary.magnitude - digits).findSome? binary.chooseOn with
  | none => exact interval_exactly h
  | some decimal =>
      obtain ⟨exponent, -, hchosen⟩ := List.exists_of_findSome?_eq_some hfound
      exact covers_iff.mp (covers_of_chooseOn hchosen)

/-! ## Intervals of different fields -/

/-- The last bit of the smallest numbers, divided by eight. -/
def smallest : ℚ :=
  1 / (4 * 2 ^ 1075)

theorem quarter_eq {up down base exponent : Nat} (h : up + base = exponent + down) :
    (2 : ℚ) ^ up / 2 ^ down / 4 = 2 ^ exponent * (1 / (4 * 2 ^ base)) := by
  have hpow : (2 : ℚ) ^ up * 2 ^ base = 2 ^ exponent * 2 ^ down := by
    rw [← pow_add, ← pow_add, h]
  rw [div_div, mul_one_div, div_eq_div_iff (by positivity) (by positivity)]
  linear_combination 4 * hpow

theorem quarter_ofFields (exponent fraction : Nat) :
    (ofFields exponent fraction).quarter = 2 ^ max exponent 1 * smallest := by
  rw [quarter, ofFields, smallest]
  split
  · exact quarter_eq (by dsimp only; omega)
  · exact quarter_eq (by dsimp only; omega)

variable {exponent exponent' fraction fraction' : Nat}

theorem mantissa_ofFields (exponent fraction : Nat) : (ofFields exponent fraction).mantissa
    = if exponent = 0 then fraction else Nat.pow 2 52 + fraction := by
  rw [ofFields]
  split <;> rfl

theorem mantissa_pos (h : ¬ (exponent = 0 ∧ fraction = 0)) :
    0 < (ofFields exponent fraction).mantissa := by
  rw [mantissa_ofFields]
  split
  · omega
  · exact Nat.add_pos_left (by decide) _

/-- The intervals of different mantissas, with the same last bit. -/
theorem upperQuarters_le {small large : Binary} (h : small.mantissa < large.mantissa) :
    small.upperQuarters ≤ large.lowerQuarters
      ∧ (small.mantissa % 2 = 1 ∨ large.mantissa % 2 = 1
        ∨ small.upperQuarters < large.lowerQuarters) := by
  rw [upperQuarters, lowerQuarters]
  split <;> omega

/-- The intervals of numbers with different last bits: that of the large one is twice that of the
small one, or more. -/
theorem upperQuarters_le_double (hfraction : fraction < Nat.pow 2 52) (hlarge : 1 < exponent') :
    let small := ofFields exponent fraction
    let large := ofFields exponent' fraction'
    small.upperQuarters ≤ 2 * large.lowerQuarters
      ∧ (small.mantissa % 2 = 1 ∨ small.upperQuarters < 2 * large.lowerQuarters) := by
  intro small large
  have hpow : Nat.pow 2 52 = 4503599627370496 := rfl
  have hsmall : small.mantissa < 9007199254740992 := by
    rw [mantissa_ofFields]
    split <;> omega
  have hmantissa : large.mantissa = Nat.pow 2 52 + fraction' := by
    rw [mantissa_ofFields, if_neg (by omega)]
  have hnarrow : fraction' = 0 → large.narrowBelow = true := by
    rintro rfl
    simpa [large, ofFields, show exponent' ≠ 0 by omega] using hlarge
  have hlower : 18014398509481983 ≤ large.lowerQuarters := by
    rw [lowerQuarters, hmantissa]
    split
    · omega
    · next hwide =>
        have hfraction := mt hnarrow hwide
        omega
  rw [upperQuarters]
  omega

/-- The interval of the smaller one of two numbers ends where that of the larger one starts, or
before; where it ends there, one of the two mantissas is odd. -/
theorem upper_le_lower (hfraction : fraction < Nat.pow 2 52)
    (hless : exponent < exponent' ∨ exponent = exponent' ∧ fraction < fraction') :
    let small := ofFields exponent fraction
    let large := ofFields exponent' fraction'
    small.upperQuarters * 2 ^ max exponent 1 ≤ large.lowerQuarters * 2 ^ max exponent' 1
      ∧ (small.mantissa % 2 = 1 ∨ large.mantissa % 2 = 1
        ∨ small.upperQuarters * 2 ^ max exponent 1
          < large.lowerQuarters * 2 ^ max exponent' 1) := by
  intro small large
  by_cases hsame : max exponent 1 = max exponent' 1
  · -- The last bits are the same.
    have hmantissa : small.mantissa < large.mantissa := by
      rw [mantissa_ofFields, mantissa_ofFields]
      split <;> split <;> omega
    obtain ⟨hle, hstrict⟩ := upperQuarters_le hmantissa
    rw [hsame]
    exact ⟨Nat.mul_le_mul_right _ hle, hstrict.imp_right (.imp_right fun hlt =>
      Nat.mul_lt_mul_of_pos_right hlt (Nat.two_pow_pos _))⟩
  · have hdouble : 2 * 2 ^ max exponent 1 ≤ 2 ^ max exponent' 1 := by
      rw [← Nat.pow_succ']
      exact Nat.pow_le_pow_right (by decide) (by omega)
    obtain ⟨hle, hstrict⟩ :=
      @upperQuarters_le_double exponent exponent' fraction fraction' hfraction (by omega)
    have hlarge : 2 * large.lowerQuarters * 2 ^ max exponent 1
        ≤ large.lowerQuarters * 2 ^ max exponent' 1 := by
      rw [Nat.mul_right_comm, Nat.mul_comm]
      exact Nat.mul_le_mul_left _ hdouble
    refine ⟨(Nat.mul_le_mul_right _ hle).trans hlarge, hstrict.imp_right fun hlt => .inr ?_⟩
    exact (Nat.mul_lt_mul_of_pos_right hlt (Nat.two_pow_pos _)).trans_le hlarge

/-- No number belongs to the intervals of two different fractions. -/
theorem interval_disjoint {number : ℚ} (hfraction : fraction < Nat.pow 2 52)
    (hless : exponent < exponent' ∨ exponent = exponent' ∧ fraction < fraction')
    (hsmall : (ofFields exponent fraction).Interval number) :
    ¬ (ofFields exponent' fraction').Interval number := by
  intro hlarge
  obtain ⟨hle, hstrict⟩ := upper_le_lower hfraction hless
  have hsmallest : (0 : ℚ) < smallest := by
    rw [smallest]
    positivity
  -- The end of the one and the start of the other, in the same unit.
  have hends := mul_le_mul_of_nonneg_right (@Nat.cast_le ℚ _ _ _ _ |>.mpr hle) hsmallest.le
  push_cast at hends
  obtain ⟨-, hsmall, hopen⟩ := hsmall
  obtain ⟨hlarge, -, hopen'⟩ := hlarge
  rw [quarter_ofFields] at hsmall hlarge hopen hopen'
  rcases hstrict with hodd | hodd | hlt
  · have hless := (hopen hodd).2
    linarith
  · have hless := (hopen' hodd).1
    linarith
  · have hapart := mul_lt_mul_of_pos_right (@Nat.cast_lt ℚ _ _ _ _ |>.mpr hlt) hsmallest
    push_cast at hapart
    linarith

end Binary

end StackLang.Numeral
