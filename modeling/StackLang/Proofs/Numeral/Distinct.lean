import Mathlib
import StackLang.Numeral.Written
import StackLang.Proofs.Numeral.Intervals
import StackLang.Proofs.Token.Lexemes

/-! # Numbers are told apart by their texts

The positional text of a decimal tells its value, and the value lies in the interval of one number
only. So two finite numbers with one text are the same number, its sign included.

* `Decimal.value_eq`, `Decimal.value_of_written` — the value of a decimal, from its text.
* `Decimal.written_chars` — what such a text consists of.
* `written_inj` — finite numbers with one text are the same.
* `exists_written`, `written_append_inj` — how such a text starts, and that it tells where it
  ends. -/

namespace StackLang.Numeral

namespace Decimal

/-! ## Decimals -/

/-- Digits without the zeros at their end, and those zeros. -/
theorem exists_zeros (digits : List Char) :
    ∃ zeros, digits
      = (digits.reverse.dropWhile (· == '0')).reverse ++ List.replicate zeros '0' := by
  refine ⟨(digits.reverse.takeWhile (· == '0')).reverse.length, ?_⟩
  have hzeros : (digits.reverse.takeWhile (· == '0')).reverse
      = List.replicate (digits.reverse.takeWhile (· == '0')).reverse.length '0' := by
    refine List.eq_replicate_of_mem fun character hmem => ?_
    simpa using List.mem_takeWhile_imp (List.mem_reverse.mp hmem)
  rw [← hzeros, ← List.reverse_append, List.takeWhile_append_dropWhile, List.reverse_reverse]

/-- Zeros before a number do not change it, and make its text as long as need be. -/
theorem padded_eq {number places : Nat} (hlt : number < 10 ^ places) (hpos : 0 < number) :
    let padded := List.replicate (places - (Nat.toDigits 10 number).length) '0'
      ++ Nat.toDigits 10 number
    padded.length = places ∧ Nat.ofDigitChars 10 padded 0 = number := by
  have hplaces : 0 < places := by
    rcases Nat.eq_zero_or_pos places with rfl | h
    · omega
    · exact h
  have hlength := (Nat.length_toDigits_le_iff (by decide) hplaces).mpr hlt
  refine ⟨?_, ?_⟩
  · rw [List.length_append, List.length_replicate, Nat.sub_add_cancel hlength]
  · rw [Nat.ofDigitChars_append, Nat.ofDigitChars_replicate_zero, Nat.mul_zero,
      Nat.ofDigitChars_toDigits (by decide) (by decide)]

/-- The digits after the point tell the fraction. -/
theorem fraction_eq (decimal : Decimal) :
    decimal.digits % 10 ^ decimal.places * 10 ^ decimal.fractionDigits.length
      = Nat.ofDigitChars 10 decimal.fractionDigits 0 * 10 ^ decimal.places := by
  have hlt : decimal.digits % 10 ^ decimal.places < 10 ^ decimal.places :=
    Nat.mod_lt _ (Nat.pow_pos (by decide))
  rw [fractionDigits]
  simp only [Nat.pow_eq]
  generalize decimal.digits % 10 ^ decimal.places = fraction at hlt
  rcases Nat.eq_zero_or_pos fraction with rfl | hpos
  · simp
  · obtain ⟨hlength, hvalue⟩ := padded_eq hlt hpos
    rw [if_neg (by omega)]
    obtain ⟨zeros, hzeros⟩ := exists_zeros
      (List.replicate (decimal.places - (Nat.toDigits 10 fraction).length) '0'
        ++ Nat.toDigits 10 fraction)
    generalize List.reverse _ = stripped at hzeros ⊢
    rw [hzeros] at hlength hvalue
    rw [List.length_append, List.length_replicate] at hlength
    rw [Nat.ofDigitChars_append, Nat.ofDigitChars_replicate_zero] at hvalue
    rw [← hvalue, ← hlength, pow_add]
    ring

/-- A decimal is its whole part and the fraction that its digits tell. -/
theorem value_eq (decimal : Decimal) :
    decimal.value = (decimal.digits / 10 ^ decimal.places : Nat)
      + (Nat.ofDigitChars 10 decimal.fractionDigits 0 : ℚ)
        / 10 ^ decimal.fractionDigits.length := by
  have hfraction : (decimal.digits % 10 ^ decimal.places : Nat) / (10 : ℚ) ^ decimal.places
      = (Nat.ofDigitChars 10 decimal.fractionDigits 0 : ℚ)
        / 10 ^ decimal.fractionDigits.length := by
    rw [div_eq_div_iff (by positivity) (by positivity)]
    exact_mod_cast decimal.fraction_eq
  have hwhole : ((decimal.digits / 10 ^ decimal.places : Nat) : ℚ) * 10 ^ decimal.places
      + (decimal.digits % 10 ^ decimal.places : Nat) = decimal.digits := by
    exact_mod_cast Nat.div_add_mod' decimal.digits (10 ^ decimal.places)
  rw [← hfraction, value, ← hwhole, add_div, mul_div_cancel_right₀ _ (by positivity)]

theorem isDigit_fractionDigits {decimal : Decimal} {character : Char}
    (h : character ∈ decimal.fractionDigits) : character.isDigit = true := by
  simp only [fractionDigits] at h
  split at h
  · cases h
  · have hpadded := (List.dropWhile_sublist _).subset (List.mem_reverse.mp h)
    rcases List.mem_append.mp (List.mem_reverse.mp hpadded) with hzero | hdigit
    · rw [(List.mem_replicate.mp hzero).2]
      rfl
    · exact Nat.isDigit_of_mem_toDigits (by decide) (by decide) hdigit

/-- The text is the whole part, and the point with the fraction behind it if there is one. -/
theorem exists_fraction (decimal : Decimal) :
    ∃ behind, decimal.written = Nat.toDigits 10 (decimal.digits / 10 ^ decimal.places) ++ behind
      ∧ (behind = [] ∨ ∃ digits, behind = '.' :: digits)
      ∧ behind.tail = decimal.fractionDigits := by
  simp only [written, Nat.pow_eq]
  cases decimal.fractionDigits with
  | nil => exact ⟨[], (List.append_nil _).symm, .inl rfl, rfl⟩
  | cons first digits => exact ⟨'.' :: first :: digits, rfl, .inr ⟨_, rfl⟩, rfl⟩

/-- The text tells the value. -/
theorem value_of_written {first second : Decimal} (h : first.written = second.written) :
    first.value = second.value := by
  have hdigits : ∀ number, ∀ character ∈ Nat.toDigits 10 number, character.isDigit = true :=
    fun number character hmem => Nat.isDigit_of_mem_toDigits (by decide) (by decide) hmem
  have hapart : ∀ behind : List Char, (behind = [] ∨ ∃ digits, behind = '.' :: digits) →
      Apart Char.isDigit behind := by
    rintro _ (rfl | ⟨digits, rfl⟩) character hhead
    · cases hhead
    · cases hhead
      rfl
  obtain ⟨behind, htext, hbehind, hfraction⟩ := first.exists_fraction
  obtain ⟨behind', htext', hbehind', hfraction'⟩ := second.exists_fraction
  obtain ⟨hwhole, hrest⟩ := append_inj_of_apart (hdigits _) (hapart _ hbehind) (hdigits _)
    (hapart _ hbehind') (htext.symm.trans (h.trans htext'))
  have hnumber := congrArg (Nat.ofDigitChars 10 · 0) hwhole
  simp only [Nat.ofDigitChars_toDigits (show 1 < 10 by decide) (Nat.le_refl 10)] at hnumber
  rw [value_eq, value_eq, ← hfraction, ← hfraction', hnumber, hrest]

/-- The text starts with a digit, and has digits and a point only. -/
theorem written_chars (decimal : Decimal) :
    (∃ first tail, decimal.written = first :: tail ∧ first.isDigit = true)
      ∧ ∀ character ∈ decimal.written, character.isDigit = true ∨ character = '.' := by
  obtain ⟨behind, htext, hbehind, hfraction⟩ := decimal.exists_fraction
  have hdigits : ∀ character ∈ Nat.toDigits 10 (decimal.digits / 10 ^ decimal.places),
      character.isDigit = true := fun character hmem =>
    Nat.isDigit_of_mem_toDigits (by decide) (by decide) hmem
  constructor
  · cases hwhole : Nat.toDigits 10 (decimal.digits / 10 ^ decimal.places) with
    | nil => exact absurd hwhole Nat.toDigits_ne_nil
    | cons first tail =>
        rw [hwhole] at htext hdigits
        exact ⟨first, tail ++ behind, htext, hdigits first List.mem_cons_self⟩
  · intro character hmem
    rw [htext] at hmem
    rcases List.mem_append.mp hmem with hwhole | hrest
    · exact .inl (hdigits character hwhole)
    · rcases hbehind with rfl | ⟨digits, rfl⟩
      · cases hrest
      · rcases List.mem_cons.mp hrest with rfl | hdigit
        · exact .inr rfl
        · rw [List.tail_cons] at hfraction
          rw [hfraction] at hdigit
          exact .inl (isDigit_fractionDigits hdigit)

end Decimal

/-! ## Numbers -/

/-- A number is finite if its exponent field is not all ones. -/
def IsFinite (number : Float) : Prop :=
  exponentField number ≠ 2047

/-- The decimal that is written for a number without its sign. -/
def decimalOf (number : Float) : Decimal :=
  if exponentField number = 0 ∧ fractionField number = 0 then ⟨0, 0⟩
  else (Binary.ofFields (exponentField number) (fractionField number)).shortest

variable {number other : Float}

theorem magnitudeWritten_eq (h : IsFinite number) :
    magnitudeWritten number = (decimalOf number).written := by
  rw [magnitudeWritten, if_neg h, decimalOf]
  split
  · rfl
  · rfl

theorem written_eq (h : IsFinite number) :
    written number
      = if isNegative number then '-' :: (decimalOf number).written
        else (decimalOf number).written := by
  rw [written, if_neg fun hnan => h hnan.1, magnitudeWritten_eq h]

/-- The decimal of a number other than zero lies in its interval. -/
theorem interval_decimalOf (h : ¬ (exponentField number = 0 ∧ fractionField number = 0)) :
    (Binary.ofFields (exponentField number) (fractionField number)).Interval
      (decimalOf number).value := by
  rw [decimalOf, if_neg h]
  exact Binary.interval_shortest (Binary.mantissa_pos h)

/-- Only zero is written as zero. -/
theorem value_decimalOf_eq_zero_iff :
    (decimalOf number).value = 0 ↔ exponentField number = 0 ∧ fractionField number = 0 := by
  constructor
  · intro hzero
    by_contra h
    exact ((interval_decimalOf h).pos (Binary.mantissa_pos h)).ne' hzero
  · intro h
    rw [decimalOf, if_pos h, Decimal.value]
    simp

/-- The decimal tells both fields. -/
theorem fields_eq (h : (decimalOf number).value = (decimalOf other).value) :
    exponentField number = exponentField other ∧ fractionField number = fractionField other := by
  have hfraction : ∀ number, fractionField number < Nat.pow 2 52 := fun number =>
    Nat.mod_lt _ (by decide)
  by_cases hzero : exponentField number = 0 ∧ fractionField number = 0
  · have hother := value_decimalOf_eq_zero_iff.mp (h ▸ value_decimalOf_eq_zero_iff.mpr hzero)
    exact ⟨hzero.1.trans hother.1.symm, hzero.2.trans hother.2.symm⟩
  · have hother : ¬ (exponentField other = 0 ∧ fractionField other = 0) := fun hother =>
      hzero (value_decimalOf_eq_zero_iff.mp (h ▸ value_decimalOf_eq_zero_iff.mpr hother))
    have hinterval := interval_decimalOf hzero
    have hinterval' := interval_decimalOf hother
    rw [← h] at hinterval'
    -- One of the two would be the smaller one, and the intervals would be disjoint.
    by_contra hne
    rcases Nat.lt_trichotomy (exponentField number) (exponentField other) with hlt | heq | hlt
    · exact Binary.interval_disjoint (hfraction _) (.inl hlt) hinterval hinterval'
    · rcases Nat.lt_trichotomy (fractionField number) (fractionField other) with
        hless | hsame | hless
      · exact Binary.interval_disjoint (hfraction _) (.inr ⟨heq, hless⟩) hinterval hinterval'
      · exact hne ⟨heq, hsame⟩
      · exact Binary.interval_disjoint (hfraction _) (.inr ⟨heq.symm, hless⟩) hinterval' hinterval
    · exact Binary.interval_disjoint (hfraction _) (.inl hlt) hinterval' hinterval

/-- The two fields and the sign make up the number. -/
theorem eq_of_fields (hsign : isNegative number = isNegative other)
    (hexponent : exponentField number = exponentField other)
    (hfraction : fractionField number = fractionField other) : number = other := by
  rw [← Float.toBits_inj, ← UInt64.toNat_inj]
  have hlt := number.toBits.toNat_lt
  have hlt' := other.toBits.toNat_lt
  rw [isNegative, isNegative] at hsign
  rw [exponentField, exponentField] at hexponent
  rw [fractionField, fractionField] at hfraction
  simp only [Nat.pow_eq] at *
  rw [Bool.eq_iff_iff, beq_iff_eq, beq_iff_eq] at hsign
  omega

/-- The text of a finite number starts with a digit, or with a sign and a digit. -/
theorem exists_written (h : IsFinite number) :
    ∃ first tail, first.isDigit = true
      ∧ written number = if isNegative number then '-' :: first :: tail else first :: tail := by
  obtain ⟨first, tail, htext, hdigit⟩ := (decimalOf number).written_chars.1
  exact ⟨first, tail, hdigit, by rw [written_eq h, htext]⟩

/-- Finite numbers with one text are the same. -/
theorem written_inj (h : IsFinite number) (h' : IsFinite other)
    (hsame : written number = written other) : number = other := by
  have hdigit : ∀ digit : Char, digit.isDigit = true → '-' ≠ digit := by
    rintro _ hdigit rfl
    cases hdigit
  -- Only a negative number starts with the sign, as all others start with a digit.
  have hsign : isNegative number = isNegative other := by
    obtain ⟨first, tail, hfirst, htext⟩ := exists_written h
    obtain ⟨first', tail', hfirst', htext'⟩ := exists_written h'
    rw [htext, htext'] at hsame
    cases hnumber : isNegative number <;> cases hother : isNegative other
    · rfl
    · rw [hnumber, hother] at hsame
      exact absurd (List.cons.inj hsame).1.symm (hdigit _ hfirst)
    · rw [hnumber, hother] at hsame
      exact absurd (List.cons.inj hsame).1 (hdigit _ hfirst')
    · rfl
  have hdecimal : (decimalOf number).written = (decimalOf other).written := by
    rw [written_eq h, written_eq h', hsign] at hsame
    split at hsame
    · exact (List.cons.inj hsame).2
    · exact hsame
  obtain ⟨hexponent, hfraction⟩ := fields_eq (Decimal.value_of_written hdecimal)
  exact eq_of_fields hsign hexponent hfraction

/-- What the text of a finite number consists of. -/
def isWrittenPart (character : Char) : Bool :=
  character.isDigit || character == '.' || character == '-'

theorem isWrittenPart_of_mem (h : IsFinite number) {character : Char}
    (hmem : character ∈ written number) : isWrittenPart character = true := by
  have hdecimal : ∀ character ∈ (decimalOf number).written, isWrittenPart character = true := by
    intro character hmem
    rcases (decimalOf number).written_chars.2 character hmem with hdigit | rfl
    · rw [isWrittenPart, hdigit]
      rfl
    · rfl
  rw [written_eq h] at hmem
  split at hmem
  · rcases List.mem_cons.mp hmem with rfl | hlater
    · rfl
    · exact hdecimal character hlater
  · exact hdecimal character hmem

/-- The text of a number tells the number, before any text that does not go on with it. -/
theorem written_append_inj (h : IsFinite number) (h' : IsFinite other) {rest rest' : List Char}
    (hrest : Apart isWrittenPart rest) (hrest' : Apart isWrittenPart rest')
    (hsame : written number ++ rest = written other ++ rest') : number = other ∧ rest = rest' := by
  obtain ⟨htexts, hbehind⟩ := append_inj_of_apart (fun _ => isWrittenPart_of_mem h) hrest
    (fun _ => isWrittenPart_of_mem h') hrest' hsame
  exact ⟨written_inj h h' htexts, hbehind⟩

end StackLang.Numeral
