import Mathlib
import StackLang.Text.Quoted
import StackLang.Proofs.Token.Lexemes

/-! # Quoted texts are told apart

The written form of a character inside quotes tells where it ends and what it stands for: a
character that stands for itself, a letter behind a backslash, or a code point between braces. So
the written form of a text does too.

* `hexadecimal_inj` — a code point is told by its digits.
* `escape_cases`, `escape_append_inj` — the written forms of one character, and what they tell.
* `text_append_inj` — a text in quotes tells where it ends and what it stands for. -/

namespace StackLang.Text.Quoted

/-! ## Code points -/

/-- The number that a hexadecimal digit stands for. -/
def digitValue (digit : Char) : Nat :=
  if digit.isDigit then digit.toNat - 48 else digit.toNat - 87

theorem digitValue_digitChar : ∀ digit < 16, digitValue (Nat.digitChar digit) = digit := by
  decide

/-- The digits tell the code point. -/
theorem foldl_hexadecimal (code : Nat) :
    (hexadecimal code).foldl (fun value digit => 16 * value + digitValue digit) 0 = code := by
  induction code using Nat.strongRecOn with
  | ind code ih =>
      rw [hexadecimal, Nat.toDigits_eq_if (by decide)]
      split
      · next hlt =>
          rw [List.foldl_cons, List.foldl_nil, digitValue_digitChar code hlt, Nat.mul_zero,
            Nat.zero_add]
      · next hge =>
          -- The digits of the quotient, and the remainder as the last one.
          have hbefore := ih (code / 16) (by omega)
          rw [hexadecimal] at hbefore
          rw [List.foldl_append, hbefore, List.foldl_cons, List.foldl_nil,
            digitValue_digitChar _ (Nat.mod_lt _ (by decide)), Nat.div_add_mod]

theorem hexadecimal_inj {code code' : Nat} (h : hexadecimal code = hexadecimal code') :
    code = code' := by
  rw [← foldl_hexadecimal code, h, foldl_hexadecimal]

/-- No digit is a brace. -/
theorem ne_brace_of_mem_hexadecimal {code : Nat} {digit : Char} (h : digit ∈ hexadecimal code) :
    digit ≠ '\x7d' := by
  induction code using Nat.strongRecOn with
  | ind code ih =>
      have hdigit : ∀ value < 16, Nat.digitChar value ≠ '\x7d' := by decide
      rw [hexadecimal, Nat.toDigits_eq_if (by decide)] at h
      split at h
      · next hlt =>
          rw [List.mem_singleton] at h
          exact h ▸ hdigit code hlt
      · next hge =>
          rcases List.mem_append.mp h with hbefore | hlast
          · exact ih (code / 16) (by omega) hbefore
          · rw [List.mem_singleton] at hlast
            exact hlast ▸ hdigit _ (Nat.mod_lt _ (by decide))

/-! ## Characters -/

/-- The character that a letter behind a backslash stands for. -/
def unescaped : Char → Char
  | '0' => '\x00'
  | 't' => '\t'
  | 'r' => '\r'
  | 'n' => '\n'
  | other => other

/-- A character is written as itself, as a letter behind a backslash, or as a code point. -/
theorem escape_cases (character : Char) :
    (escape '"' character = [character] ∧ character ≠ '\\' ∧ character ≠ '"')
      ∨ (∃ letter, escape '"' character = ['\\', letter] ∧ letter ≠ 'u'
        ∧ unescaped letter = character)
      ∨ escape '"' character
        = ['\\', 'u', '\x7b'] ++ hexadecimal character.toNat ++ ['\x7d'] := by
  rw [escape.eq_def]
  split
  · exact .inr (.inl ⟨'0', rfl, by decide, rfl⟩)
  · exact .inr (.inl ⟨'t', rfl, by decide, rfl⟩)
  · exact .inr (.inl ⟨'r', rfl, by decide, rfl⟩)
  · exact .inr (.inl ⟨'n', rfl, by decide, rfl⟩)
  · exact .inr (.inl ⟨'\\', rfl, by decide, rfl⟩)
  · next hbackslash =>
      by_cases hquote : character = '"'
      · subst hquote
        exact .inr (.inl ⟨'"', rfl, by decide, rfl⟩)
      · rw [if_neg hquote]
        split
        · exact .inl ⟨rfl, hbackslash, hquote⟩
        · exact .inr (.inr rfl)

/-- The written form of a character does not start with the quote. -/
theorem exists_escape (character : Char) :
    ∃ first tail, escape '"' character = first :: tail ∧ first ≠ '"' := by
  rcases escape_cases character with ⟨hself, -, hquote⟩ | ⟨letter, hletter, -⟩ | hcode
  · exact ⟨_, _, hself, hquote⟩
  · exact ⟨_, _, hletter, by decide⟩
  · exact ⟨_, _, hcode, by decide⟩

/-- A written form tells where it ends and which character it stands for. -/
theorem escape_append_inj {character character' : Char} {rest rest' : List Char}
    (h : escape '"' character ++ rest = escape '"' character' ++ rest') :
    character = character' ∧ rest = rest' := by
  -- A backslash tells the first form from the others, and the letter behind it those two.
  rcases escape_cases character with
    ⟨hself, hbackslash, -⟩ | ⟨letter, hletter, hshort, hstands⟩ | hcode
    <;> rcases escape_cases character' with
      ⟨hself', hbackslash', -⟩ | ⟨letter', hletter', hshort', hstands'⟩ | hcode'
  · rw [hself, hself'] at h
    exact List.cons.inj h
  · rw [hself, hletter'] at h
    exact absurd (List.cons.inj h).1 hbackslash
  · rw [hself, hcode'] at h
    exact absurd (List.cons.inj h).1 hbackslash
  · rw [hletter, hself'] at h
    exact absurd (List.cons.inj h).1.symm hbackslash'
  · rw [hletter, hletter'] at h
    obtain ⟨hsame, hrest⟩ := List.cons.inj (List.cons.inj h).2
    exact ⟨by rw [← hstands, hsame, hstands'], hrest⟩
  · rw [hletter, hcode'] at h
    exact absurd (List.cons.inj (List.cons.inj h).2).1 hshort
  · rw [hcode, hself'] at h
    exact absurd (List.cons.inj h).1.symm hbackslash'
  · rw [hcode, hletter'] at h
    exact absurd (List.cons.inj (List.cons.inj h).2).1.symm hshort'
  · rw [hcode, hcode'] at h
    simp only [List.append_assoc, List.append_cancel_left_eq, List.singleton_append] at h
    -- The digits end where the brace is.
    have hdigits : ∀ code, ∀ digit ∈ hexadecimal code, (digit != '\x7d') = true :=
      fun code digit hmem => bne_iff_ne.mpr (ne_brace_of_mem_hexadecimal hmem)
    have hbrace : ∀ behind, Apart (· != '\x7d') ('\x7d' :: behind) := by
      intro behind first hfirst
      cases hfirst
      rfl
    obtain ⟨hcodes, hrest⟩ := append_inj_of_apart (hdigits _) (hbrace _) (hdigits _)
      (hbrace _) h
    exact ⟨Char.toNat_inj.mp (hexadecimal_inj hcodes), (List.cons.inj hrest).2⟩

/-! ## Texts -/

/-- Written forms up to a quote tell the characters that they stand for. -/
theorem flatMap_escape_inj {characters characters' rest rest' : List Char}
    (h : characters.flatMap (escape '"') ++ '"' :: rest
      = characters'.flatMap (escape '"') ++ '"' :: rest') :
    characters = characters' ∧ rest = rest' := by
  induction characters generalizing characters' with
  | nil =>
      cases characters' with
      | nil => exact ⟨rfl, (List.cons.inj h).2⟩
      | cons character' characters' =>
          obtain ⟨first, tail, hfirst, hquote⟩ := exists_escape character'
          rw [List.flatMap_cons, hfirst] at h
          exact absurd (List.cons.inj h).1.symm hquote
  | cons character characters ih =>
      cases characters' with
      | nil =>
          obtain ⟨first, tail, hfirst, hquote⟩ := exists_escape character
          rw [List.flatMap_cons, hfirst] at h
          exact absurd (List.cons.inj h).1 hquote
      | cons character' characters' =>
          rw [List.flatMap_cons, List.flatMap_cons, List.append_assoc, List.append_assoc] at h
          obtain ⟨rfl, hbehind⟩ := escape_append_inj h
          obtain ⟨rfl, hrest⟩ := ih hbehind
          exact ⟨rfl, hrest⟩

/-- A text in quotes tells where it ends and what it stands for. -/
theorem text_append_inj {contents contents' rest rest' : List Char}
    (h : text contents ++ rest = text contents' ++ rest') :
    contents = contents' ∧ rest = rest' := by
  simp only [text, between, List.cons_append, List.append_assoc, List.cons.injEq, true_and,
    List.nil_append] at h
  exact flatMap_escape_inj h

end StackLang.Text.Quoted
