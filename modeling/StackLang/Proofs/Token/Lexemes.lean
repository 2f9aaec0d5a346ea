import Mathlib
import StackLang.Token.Cursor

/-! # Lexemes and what they read as

The lexemes of the language, told apart from the text in which they stand: signs, reserved words,
names, numbers, quoted texts, and what is none of these. What is cut off a text is such a lexeme,
and such a lexeme is what is cut off where it stands. So a lexeme settles what its item reads as.

* `IsLexeme` — what the lexemes are, and what each of them reads as.
* `isLexeme_ofText` — what is cut off is a lexeme.
* `IsLexeme.ofText_eq` — a lexeme is what is cut off.
* `IsLexeme.content_eq` — a lexeme settles what its item reads as, wherever it stands.
* `Parted` — texts that do not go on with a word or a number.
* `IsLexeme.extend`, `ofText_replace`, `ofText_extend` — a lexeme is one before any text that does
  not go on with it. -/

namespace StackLang.Grammar

/-! ## Texts that part lexemes -/

/-- The text does not go on with a word or a number: it is empty or starts with another
character. -/
def Parted (text : List Char) : Prop :=
  ∀ character ∈ text.head?, Lexeme.isNumberPart character = false

theorem parted_nil : Parted [] := by
  intro character hhead
  cases hhead

theorem parted_cons {character : Char} (text : List Char)
    (h : Lexeme.isNumberPart character = false) : Parted (character :: text) := by
  intro first hhead
  cases hhead
  exact h

/-- The code points of some ranges, one by one. -/
def codes (ranges : Text.Ranges) : List Nat :=
  ranges.flatMap fun range => List.range' range.1 (range.2 - range.1 + 1)

theorem toNat_mem_codes {ranges : Text.Ranges} {character : Char}
    (h : ranges.contains character = true) : character.toNat ∈ codes ranges := by
  obtain ⟨range, hmem, hinside⟩ := List.any_eq_true.mp h
  simp only [Bool.and_eq_true, decide_eq_true_eq] at hinside
  refine List.mem_flatMap.mpr ⟨range, hmem, List.mem_range'_1.mpr ⟨hinside.1, ?_⟩⟩
  omega

/-- White space stands inside no number, and inside no word. -/
theorem isNumberPart_of_isBlank {character : Char} (h : Text.isBlank character = true) :
    Lexeme.isNumberPart character = false := by
  -- There are 25 such characters.
  have hall : ∀ code ∈ codes Text.blankRanges, Lexeme.isNumberPart (Char.ofNat code) = false := by
    decide +kernel
  have hcharacter := hall character.toNat (toNat_mem_codes h)
  rwa [Char.ofNat_toNat] at hcharacter

theorem parted_newline (text : List Char) : Parted ('\n' :: text) :=
  parted_cons text (by decide)

/-- A character of no number is one of no word. -/
theorem isWordPart_of_isNumberPart {character : Char}
    (h : Lexeme.isNumberPart character = false) : Text.isWordPart character = false := by
  rw [Lexeme.isNumberPart, Bool.or_eq_false_iff] at h
  exact h.1

/-- A lexeme with more text behind what is behind it. -/
def withBehind (lexeme : Lexeme) (behind : List Char) : Lexeme :=
  { lexeme with rest := lexeme.rest ++ behind }

end StackLang.Grammar

namespace StackLang

open Grammar

/-! ## Starts of lexemes -/

/-- A token is read from a single sign if it is a delimiter or an operator with this sign. -/
theorem eq_sign_of_ofSign? {first : Char} {kind : TokenKind}
    (h : TokenKind.ofSign? first = some kind) :
    (∃ separator : Delimiter, first = separator.sign ∧ kind = .delimiter separator)
      ∨ ∃ infixSign : Operator, first = infixSign.sign ∧ kind = .operator infixSign := by
  unfold TokenKind.ofSign? at h
  split at h
  all_goals cases h
  all_goals first | exact .inl ⟨_, rfl, rfl⟩ | exact .inr ⟨_, rfl, rfl⟩

/-- No sign is part of a word. -/
theorem ofSign?_of_isWordPart {first : Char} (h : Text.isWordPart first = true) :
    TokenKind.ofSign? first = none := by
  refine Option.eq_none_iff_forall_not_mem.mpr fun kind hsign => ?_
  rcases eq_sign_of_ofSign? hsign with ⟨separator, rfl, -⟩ | ⟨infixSign, rfl, -⟩
  · cases separator <;> exact absurd h (by decide)
  · cases infixSign <;> exact absurd h (by decide)

/-- No white space is part of a word. -/
theorem isBlank_of_isWordPart {first : Char} (h : Text.isWordPart first = true) :
    Text.isBlank first = false := by
  refine Bool.eq_false_iff.mpr fun hblank => ?_
  rw [isWordPart_of_isNumberPart (isNumberPart_of_isBlank hblank)] at h
  cases h

/-- A character that starts a number is no letter with another case. -/
theorem toLower_of_isNumeric {first : Char} (h : Text.isNumeric first = true) :
    first.toLower = first := by
  rw [Char.toLower]
  split
  · next hupper =>
      have hbounds : 65 ≤ first.toNat ∧ first.toNat ≤ 90 := hupper
      rw [Text.isNumeric, if_pos (by omega)] at h
      simp [Char.isDigit, UInt32.le_iff_toNat_le] at h
      omega
  · rfl

/-- What starts like a number is none of the words that are numbers. -/
theorem isWord_of_isNumeric {first : Char} (h : Text.isNumeric first = true) (tail : List Char)
    {words : List String}
    (hwords : ∀ word ∈ words, ∃ letter ∈ word.toList.head?, Text.isNumeric letter = false) :
    Numeral.isWord (first :: tail) words = false := by
  refine List.any_eq_false.mpr fun word hmem hsame => ?_
  obtain ⟨letter, hletter, hnot⟩ := hwords word hmem
  rw [List.map_cons, toLower_of_isNumeric h, beq_iff_eq] at hsame
  rw [← hsame] at hletter
  cases hletter
  rw [h] at hnot
  cases hnot

/-- What starts like a number is read by its digits: there is no sign before them. -/
theorem read?_of_isNumeric {first : Char} (h : Text.isNumeric first = true) (tail : List Char) :
    Numeral.read? (first :: tail)
      = (Numeral.Scientific.ofText? (first :: tail)).map Numeral.Scientific.toFloat := by
  have hinfinity : Numeral.isWord (first :: tail) ["inf", "infinity"] = false :=
    isWord_of_isNumeric h tail (by simp; decide)
  have hnone : Numeral.isWord (first :: tail) ["nan"] = false :=
    isWord_of_isNumeric h tail (by simp; decide)
  have hunsigned : Numeral.readUnsigned? (first :: tail)
      = (Numeral.Scientific.ofText? (first :: tail)).map Numeral.Scientific.toFloat := by
    rw [Numeral.readUnsigned?, hinfinity, hnone]
    rfl
  rw [Numeral.read?.eq_def]
  split
  · next hsign =>
      cases hsign
      exact absurd h (by decide)
  · next hsign =>
      cases hsign
      exact absurd h (by decide)
  · exact hunsigned

/-! ## Lexemes -/

/-- The text does not start with a character of the class. -/
def Apart (p : Char → Bool) (text : List Char) : Prop :=
  ∀ character ∈ text.head?, p character = false

/-- The characters are a lexeme before some text, and read as the content. -/
inductive IsLexeme : List Char → List Char → Except LexicalFault TokenKind → Prop
  /-- A newline that is a terminator. -/
  | newline (behind : List Char) : IsLexeme ['\n'] behind (.ok (.delimiter .terminator))
  /-- A sign that groups or separates. -/
  | delimiter (separator : Delimiter) (behind : List Char) :
      IsLexeme [separator.sign] behind (.ok (.delimiter separator))
  /-- A sign between operands. -/
  | operator (infixSign : Operator) (behind : List Char) :
      IsLexeme [infixSign.sign] behind (.ok (.operator infixSign))
  /-- A reserved word, as long as it can be. -/
  | keyword (reserved : Keyword) {behind : List Char} (hbehind : Apart Text.isWordPart behind) :
      IsLexeme reserved.word.toList behind (.ok (.keyword reserved))
  /-- Any other word that does not start like a number, as long as it can be. -/
  | identifier {first : Char} {tail behind : List Char}
      (hword : ∀ character ∈ first :: tail, Text.isWordPart character = true)
      (hfirst : Text.isNumeric first = false)
      (hnone : ∀ reserved : Keyword, first :: tail ≠ reserved.word.toList)
      (hbehind : Apart Text.isWordPart behind) :
      IsLexeme (first :: tail) behind (.ok (.identifier (String.ofList (first :: tail))))
  /-- A number, as long as it can be. -/
  | number {first : Char} {tail behind : List Char} {value : Float}
      (hfirst : Text.isNumeric first = true)
      (htail : ∀ character ∈ tail, Lexeme.isNumberPart character = true)
      (hread : Numeral.read? (first :: tail) = some value)
      (hbehind : Apart Lexeme.isNumberPart behind) :
      IsLexeme (first :: tail) behind (.ok (.number value))
  /-- What starts like a number and is none. -/
  | invalidNumber {first : Char} {tail behind : List Char}
      (hfirst : Text.isNumeric first = true)
      (htail : ∀ character ∈ tail, Lexeme.isNumberPart character = true)
      (hread : Numeral.read? (first :: tail) = none)
      (hbehind : Apart Lexeme.isNumberPart behind) :
      IsLexeme (first :: tail) behind (.error (.invalidNumber (first :: tail)))
  /-- What stands between two double quotes. -/
  | text {contents : List Char} (hquote : '"' ∉ contents) (behind : List Char) :
      IsLexeme ('"' :: (contents ++ ['"'])) behind (.ok (.text contents))
  /-- What stands behind a double quote that none follows. -/
  | unterminated {contents : List Char} (hquote : '"' ∉ contents) :
      IsLexeme ('"' :: contents) [] (.error .unterminatedText)
  /-- Any other character. -/
  | unexpected {character : Char} (behind : List Char) (hblank : Text.isBlank character = false)
      (hsign : TokenKind.ofSign? character = none) (hquote : character ≠ '"')
      (hword : Text.isWordPart character = false) :
      IsLexeme [character] behind (.error (.unexpectedCharacter character))

/-- The characters up to one of another class, and the text from there on. -/
theorem apart_dropWhile (p : Char → Bool) (text : List Char) :
    (∀ character ∈ text.takeWhile p, p character = true) ∧ Apart p (text.dropWhile p) := by
  constructor
  · intro character hmem
    exact List.mem_takeWhile_imp hmem
  · intro character hhead
    have hnot := List.head?_dropWhile_not p text
    rw [Option.mem_def.mp hhead] at hnot
    simpa using hnot

/-- A word before a text that does not go on with it is read as far as it goes. -/
theorem takeWhile_apart {p : Char → Bool} {word behind : List Char}
    (hword : ∀ character ∈ word, p character = true) (hbehind : Apart p behind) :
    (word ++ behind).takeWhile p = word ∧ (word ++ behind).dropWhile p = behind := by
  rw [List.takeWhile_append_of_pos hword, List.dropWhile_append_of_pos hword]
  cases behind with
  | nil => exact ⟨List.append_nil word, rfl⟩
  | cons first behind => simp [hbehind first rfl]

/-- Two words before texts that do not go on with them are told apart. -/
theorem append_inj_of_apart {p : Char → Bool} {word word' behind behind' : List Char}
    (hword : ∀ character ∈ word, p character = true) (hbehind : Apart p behind)
    (hword' : ∀ character ∈ word', p character = true) (hbehind' : Apart p behind')
    (h : word ++ behind = word' ++ behind') : word = word' ∧ behind = behind' := by
  obtain ⟨htake, hdrop⟩ := takeWhile_apart hword hbehind
  obtain ⟨htake', hdrop'⟩ := takeWhile_apart hword' hbehind'
  rw [h] at htake hdrop
  exact ⟨htake.symm.trans htake', hdrop.symm.trans hdrop'⟩

/-- What starts like a number is a number if it is read as one. -/
theorem isLexeme_number {first : Char} {tail behind : List Char}
    (hfirst : Text.isNumeric first = true)
    (htail : ∀ character ∈ tail, Lexeme.isNumberPart character = true)
    (hbehind : Apart Lexeme.isNumberPart behind) :
    IsLexeme (first :: tail) behind (Lexeme.numberContent (first :: tail)) := by
  have hread := read?_of_isNumeric hfirst tail
  rw [Lexeme.numberContent]
  split
  · next decimal hdecimal =>
      rw [hdecimal] at hread
      exact .number hfirst htail hread hbehind
  · next hdecimal =>
      rw [hdecimal] at hread
      exact .invalidNumber hfirst htail hread hbehind

/-- A word is a reserved one if it is spelled so. -/
theorem isLexeme_word {first : Char} {tail behind : List Char}
    (hword : ∀ character ∈ first :: tail, Text.isWordPart character = true)
    (hfirst : Text.isNumeric first = false) (hbehind : Apart Text.isWordPart behind) :
    IsLexeme (first :: tail) behind (.ok (.ofWord (first :: tail))) := by
  rw [TokenKind.ofWord]
  split
  · next reserved hreserved =>
      have hspelling := congrArg String.toList (Keyword.word_of_ofWord? hreserved)
      rw [String.toList_ofList] at hspelling
      rw [← hspelling]
      exact .keyword reserved hbehind
  · next hnone =>
      refine .identifier hword hfirst ?_ hbehind
      intro reserved hsame
      rw [hsame, String.ofList_toList, Keyword.ofWord?_word] at hnone
      cases hnone

/-- A quoted text goes to the next double quote. -/
theorem isLexeme_quoted (text : List Char) :
    IsLexeme ('"' :: (Lexeme.quoted text).tail) (Lexeme.quoted text).rest
      (Lexeme.quoted text).content := by
  obtain ⟨htake, hdrop⟩ := apart_dropWhile (· != '"') text
  have hquote : '"' ∉ text.takeWhile (· != '"') := fun hmem => by simpa using htake _ hmem
  unfold Lexeme.quoted
  cases hrest : text.dropWhile (· != '"') with
  | nil => exact .unterminated hquote
  | cons quote rest =>
      rw [hrest] at hdrop
      obtain rfl : quote = '"' := by simpa using hdrop quote rfl
      exact .text hquote rest

/-- What is read at the start of a text is a lexeme. -/
theorem isLexeme_ofText {first : Char} (text : List Char) (hblank : Text.isBlank first = false) :
    IsLexeme (first :: (Lexeme.ofText first text).tail) (Lexeme.ofText first text).rest
      (Lexeme.ofText first text).content := by
  unfold Lexeme.ofText
  split
  · next kind hsign =>
      rcases eq_sign_of_ofSign? hsign with ⟨separator, rfl, rfl⟩ | ⟨infixSign, rfl, rfl⟩
      · exact .delimiter separator text
      · exact .operator infixSign text
  · next hsign =>
      -- A case for each class of the first character.
      by_cases hquote : first = '"'
      · subst hquote
        exact isLexeme_quoted text
      · rw [if_neg hquote]
        by_cases hnumeric : Text.isNumeric first = true
        · obtain ⟨htail, hbehind⟩ := apart_dropWhile Lexeme.isNumberPart text
          rw [if_pos hnumeric]
          exact isLexeme_number hnumeric htail hbehind
        · rw [if_neg hnumeric]
          rw [Bool.not_eq_true] at hnumeric
          by_cases hword : Text.isWordPart first = true
          · obtain ⟨htail, hbehind⟩ := apart_dropWhile Text.isWordPart text
            rw [if_pos hword]
            exact isLexeme_word (List.forall_mem_cons.mpr ⟨hword, htail⟩) hnumeric hbehind
          · rw [if_neg hword]
            rw [Bool.not_eq_true] at hword
            exact .unexpected text hblank hsign hquote hword

/-! ## A lexeme settles its content -/

/-- A reserved word consists of letters. -/
theorem letters_word (reserved : Keyword) :
    reserved.word.toList ≠ [] ∧ ∀ character ∈ reserved.word.toList,
      Text.isWordPart character = true ∧ Text.isNumeric character = false := by
  cases reserved <;> simp [Keyword.word] <;> decide

/-- A word that does not start like a number is read as far as it goes. -/
theorem ofText_word {first : Char} {tail behind : List Char}
    (hword : ∀ character ∈ first :: tail, Text.isWordPart character = true)
    (hfirst : Text.isNumeric first = false) (hbehind : Apart Text.isWordPart behind) :
    Text.isBlank first = false
      ∧ Lexeme.ofText first (tail ++ behind) = ⟨.ok (.ofWord (first :: tail)), tail, behind⟩ := by
  obtain ⟨hpart, htail⟩ := List.forall_mem_cons.mp hword
  obtain ⟨htake, hdrop⟩ := takeWhile_apart htail hbehind
  refine ⟨isBlank_of_isWordPart hpart, ?_⟩
  have hquote : first ≠ '"' := by
    rintro rfl
    exact absurd hpart (by decide)
  rw [Lexeme.ofText, ofSign?_of_isWordPart hpart]
  dsimp only
  rw [if_neg hquote, hfirst, if_neg Bool.false_ne_true, if_pos hpart, htake, hdrop]

/-- What starts like a number is read as far as it goes. -/
theorem ofText_number {first : Char} {tail behind : List Char}
    (hfirst : Text.isNumeric first = true)
    (htail : ∀ character ∈ tail, Lexeme.isNumberPart character = true)
    (hbehind : Apart Lexeme.isNumberPart behind) :
    Text.isBlank first = false
      ∧ Lexeme.ofText first (tail ++ behind)
        = ⟨Lexeme.numberContent (first :: tail), tail, behind⟩ := by
  have hpart := Text.isWordPart_of_isNumeric hfirst
  obtain ⟨htake, hdrop⟩ := takeWhile_apart htail hbehind
  refine ⟨isBlank_of_isWordPart hpart, ?_⟩
  have hquote : first ≠ '"' := by
    rintro rfl
    exact absurd hpart (by decide)
  rw [Lexeme.ofText, ofSign?_of_isWordPart hpart]
  dsimp only
  rw [if_neg hquote, if_pos hfirst, htake, hdrop]

/-- What starts like a number has the content by which it is read. -/
theorem numberContent_of_read? {first : Char} (hfirst : Text.isNumeric first = true)
    (tail : List Char) :
    Lexeme.numberContent (first :: tail)
      = ((Numeral.read? (first :: tail)).map fun value => .ok (.number value)).getD
        (.error (.invalidNumber (first :: tail))) := by
  rw [read?_of_isNumeric hfirst, Lexeme.numberContent]
  cases Numeral.Scientific.ofText? (first :: tail) <;> rfl

/-- A text without double quotes is read up to the quote behind it. -/
theorem quoted_of_not_mem {contents : List Char} (hquote : '"' ∉ contents) :
    Lexeme.quoted contents = ⟨.error .unterminatedText, contents, []⟩
      ∧ ∀ behind, Lexeme.quoted (contents ++ '"' :: behind)
        = ⟨.ok (.text contents), contents ++ ['"'], behind⟩ := by
  have hcontents : ∀ character ∈ contents, (character != '"') = true := by
    intro character hmem
    exact bne_iff_ne.mpr fun hsame => hquote (hsame ▸ hmem)
  constructor
  · have hend : Apart (· != '"') [] := nofun
    obtain ⟨htake, hdrop⟩ := takeWhile_apart hcontents hend
    rw [List.append_nil] at htake hdrop
    rw [Lexeme.quoted, htake, hdrop]
  · intro behind
    have hbehind : Apart (· != '"') ('"' :: behind) := by
      rintro _ ⟨⟩
      rfl
    obtain ⟨htake, hdrop⟩ := takeWhile_apart hcontents hbehind
    rw [Lexeme.quoted, htake, hdrop]

/-- A lexeme is what is read where it stands, unless it is a newline. -/
theorem IsLexeme.ofText_eq {lexeme behind : List Char} {content : Except LexicalFault TokenKind}
    (h : IsLexeme lexeme behind content) :
    (lexeme = ['\n'] ∧ content = .ok (.delimiter .terminator))
      ∨ ∃ first tail, lexeme = first :: tail ∧ Text.isBlank first = false
        ∧ Lexeme.ofText first (tail ++ behind) = ⟨content, tail, behind⟩ := by
  cases h with
  | newline => exact .inl ⟨rfl, rfl⟩
  | delimiter separator =>
      refine .inr ⟨_, _, rfl, by cases separator <;> decide, ?_⟩
      rw [Lexeme.ofText, TokenKind.ofSign?_delimiter]
      rfl
  | operator infixSign =>
      refine .inr ⟨_, _, rfl, by cases infixSign <;> decide, ?_⟩
      rw [Lexeme.ofText, TokenKind.ofSign?_operator]
      rfl
  | keyword reserved hbehind =>
      obtain ⟨hsome, hletters⟩ := letters_word reserved
      obtain ⟨first, tail, hsame⟩ := List.exists_cons_of_ne_nil hsome
      rw [hsame] at hletters
      obtain ⟨hblank, htext⟩ := ofText_word (fun character hmem => (hletters character hmem).1)
        (hletters first List.mem_cons_self).2 hbehind
      rw [← hsame, TokenKind.ofWord, String.ofList_toList, Keyword.ofWord?_word] at htext
      exact .inr ⟨first, tail, hsame, hblank, htext⟩
  | @identifier first tail _ hword hfirst hnone hbehind =>
      obtain ⟨hblank, htext⟩ := ofText_word hword hfirst hbehind
      have hreserved : Keyword.ofWord? (String.ofList (first :: tail)) = none := by
        refine Option.eq_none_iff_forall_not_mem.mpr fun reserved hfound => ?_
        have hspelling := congrArg String.toList (Keyword.word_of_ofWord? hfound)
        rw [String.toList_ofList] at hspelling
        exact hnone reserved hspelling.symm
      rw [TokenKind.ofWord, hreserved] at htext
      exact .inr ⟨first, tail, rfl, hblank, htext⟩
  | number hfirst htail hread hbehind =>
      obtain ⟨hblank, htext⟩ := ofText_number hfirst htail hbehind
      rw [numberContent_of_read? hfirst, hread] at htext
      exact .inr ⟨_, _, rfl, hblank, htext⟩
  | invalidNumber hfirst htail hread hbehind =>
      obtain ⟨hblank, htext⟩ := ofText_number hfirst htail hbehind
      rw [numberContent_of_read? hfirst, hread] at htext
      exact .inr ⟨_, _, rfl, hblank, htext⟩
  | text hquote =>
      refine .inr ⟨_, _, rfl, by decide, ?_⟩
      rw [List.append_assoc]
      exact (quoted_of_not_mem hquote).2 behind
  | unterminated hquote =>
      refine .inr ⟨_, _, rfl, by decide, ?_⟩
      rw [List.append_nil]
      exact (quoted_of_not_mem hquote).1
  | unexpected _ hblank hsign hquote hword =>
      refine .inr ⟨_, _, rfl, hblank, ?_⟩
      have hnumeric : Text.isNumeric _ = false := Bool.eq_false_iff.mpr fun hnumeric =>
        Bool.eq_false_iff.mp hword (Text.isWordPart_of_isNumeric hnumeric)
      rw [Lexeme.ofText, hsign]
      dsimp only
      rw [if_neg hquote, hnumeric, hword]
      rfl

/-- What a lexeme is does not depend on the text behind it. -/
theorem IsLexeme.alone {lexeme behind : List Char} {content : Except LexicalFault TokenKind}
    (h : IsLexeme lexeme behind content) : IsLexeme lexeme [] content := by
  cases h with
  | newline => exact .newline []
  | delimiter separator => exact .delimiter separator []
  | operator infixSign => exact .operator infixSign []
  | keyword reserved => exact .keyword reserved nofun
  | identifier hword hfirst hnone => exact .identifier hword hfirst hnone nofun
  | number hfirst htail hread => exact .number hfirst htail hread nofun
  | invalidNumber hfirst htail hread => exact .invalidNumber hfirst htail hread nofun
  | text hquote => exact .text hquote []
  | unterminated hquote => exact .unterminated hquote
  | unexpected _ hblank hsign hquote hword => exact .unexpected [] hblank hsign hquote hword

/-- A lexeme settles what its item reads as, wherever it stands. -/
theorem IsLexeme.content_eq {lexeme behind other : List Char}
    {content content' : Except LexicalFault TokenKind} (h : IsLexeme lexeme behind content)
    (h' : IsLexeme lexeme other content') : content = content' := by
  rcases h.alone.ofText_eq with ⟨rfl, rfl⟩ | ⟨first, tail, rfl, hblank, htext⟩
  · rcases h'.ofText_eq with ⟨-, rfl⟩ | ⟨first, tail, hsame, hblank, -⟩
    · rfl
    · cases hsame
      exact absurd hblank (by decide)
  · rcases h'.alone.ofText_eq with ⟨hsame, rfl⟩ | ⟨_, _, hsame, -, htext'⟩
    · cases hsame
      exact absurd hblank (by decide)
    · cases hsame
      rw [htext] at htext'
      cases htext'
      rfl

theorem IsLexeme.ne_nil {lexeme behind : List Char} {content : Except LexicalFault TokenKind}
    (h : IsLexeme lexeme behind content) : lexeme ≠ [] := by
  rcases h.ofText_eq with ⟨rfl, -⟩ | ⟨first, tail, rfl, -⟩ <;> exact List.cons_ne_nil _ _

/-! ## Lexemes before more text -/

/-- A lexeme that is not left open is one before any text that does not go on with it. -/
theorem IsLexeme.extend {lexeme rest other : List Char} {content : Except LexicalFault TokenKind}
    (h : IsLexeme lexeme rest content) (hclosed : content ≠ .error .unterminatedText)
    (hother : ∀ character ∈ other.head?,
      rest.head? = some character ∨ Lexeme.isNumberPart character = false) :
    IsLexeme lexeme other content := by
  -- What parts the lexeme from the text behind it parts it from the other text.
  have hword : Apart Text.isWordPart rest → Apart Text.isWordPart other := by
    intro hrest character hhead
    rcases hother character hhead with hsame | hpart
    · exact hrest character hsame
    · exact isWordPart_of_isNumberPart hpart
  have hnumber : Apart Lexeme.isNumberPart rest → Apart Lexeme.isNumberPart other := by
    intro hrest character hhead
    rcases hother character hhead with hsame | hpart
    · exact hrest character hsame
    · exact hpart
  cases h with
  | newline => exact .newline other
  | delimiter separator => exact .delimiter separator other
  | operator infixSign => exact .operator infixSign other
  | keyword reserved hbehind => exact .keyword reserved (hword hbehind)
  | identifier hpart hfirst hnone hbehind => exact .identifier hpart hfirst hnone (hword hbehind)
  | number hfirst htail hread hbehind => exact .number hfirst htail hread (hnumber hbehind)
  | invalidNumber hfirst htail hread hbehind =>
      exact .invalidNumber hfirst htail hread (hnumber hbehind)
  | text hquote => exact .text hquote other
  | unterminated => exact absurd rfl hclosed
  | unexpected _ hblank hsign hquote hword => exact .unexpected other hblank hsign hquote hword

/-- Only a quoted text is left open, at the end of the text. -/
theorem IsLexeme.exists_quote {lexeme rest : List Char}
    (h : IsLexeme lexeme rest (.error .unterminatedText)) :
    rest = [] ∧ ∃ contents, lexeme = '"' :: contents ∧ '"' ∉ contents := by
  cases h with
  | unterminated hquote => exact ⟨rfl, _, rfl, hquote⟩

/-- A lexeme that is not left open is cut off before any text that does not go on with it. -/
theorem ofText_replace {first : Char} {text other : List Char}
    (hblank : Text.isBlank first = false)
    (hclosed : (Lexeme.ofText first text).content ≠ .error .unterminatedText)
    (hother : ∀ character ∈ other.head?, (Lexeme.ofText first text).rest.head? = some character
      ∨ Lexeme.isNumberPart character = false) :
    Lexeme.ofText first ((Lexeme.ofText first text).tail ++ other)
      = { Lexeme.ofText first text with rest := other } := by
  have hreplaced := (isLexeme_ofText text hblank).extend hclosed hother
  rcases hreplaced.ofText_eq with ⟨hnewline, -⟩ | ⟨_, _, hsame, -, htext⟩
  · cases hnewline
    exact absurd hblank (by decide)
  · cases hsame
    exact htext

/-- A lexeme is cut off before more text as it is before none. -/
theorem ofText_extend {first : Char} {text : List Char} (behind : List Char)
    (hblank : Text.isBlank first = false)
    (hclosed : (Lexeme.ofText first text).content ≠ .error .unterminatedText)
    (hparted : (Lexeme.ofText first text).rest = [] → Parted behind) :
    Lexeme.ofText first (text ++ behind) = withBehind (Lexeme.ofText first text) behind := by
  have hother : ∀ character ∈ ((Lexeme.ofText first text).rest ++ behind).head?,
      (Lexeme.ofText first text).rest.head? = some character
        ∨ Lexeme.isNumberPart character = false := by
    intro character hhead
    cases hrest : (Lexeme.ofText first text).rest with
    | nil =>
        rw [hrest] at hhead
        exact .inr (hparted hrest character hhead)
    | cons next rest =>
        rw [hrest] at hhead
        exact .inl hhead
  have hreplaced := ofText_replace hblank hclosed hother
  rwa [← List.append_assoc, Lexeme.tail_append_rest] at hreplaced

end StackLang
