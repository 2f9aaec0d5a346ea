import Mathlib
import StackLang.Proofs.Token.Items
import StackLang.Proofs.Token.Lexemes

/-! # Texts that go on

More text behind a text does not change the items before it, as long as it does not go on with the
last lexeme. A quoted text that is left open goes on with any text, until it is closed.

* `items_quote` — a quoted text is left open until it is closed.
* `Parting` — a text apart from the quoted text that is left open at its end.
* `exists_parting` — every text has such a parting.
* `Parting.parted` — what may stand behind it.
* `itemsOf_line` — the items of a text that ends in a newline stay the same before any text. -/

namespace StackLang

open Grammar
open Text (Position Span)

/-! ## Quoted texts that are left open -/

/-- A quoted text is left open until it is closed. -/
theorem items_quote {contents : List Char} (hquote : '"' ∉ contents) (position : Position)
    (ends : Bool) :
    (∃ span, (Cursor.mk ('"' :: contents) position ends).items
        = [.error ⟨.unterminatedText, span⟩])
      ∧ ∀ rest, ∃ token place, token.kind = .text contents
        ∧ (Cursor.mk ('"' :: (contents ++ '"' :: rest)) position ends).items
          = .ok token :: (Cursor.mk rest place false).items := by
  obtain ⟨hopen, hclosed⟩ := quoted_of_not_mem hquote
  constructor
  · have htext : Lexeme.ofText '"' contents = _ := hopen
    refine ⟨⟨position, position.afterAll ('"' :: contents)⟩, ?_⟩
    rw [items_lexeme position (by decide) htext, Cursor.items_of_scan_none rfl]
    rfl
  · intro rest
    have htext : Lexeme.ofText '"' (contents ++ '"' :: rest) = _ := hclosed rest
    exact ⟨⟨.text contents, _⟩, _, rfl, items_lexeme position (by decide) htext⟩

/-- A text from a place on, apart from the quoted text that is left open at its end: the items
before that one, and the place behind them. -/
structure Parting (position : Position) (ends : Bool) (text : List Char) where
  /-- The text that is not left open. -/
  closed : List Char
  /-- The quoted text that is left open, if there is one. -/
  opened : List Char
  /-- The items of the text that is not left open. -/
  items : List Item
  /-- The position behind it. -/
  place : Position
  /-- Whether a newline behind it would end a statement. -/
  ended : Bool
  text_eq : text = closed ++ opened
  opened_eq : opened = [] ∨ ∃ contents, opened = '"' :: contents ∧ '"' ∉ contents
  content_ne : ∀ item ∈ items, item.content ≠ .error .unterminatedText
  /-- The items stay the same before more text. -/
  items_append : ∀ behind, Parted (opened ++ behind) →
    (Cursor.mk (text ++ behind) position ends).items
      = items ++ (Cursor.mk (opened ++ behind) place ended).items

theorem content_newlineTerminator (position : Position) :
    (Cursor.newlineTerminator position).content ≠ .error .unterminatedText := nofun

/-- Every text has a parting. -/
theorem exists_parting (position : Position) (ends : Bool) (text : List Char) :
    Nonempty (Parting position ends text) := by
  match text with
  | [] =>
      exact ⟨{ closed := [], opened := [], items := [], place := position, ended := ends
               text_eq := rfl, opened_eq := .inl rfl, content_ne := nofun
               items_append := fun _ _ => rfl }⟩
  | first :: text =>
      by_cases hblank : Text.isBlank first = true
      · by_cases hnewline : first = '\n' ∧ ends = true
        · obtain ⟨rfl, rfl⟩ := hnewline
          obtain ⟨parting⟩ := exists_parting (position.after '\n') false text
          refine ⟨{ parting with
            closed := '\n' :: parting.closed
            items := Cursor.newlineTerminator position :: parting.items
            text_eq := congrArg _ parting.text_eq
            content_ne := List.forall_mem_cons.mpr
              ⟨content_newlineTerminator position, parting.content_ne⟩
            items_append := fun behind hparted => ?_ }⟩
          rw [List.cons_append, items_newline, parting.items_append behind hparted,
            List.cons_append]
        · obtain ⟨parting⟩ := exists_parting (position.after first) ends text
          refine ⟨{ parting with
            closed := first :: parting.closed
            text_eq := congrArg _ parting.text_eq
            items_append := fun behind hparted => ?_ }⟩
          rw [List.cons_append, items_blank _ _ hblank hnewline,
            parting.items_append behind hparted]
      · rw [Bool.not_eq_true] at hblank
        have hwhole := Lexeme.tail_append_rest first text
        by_cases hopen : (Lexeme.ofText first text).content = .error .unterminatedText
        · -- All of the text is a quoted text that is left open.
          have hlexeme := isLexeme_ofText text hblank
          rw [hopen] at hlexeme
          obtain ⟨hrest, contents, hsame, hquote⟩ := hlexeme.exists_quote
          rw [hrest, List.append_nil] at hwhole
          rw [hwhole] at hsame
          exact ⟨{ closed := [], opened := first :: text, items := [], place := position
                   ended := ends, text_eq := rfl, opened_eq := .inr ⟨contents, hsame, hquote⟩
                   content_ne := nofun, items_append := fun _ _ => rfl }⟩
        · have hshorter := Lexeme.length_rest_le first text
          obtain ⟨parting⟩ := exists_parting
            (position.afterAll (first :: (Lexeme.ofText first text).tail))
            (Lexeme.ofText first text).endsStatement (Lexeme.ofText first text).rest
          refine ⟨{ parting with
            closed := first :: ((Lexeme.ofText first text).tail ++ parting.closed)
            items := Item.of (Lexeme.ofText first text).content
              ⟨position, position.afterAll (first :: (Lexeme.ofText first text).tail)⟩
              :: parting.items
            text_eq := by
              rw [List.cons_append, List.append_assoc, ← parting.text_eq, hwhole]
            content_ne := List.forall_mem_cons.mpr
              ⟨by rwa [Item.content_of], parting.content_ne⟩
            items_append := fun behind hparted => ?_ }⟩
          have hextend := ofText_extend behind hblank hopen fun hrest => by
            have hopened := parting.text_eq.symm.trans hrest
            rwa [(List.append_eq_nil_iff.mp hopened).2] at hparted
          rw [List.cons_append, items_lexeme position hblank hextend, List.cons_append,
            ← parting.items_append behind hparted]
          rfl
termination_by text.length
decreasing_by all_goals simp only [List.length_cons]; omega

/-! ## Texts that end in a newline -/

/-- A quoted text parts what is before it, and what is left open goes on with any text. -/
theorem Parting.parted {position : Position} {ends : Bool} {text : List Char}
    (parting : Parting position ends text) {behind : List Char} (h : Parted behind) :
    Parted (parting.opened ++ behind) := by
  rcases parting.opened_eq with hopened | ⟨contents, hopened, -⟩
  · rwa [hopened]
  · rw [hopened]
    exact parted_cons _ (by decide)

/-- The items of a text that ends in a newline stay the same before any text, but for the error that
a quoted text is left open. -/
theorem itemsOf_line (text : List Char) :
    ∃ before last, itemsOf (text ++ ['\n']) = before ++ last
      ∧ (last = [] ∨ ∃ span, last = [.error ⟨.unterminatedText, span⟩])
      ∧ ∀ more, ∃ others, itemsOf (text ++ '\n' :: more) = before ++ others := by
  obtain ⟨parting⟩ := exists_parting .start false text
  have hitems := fun more => parting.items_append ('\n' :: more)
    (parting.parted (parted_newline more))
  rcases parting.opened_eq with hopened | ⟨contents, hopened, hquote⟩
  · -- The newline is an item, or it is passed over.
    have hline : ∃ terminators, ∀ more, ∃ place,
        (Cursor.mk ('\n' :: more) parting.place parting.ended).items
          = terminators ++ (Cursor.mk more place false).items := by
      cases parting.ended with
      | true => exact ⟨[Cursor.newlineTerminator parting.place], fun more =>
          ⟨_, items_newline more parting.place⟩⟩
      | false => exact ⟨[], fun more =>
          ⟨_, items_blank more parting.place Text.isBlank_newline (by simp)⟩⟩
    obtain ⟨terminators, hline⟩ := hline
    rw [hopened] at hitems
    refine ⟨parting.items ++ terminators, [], ?_, .inl rfl, fun more => ?_⟩
    · obtain ⟨place, hend⟩ := hline []
      refine (hitems []).trans ?_
      rw [List.nil_append, hend, Cursor.items_of_scan_none rfl, ← List.append_assoc]
    · obtain ⟨place, hend⟩ := hline more
      refine ⟨(Cursor.mk more place false).items, (hitems more).trans ?_⟩
      rw [List.nil_append, hend, List.append_assoc]
  · -- The newline belongs to what is left open.
    have hline : '"' ∉ contents ++ ['\n'] := by simp [hquote]
    obtain ⟨span, hspan⟩ := (items_quote hline parting.place parting.ended).1
    rw [hopened] at hitems
    exact ⟨parting.items, _, hitems [], .inr ⟨span, hspan⟩, fun more => ⟨_, hitems more⟩⟩

end StackLang
