import Mathlib
import StackLang.Proofs.Grammar.Contents
import StackLang.Proofs.Text.Counting

/-! # Newlines between lexemes

A newline that is part of no lexeme reads as a semicolon if the item before it can end a statement,
and as a space otherwise. In the first case it is a terminator itself.

* `Span.Covers` — a place is inside a span; places are ordered by line and column.
* `exists_reading_before` — up to a place that no item covers, the items do not depend on the text
  from there on.
* `Concludes` — an item can end a statement: a number, a name, `)`, `]` or `return`.
* `lastBefore`, `StatementEnds` — the last item that starts before a place, and that it can.
* `newline_exact` — what a newline reads as, and when it is a terminator. -/

namespace StackLang

open Grammar
open Text (Position Span)

/-! ## The order of places -/

namespace Text

/-- Places are ordered by their lines, on one line by their columns. -/
instance : LinearOrder Position :=
  LinearOrder.lift' (fun position => toLex (position.line, position.column))
    fun first second h => by
      cases first
      cases second
      simpa using h

theorem Position.lt_iff {first second : Position} : first < second
    ↔ first.line < second.line ∨ first.line = second.line ∧ first.column < second.column :=
  Prod.Lex.toLex_lt_toLex

/-- Every character leads to a later place. -/
theorem Position.lt_after (position : Position) (character : Char) :
    position < position.after character := by
  rw [lt_iff, after]
  split
  · exact .inl (Nat.lt_succ_self _)
  · exact .inr ⟨rfl, Nat.lt_succ_self _⟩

theorem Position.le_afterAll (position : Position) (text : List Char) :
    position ≤ position.afterAll text := by
  induction text generalizing position with
  | nil => exact le_refl _
  | cons character text ih => exact (position.lt_after character).le.trans (ih _)

/-- The place is inside the span. A span of no extent covers no place. -/
def Span.Covers (span : Span) (place : Position) : Prop :=
  span.start ≤ place ∧ place < span.stop

instance (span : Span) (place : Position) : Decidable (span.Covers place) :=
  inferInstanceAs (Decidable (_ ∧ _))

end Text

/-- What is read next starts no earlier than the place it is read from, and reading goes on no
earlier than it starts. -/
theorem le_of_scanFrom {position : Position} {ends : Bool} {text : List Char} {item : Item}
    {next : Cursor} (h : Cursor.scanFrom position ends text = some (item, next)) :
    position ≤ item.span.start ∧ item.span.start ≤ next.position := by
  induction text generalizing position with
  | nil => cases h
  | cons first text ih =>
      rw [Cursor.scanFrom] at h
      split at h
      · split at h
        · cases h
          exact ⟨le_refl _, (position.lt_after first).le⟩
        · obtain ⟨hstart, hnext⟩ := ih h
          exact ⟨(position.lt_after first).le.trans hstart, hnext⟩
      · cases h
        rw [Item.span_of]
        exact ⟨le_refl _, position.le_afterAll _⟩

/-- Items start no earlier than the place they are read from. -/
theorem le_start_of_mem_items (cursor : Cursor) :
    ∀ item ∈ cursor.items, cursor.position ≤ item.span.start := by
  cases hscan : cursor.scan with
  | none =>
      rw [Cursor.items_of_scan_none hscan]
      exact List.forall_mem_nil _
  | some read =>
      obtain ⟨first, next⟩ := read
      obtain ⟨hstart, hnext⟩ := le_of_scanFrom hscan
      have hshorter := Cursor.length_rest_lt hscan
      rw [Cursor.items_of_scan_some hscan]
      refine List.forall_mem_cons.mpr ⟨hstart, fun item hmem => ?_⟩
      exact (hstart.trans hnext).trans (le_start_of_mem_items next item hmem)
termination_by cursor.rest.length
decreasing_by exact hshorter

/-! ## Up to a place outside all items -/

/-- Whether a newline behind an item would end a statement. -/
def Item.endsStatement : Item → Bool
  | .ok token => token.kind.endsStatement
  | .error _ => false

theorem Item.endsStatement_of (lexeme : Lexeme) (span : Span) :
    (Item.of lexeme.content span).endsStatement = lexeme.endsStatement := by
  rw [Lexeme.endsStatement]
  cases lexeme.content <;> rfl

/-- Whether a newline behind some items would end a statement; behind none, what was so before. -/
def endsBehindItems (ends : Bool) (items : List Item) : Bool :=
  (items.getLast?.map Item.endsStatement).getD ends

theorem endsBehindItems_cons (ends : Bool) (item : Item) (items : List Item) :
    endsBehindItems ends (item :: items) = endsBehindItems item.endsStatement items := by
  rw [endsBehindItems, endsBehindItems, List.getLast?_cons]
  cases items.getLast? <;> rfl

/-- A lexeme that does not cover a newline ends there or before. So it is cut off before any text in
place of the newline that does not go on with it. -/
theorem exists_middle {first : Char} {text after : List Char} {lexeme : Lexeme}
    {position : Position} (hblank : Text.isBlank first = false)
    (hlexeme : Lexeme.ofText first (text ++ '\n' :: after) = lexeme)
    (houtside : ¬ Span.Covers ⟨position, position.afterAll (first :: lexeme.tail)⟩
      (position.afterAll (first :: text))) :
    ∃ middle, text = lexeme.tail ++ middle ∧ lexeme.rest = middle ++ '\n' :: after
      ∧ ∀ behind, Parted behind →
        Lexeme.ofText first (text ++ behind) = { lexeme with rest := middle ++ behind } := by
  have hbetween : ∃ middle, text = lexeme.tail ++ middle
      ∧ lexeme.rest = middle ++ '\n' :: after := by
    have hwhole := Lexeme.tail_append_rest first (text ++ '\n' :: after)
    rw [hlexeme] at hwhole
    rcases List.append_eq_append_iff.mp hwhole with hinside | ⟨more, htail, hafter⟩
    · exact hinside
    · -- The lexeme goes on behind the text: with the newline, as `more` begins with it.
      cases more with
      | nil => exact ⟨[], by simpa using htail.symm, hafter.symm⟩
      | cons character more =>
          refine absurd ⟨Position.le_afterAll _ _, ?_⟩ houtside
          rw [htail, ← List.cons_append, Position.afterAll_append]
          exact (Position.lt_after _ character).trans_le (Position.le_afterAll _ more)
  obtain ⟨middle, htext, hrest⟩ := hbetween
  refine ⟨middle, htext, hrest, fun behind hparted => ?_⟩
  -- A quoted text that is left open has everything in it, the newline too.
  have hclosed : lexeme.content ≠ .error .unterminatedText := by
    intro hopen
    have hleft := isLexeme_ofText (text ++ '\n' :: after) hblank
    rw [hlexeme, hopen] at hleft
    rw [hleft.exists_quote.1] at hrest
    simp at hrest
  have hother : ∀ character ∈ (middle ++ behind).head?, lexeme.rest.head? = some character
      ∨ Lexeme.isNumberPart character = false := by
    intro character hhead
    rw [hrest]
    cases middle with
    | nil => exact .inr (hparted character hhead)
    | cons next middle => exact .inl hhead
  subst hlexeme
  have hreplaced := ofText_replace hblank hclosed hother
  rwa [← List.append_assoc, ← htext] at hreplaced

/-- Up to a place that no item covers, the items do not depend on the text from there on, as long as
it does not go on with a word or a number. -/
theorem exists_reading_before {before after : List Char} (position : Position) (ends : Bool)
    (houtside : ∀ item ∈ (Cursor.mk (before ++ '\n' :: after) position ends).items,
      ¬ item.span.Covers (position.afterAll before)) :
    ∃ earlier : List Item, (∀ item ∈ earlier, item.span.start < position.afterAll before)
      ∧ ∀ behind, Parted behind → (Cursor.mk (before ++ behind) position ends).items = earlier
        ++ (Cursor.mk behind (position.afterAll before) (endsBehindItems ends earlier)).items := by
  -- By induction on the length of the text before the place: a lexeme takes off more than one
  -- character.
  match before with
  | [] => exact ⟨[], List.forall_mem_nil _, fun _ _ => rfl⟩
  | first :: text =>
      have hlater : position < position.afterAll (first :: text) :=
        (position.lt_after first).trans_le (Position.le_afterAll _ text)
      by_cases hblank : Text.isBlank first = true
      · by_cases hnewline : first = '\n' ∧ ends = true
        · -- An earlier newline that is a terminator.
          obtain ⟨rfl, rfl⟩ := hnewline
          rw [List.cons_append, items_newline] at houtside
          obtain ⟨earlier, hstart, hitems⟩ := exists_reading_before (position.after '\n') false
            (List.forall_mem_cons.mp houtside).2
          refine ⟨Cursor.newlineTerminator position :: earlier,
            List.forall_mem_cons.mpr ⟨hlater, hstart⟩, fun behind hparted => ?_⟩
          rw [List.cons_append, items_newline, hitems behind hparted, endsBehindItems_cons]
          rfl
        · rw [List.cons_append, items_blank _ _ hblank hnewline] at houtside
          obtain ⟨earlier, hstart, hitems⟩ := exists_reading_before (position.after first) ends
            houtside
          refine ⟨earlier, hstart, fun behind hparted => ?_⟩
          rw [List.cons_append, items_blank _ _ hblank hnewline, hitems behind hparted]
          rfl
      · -- A lexeme, and `middle` between it and the place.
        rw [Bool.not_eq_true] at hblank
        obtain ⟨lexeme, hlexeme⟩ : ∃ lexeme, Lexeme.ofText first (text ++ '\n' :: after) = lexeme :=
          ⟨_, rfl⟩
        rw [List.cons_append, items_lexeme position hblank hlexeme] at houtside
        obtain ⟨hfirst, hothers⟩ := List.forall_mem_cons.mp houtside
        rw [Item.span_of] at hfirst
        obtain ⟨middle, htext, hrest, hreplace⟩ := exists_middle hblank hlexeme hfirst
        have hplace : (position.afterAll (first :: lexeme.tail)).afterAll middle
            = position.afterAll (first :: text) := by
          rw [← Position.afterAll_append, List.cons_append, ← htext]
        rw [hrest, ← hplace] at hothers
        have hshorter : middle.length ≤ text.length := by
          rw [htext, List.length_append]
          exact Nat.le_add_left _ _
        obtain ⟨earlier, hstart, hitems⟩ := exists_reading_before _ _ hothers
        rw [hplace] at hstart hitems
        refine ⟨Item.of lexeme.content ⟨position, position.afterAll (first :: lexeme.tail)⟩
            :: earlier, List.forall_mem_cons.mpr ⟨?_, hstart⟩, fun behind hparted => ?_⟩
        · rw [Item.span_of]
          exact hlater
        · rw [List.cons_append, items_lexeme position hblank (hreplace behind hparted),
            endsBehindItems_cons, Item.endsStatement_of, List.cons_append, ← hitems behind hparted]
          rfl
termination_by before.length
decreasing_by all_goals simp only [List.length_cons]; omega

/-! ## Newlines -/

/-- The last item that starts before a place. -/
def lastBefore (items : List Item) (place : Position) : Option Item :=
  (items.filter fun item => item.span.start < place).getLast?

/-- The item is a number, a name, `)`, `]` or `return`. -/
inductive Concludes : Item → Prop
  /-- A number. -/
  | number (value : Float) (span : Span) : Concludes (.ok ⟨.number value, span⟩)
  /-- A name. -/
  | name (spelling : String) (span : Span) : Concludes (.ok ⟨.identifier spelling, span⟩)
  /-- `)` -/
  | closeParen (span : Span) : Concludes (.ok ⟨.delimiter .closeParen, span⟩)
  /-- `]` -/
  | closeBracket (span : Span) : Concludes (.ok ⟨.delimiter .closeBracket, span⟩)
  /-- `return` -/
  | returnWord (span : Span) : Concludes (.ok ⟨.keyword .returnWord, span⟩)

/-- Behind such an item, and behind no other, a newline would end a statement. -/
theorem concludes_iff (item : Item) : Concludes item ↔ item.endsStatement = true := by
  constructor
  · intro h
    cases h <;> rfl
  · intro h
    cases item with
    | error error => cases h
    | ok token =>
        obtain ⟨kind, span⟩ := token
        change kind.endsStatement = true at h
        unfold TokenKind.endsStatement at h
        split at h
        · exact .number _ span
        · exact .name _ span
        · exact .closeParen span
        · exact .closeBracket span
        · exact .returnWord span
        · cases h

/-- The last of some items that starts before a place can end a statement. -/
def StatementEnds (items : List Item) (place : Position) : Prop :=
  ∃ item ∈ lastBefore items place, Concludes item

/-- What starts no earlier than a place does not matter before it. -/
theorem statementEnds_append {place : Position} {earlier later : List Item}
    (hearlier : ∀ item ∈ earlier, item.span.start < place)
    (hlater : ∀ item ∈ later, place ≤ item.span.start) :
    StatementEnds (earlier ++ later) place ↔ endsBehindItems false earlier = true := by
  have hlast : lastBefore (earlier ++ later) place = earlier.getLast? := by
    have hall : earlier.filter (fun item => item.span.start < place) = earlier :=
      List.filter_eq_self.mpr fun item hmem => decide_eq_true (hearlier item hmem)
    have hnone : later.filter (fun item => item.span.start < place) = [] :=
      List.filter_eq_nil_iff.mpr fun item hmem => by simpa using hlater item hmem
    rw [lastBefore, List.filter_append, hall, hnone, List.append_nil]
  rw [StatementEnds, hlast, endsBehindItems]
  cases earlier.getLast? with
  | none => simp
  | some item => simpa using concludes_iff item

/-- A newline is a terminator if it would end a statement. -/
theorem newlineTerminator_mem_iff {place : Position} {ends : Bool} {after : List Char} :
    Cursor.newlineTerminator place ∈ (Cursor.mk ('\n' :: after) place ends).items
      ↔ ends = true := by
  cases ends with
  | true =>
      rw [items_newline]
      exact iff_of_true List.mem_cons_self rfl
  | false =>
      -- All items that follow start behind the newline.
      rw [items_blank after place Text.isBlank_newline (by simp)]
      refine iff_of_false (fun hmem => ?_) Bool.false_ne_true
      have hbehind : place.after '\n' ≤ place := le_start_of_mem_items _ _ hmem
      exact absurd (place.lt_after '\n') (not_lt.mpr hbehind)

/-- A newline that no item covers reads as a semicolon if the last item before it is a number, a
name, `)`, `]` or `return`: the items of the text have the same kinds and the same faults. Otherwise
it reads as a space. It is a terminator in the first case, and only then. -/
theorem newline_exact {before after : List Char}
    (houtside : ∀ item ∈ itemsOf (before ++ '\n' :: after), ¬ item.span.Covers (.behind before)) :
    (StatementEnds (itemsOf (before ++ '\n' :: after)) (.behind before) →
        (itemsOf (before ++ ';' :: after)).map Item.content
          = (itemsOf (before ++ '\n' :: after)).map Item.content)
      ∧ (¬ StatementEnds (itemsOf (before ++ '\n' :: after)) (.behind before) →
        (itemsOf (before ++ ' ' :: after)).map Item.content
          = (itemsOf (before ++ '\n' :: after)).map Item.content)
      ∧ (Cursor.newlineTerminator (.behind before) ∈ itemsOf (before ++ '\n' :: after)
        ↔ StatementEnds (itemsOf (before ++ '\n' :: after)) (.behind before)) := by
  have hplace : Position.behind before = Position.start.afterAll before :=
    Position.behind_append [] before
  rw [hplace] at houtside ⊢
  obtain ⟨earlier, hearlier, hitems⟩ := exists_reading_before .start false houtside
  have hnewline := hitems ('\n' :: after) (parted_newline after)
  have hlater := le_start_of_mem_items
    ⟨'\n' :: after, Position.start.afterAll before, endsBehindItems false earlier⟩
  have hends := statementEnds_append hearlier hlater
  rw [← hnewline] at hends
  have hcontents : ∀ behind, Parted behind → (itemsOf (before ++ behind)).map Item.content
      = earlier.map Item.content ++ contentsOf (endsBehindItems false earlier) behind := by
    intro behind hparted
    rw [itemsOf, Cursor.start, hitems behind hparted, List.map_append, content_items]
  change StatementEnds (itemsOf (before ++ '\n' :: after)) (Position.start.afterAll before)
    ↔ endsBehindItems false earlier = true at hends
  rw [hends, hcontents _ (parted_newline after), hcontents _ (parted_cons after (by decide)),
    hcontents _ (parted_cons after (by decide))]
  refine ⟨fun hflag => ?_, fun hflag => ?_, ?_⟩
  · rw [hflag, contentsOf_newline, contentsOf_sign rfl]
    rfl
  · rw [Bool.not_eq_true] at hflag
    rw [hflag, contentsOf_false_newline, contentsOf_blank after (by decide) (by simp)]
  · have hsource : itemsOf (before ++ '\n' :: after) = _ := hnewline
    rw [hsource, List.mem_append, newlineTerminator_mem_iff, or_iff_right]
    exact fun hmem => lt_irrefl _ (hearlier _ hmem)

/-- A newline behind a name, and one behind a quoted text that has a newline in it. -/
theorem newline_exact_text :
    let items := itemsOf ['a', '\n', '"', '\n', '"', '\n', 'b']
    (itemsOf ['a', ';', '"', '\n', '"', '\n', 'b']).map Item.content = items.map Item.content
      ∧ (itemsOf ['a', '\n', '"', '\n', '"', ' ', 'b']).map Item.content = items.map Item.content
      ∧ Cursor.newlineTerminator ⟨1, 2⟩ ∈ items ∧ Cursor.newlineTerminator ⟨3, 2⟩ ∉ items := by
  intro items
  have hitems : items = [.ok ⟨.identifier "a", ⟨1, 1⟩, ⟨1, 2⟩⟩,
      .ok ⟨.delimiter .terminator, ⟨1, 2⟩, ⟨1, 2⟩⟩, .ok ⟨.text ['\n'], ⟨2, 1⟩, ⟨3, 2⟩⟩,
      .ok ⟨.identifier "b", ⟨4, 1⟩, ⟨4, 2⟩⟩] := by
    change itemsOf _ = _
    cbv
  obtain ⟨hsemicolon, -, hterminator⟩ := @newline_exact ['a'] ['"', '\n', '"', '\n', 'b'] (by
    change ∀ item ∈ items, ¬ item.span.Covers _
    rw [hitems]
    decide)
  obtain ⟨-, hspace, hnone⟩ := @newline_exact ['a', '\n', '"', '\n', '"'] ['b'] (by
    change ∀ item ∈ items, ¬ item.span.Covers _
    rw [hitems]
    decide)
  have hends : StatementEnds items ⟨1, 2⟩ := by
    rw [hitems]
    exact ⟨_, rfl, .name "a" _⟩
  have hopen : ¬ StatementEnds items ⟨3, 2⟩ := by
    rw [hitems]
    rintro ⟨item, hlast, hconcludes⟩
    cases hlast
    cases hconcludes
  exact ⟨hsemicolon hends, hspace hopen, hterminator.mpr hends, fun hmem => hopen (hnone.mp hmem)⟩

end StackLang
