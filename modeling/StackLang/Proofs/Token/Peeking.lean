import Mathlib
import StackLang.Token.Lookahead

/-! # Looking ahead

Looking at the next item changes nothing but the time at which it is scanned: what is answered
depends on the items alone that are not yet taken, and what the table of spellings has met on the
items that are scanned.

* `Lookahead.Call`, `Lookahead.after` — the calls of a reader, and the reader behind some of them.
* `Lookahead.answers`, `Lookahead.taken`, `Lookahead.scanned` — what the calls are answered, what
  is taken by them, and what is scanned for them.
* `Lookahead.unread` — the items that are not yet taken.
* `Lookahead.answer_eq`, `Lookahead.unread_behind` — what one call is answered, and what it leaves.
* `Lookahead.peek_transparent` — looking ahead is not to be noticed in what is taken. -/

namespace StackLang.Lookahead

/-! ## Calls -/

/-- A call of a reader. -/
inductive Call where
  /-- Look at the next item. -/
  | peek
  /-- Take the next item. -/
  | next
  deriving DecidableEq, Repr

/-- What a call is answered: an item, or nothing at the end of the text. -/
def answer (reader : Lookahead) : Call → Option Item
  | .peek => reader.peek.1
  | .next => reader.next.1

/-- The reader behind a call. -/
def behindCall (reader : Lookahead) : Call → Lookahead
  | .peek => reader.peek.2
  | .next => reader.next.2

/-- The item that is scanned for the next call, whatever it is; none if an answer is pending or the
text has ended. -/
def scannedNow (reader : Lookahead) : List Item :=
  match reader.pending with
  | some _ => []
  | none => reader.scan.1.toList

/-- The reader behind some calls, the earliest first. -/
def after (reader : Lookahead) (calls : List Call) : Lookahead :=
  calls.foldl behindCall reader

/-- Some calls, each with what it is answered. -/
def answers (reader : Lookahead) : List Call → List (Call × Option Item)
  | [] => []
  | call :: calls => (call, reader.answer call) :: (reader.behindCall call).answers calls

/-- What those of the calls are answered that take an item. -/
def taken (reader : Lookahead) (calls : List Call) : List (Option Item) :=
  ((reader.answers calls).filter fun answered => answered.1 = .next).map Prod.snd

/-- The items that are scanned for some calls. -/
def scanned (reader : Lookahead) : List Call → List Item
  | [] => []
  | call :: calls => reader.scannedNow ++ (reader.behindCall call).scanned calls

theorem after_cons (reader : Lookahead) (call : Call) (calls : List Call) :
    reader.after (call :: calls) = (reader.behindCall call).after calls := rfl

theorem taken_peek (reader : Lookahead) (calls : List Call) :
    reader.taken (.peek :: calls) = (reader.behindCall .peek).taken calls := rfl

theorem taken_next (reader : Lookahead) (calls : List Call) :
    reader.taken (.next :: calls)
      = reader.answer .next :: (reader.behindCall .next).taken calls := rfl

theorem after_append (reader : Lookahead) (calls later : List Call) :
    reader.after (calls ++ later) = (reader.after calls).after later :=
  List.foldl_append

/-! ## What is not yet taken -/

/-- The items that are not yet taken: the pending one, and those from the cursor on. -/
def unread (reader : Lookahead) : List Item :=
  match reader.pending with
  | none => reader.cursor.items
  | some none => []
  | some (some item) => item :: reader.cursor.items

/-- If the end of the text is pending, no item follows. -/
def Sound (reader : Lookahead) : Prop :=
  reader.pending = some none → reader.cursor.scan = none

theorem sound_of_pending {reader : Lookahead} (h : reader.pending ≠ some none) : reader.Sound :=
  fun hend => absurd hend h

theorem unread_of_pending {reader : Lookahead} (h : reader.pending = none) :
    reader.unread = reader.cursor.items := by
  rw [unread, h]

/-- What is scanned next is the first of the items from the cursor on. -/
theorem scan_eq (reader : Lookahead) : reader.scan.1 = reader.cursor.items.head? := by
  rw [scan]
  cases hscan : reader.cursor.scan with
  | none => rw [Cursor.items_of_scan_none hscan, List.head?_nil]
  | some read => rw [Cursor.items_of_scan_some hscan, List.head?_cons]

/-- Behind it stand the others. -/
theorem items_scan (reader : Lookahead) :
    reader.scan.2.cursor.items = reader.cursor.items.tail
      ∧ reader.scan.2.pending = reader.pending := by
  rw [scan]
  cases hscan : reader.cursor.scan with
  | none =>
      dsimp only
      rw [Cursor.items_of_scan_none hscan]
      exact ⟨rfl, rfl⟩
  | some read =>
      dsimp only
      rw [Cursor.items_of_scan_some hscan]
      exact ⟨rfl, rfl⟩

/-- The table meets the names among the items that are scanned. -/
theorem interner_scan (reader : Lookahead) :
    reader.scan.2.interner = reader.interner.meetAll reader.scan.1.toList := by
  rw [scan]
  cases reader.cursor.scan <;> rfl

/-- At the end of the text nothing is scanned, ever. -/
theorem scan_of_end {reader : Lookahead} (h : reader.scan.1 = none) :
    reader.cursor.scan = none := by
  rw [scan] at h
  cases hscan : reader.cursor.scan with
  | none => rfl
  | some read =>
      rw [hscan] at h
      cases h

/-- Every call is answered with the first item that is not yet taken. -/
theorem answer_eq (reader : Lookahead) (call : Call) :
    reader.answer call = reader.unread.head? := by
  cases hpending : reader.pending with
  | none =>
      rw [unread_of_pending hpending, ← scan_eq]
      cases call with
      | peek => rw [answer, peek, hpending]
      | next => rw [answer, next, hpending]
  | some pending =>
      have hpeek : reader.peek.1 = pending := by rw [peek, hpending]
      have hnext : reader.next.1 = pending := by rw [next, hpending]
      have hunread : reader.unread.head? = pending := by
        rw [unread, hpending]
        cases pending <;> rfl
      rw [hunread]
      cases call with
      | peek => exact hpeek
      | next => exact hnext

/-- The items that a call leaves: all of them, or those behind the first one. -/
theorem unread_behind {reader : Lookahead} (h : reader.Sound) (call : Call) :
    (reader.behindCall call).unread = reader.unread.drop ([call].count .next) := by
  obtain ⟨hitems, hkept⟩ := reader.items_scan
  cases hpending : reader.pending with
  | none =>
      rw [unread_of_pending hpending]
      cases call with
      | peek =>
          -- The item that was looked at stands before those behind the cursor.
          have hpeek : reader.peek.2 = { reader.scan.2 with pending := some reader.scan.1 } := by
            rw [peek, hpending]
          rw [behindCall, hpeek, unread]
          dsimp only
          rw [hitems, scan_eq]
          cases reader.cursor.items <;> rfl
      | next =>
          have hnext : reader.next.2 = reader.scan.2 := by rw [next, hpending]
          rw [behindCall, hnext, unread_of_pending (hkept.trans hpending), hitems]
          exact List.drop_one.symm
  | some pending =>
      cases call with
      | peek =>
          have hpeek : reader.peek.2 = reader := by rw [peek, hpending]
          rw [behindCall, hpeek]
          rfl
      | next =>
          have hnext : reader.next.2 = { reader with pending := none } := by rw [next, hpending]
          rw [behindCall, hnext, unread, unread, hpending]
          cases pending with
          | none => exact Cursor.items_of_scan_none (h hpending)
          | some item => rfl

/-- A call keeps the reader sound. -/
theorem sound_behind {reader : Lookahead} (h : reader.Sound) (call : Call) :
    (reader.behindCall call).Sound := by
  cases hpending : reader.pending with
  | none =>
      cases call with
      | peek =>
          have hpeek : reader.peek.2 = { reader.scan.2 with pending := some reader.scan.1 } := by
            rw [peek, hpending]
          rw [behindCall, hpeek]
          intro hend
          have hscan := scan_of_end (Option.some.inj hend)
          show reader.scan.2.cursor.scan = none
          rw [scan, hscan]
          exact hscan
      | next =>
          have hnext : reader.next.2 = reader.scan.2 := by rw [next, hpending]
          rw [behindCall, hnext]
          refine sound_of_pending ?_
          rw [reader.items_scan.2, hpending]
          exact Option.some_ne_none none |>.symm
  | some pending =>
      cases call with
      | peek =>
          have hpeek : reader.peek.2 = reader := by rw [peek, hpending]
          rw [behindCall, hpeek]
          exact h
      | next =>
          have hnext : reader.next.2 = { reader with pending := none } := by rw [next, hpending]
          rw [behindCall, hnext]
          exact sound_of_pending (Option.some_ne_none none).symm

/-! ## Any number of calls -/

/-- A source text is read from a sound reader, with all items before it. -/
theorem sound_start (source : List Char) (interner : Interner) : (start source interner).Sound :=
  sound_of_pending (Option.some_ne_none none).symm

theorem unread_start (source : List Char) (interner : Interner) :
    (start source interner).unread = itemsOf source := rfl

theorem sound_after {reader : Lookahead} (h : reader.Sound) (calls : List Call) :
    (reader.after calls).Sound := by
  induction calls generalizing reader with
  | nil => exact h
  | cons call calls ih => exact ih (sound_behind h call)

/-- Some calls leave the items behind those that they take. -/
theorem unread_after {reader : Lookahead} (h : reader.Sound) (calls : List Call) :
    (reader.after calls).unread = reader.unread.drop (calls.count .next) := by
  induction calls generalizing reader with
  | nil => rfl
  | cons call calls ih =>
      rw [after_cons, ih (sound_behind h call), unread_behind h, List.drop_drop,
        ← List.count_append, List.singleton_append]

/-- What is taken are the items one by one, and the end of the text from there on. -/
theorem taken_eq {reader : Lookahead} (h : reader.Sound) (calls : List Call) :
    reader.taken calls
      = (List.range (calls.count .next)).map fun (index : Nat) => reader.unread[index]? := by
  induction calls generalizing reader with
  | nil => rfl
  | cons call calls ih =>
      have hothers := ih (sound_behind h call)
      rw [unread_behind h] at hothers
      cases call with
      | peek =>
          rw [taken_peek, hothers]
          rfl
      | next =>
          have hcount : (Call.next :: calls).count .next = calls.count .next + 1 :=
            List.count_cons_self
          rw [taken_next, hothers, answer_eq, List.head?_eq_getElem?, hcount,
            List.range_succ_eq_map, List.map_cons, List.map_map]
          simp

/-- At the end of the text all calls are answered with nothing. -/
theorem answers_of_end {reader : Lookahead} (h : reader.Sound) (hend : reader.unread = [])
    (calls : List Call) : ∀ answered ∈ reader.answers calls, answered.2 = none := by
  induction calls generalizing reader with
  | nil => exact List.forall_mem_nil _
  | cons call calls ih =>
      refine List.forall_mem_cons.mpr ⟨?_, ih (sound_behind h call) ?_⟩
      · rw [answer_eq, hend, List.head?_nil]
      · rw [unread_behind h, hend, List.drop_nil]

/-! ## What is scanned -/

/-- A call meets the names among the items that are scanned for it, and the cursor stands behind
them. -/
theorem scannedNow_eq (reader : Lookahead) (call : Call) :
    reader.cursor.items = reader.scannedNow ++ (reader.behindCall call).cursor.items
      ∧ (reader.behindCall call).interner = reader.interner.meetAll reader.scannedNow := by
  cases hpending : reader.pending with
  | none =>
      have hbehind : (reader.behindCall call).cursor = reader.scan.2.cursor
          ∧ (reader.behindCall call).interner = reader.scan.2.interner := by
        cases call with
        | peek =>
            rw [behindCall, peek, hpending]
            exact ⟨rfl, rfl⟩
        | next =>
            rw [behindCall, next, hpending]
            exact ⟨rfl, rfl⟩
      rw [scannedNow, hpending, hbehind.1, hbehind.2]
      refine ⟨?_, reader.interner_scan⟩
      dsimp only
      rw [reader.items_scan.1, scan_eq]
      cases reader.cursor.items <;> rfl
  | some pending =>
      rw [scannedNow, hpending]
      cases call with
      | peek =>
          rw [behindCall, peek, hpending]
          exact ⟨rfl, rfl⟩
      | next =>
          rw [behindCall, next, hpending]
          exact ⟨rfl, rfl⟩

/-- So do some calls. -/
theorem scanned_eq (reader : Lookahead) (calls : List Call) :
    reader.cursor.items = reader.scanned calls ++ (reader.after calls).cursor.items
      ∧ (reader.after calls).interner = reader.interner.meetAll (reader.scanned calls) := by
  induction calls generalizing reader with
  | nil => exact ⟨rfl, rfl⟩
  | cons call calls ih =>
      obtain ⟨hitems, hinterner⟩ := reader.scannedNow_eq call
      obtain ⟨hothers, hbehind⟩ := ih (reader.behindCall call)
      rw [after_cons, scanned]
      refine ⟨?_, ?_⟩
      · rw [List.append_assoc, ← hothers]
        exact hitems
      · rw [hbehind, hinterner, Interner.meetAll, Interner.meetAll, Interner.meetAll,
          List.foldl_append]

/-- As many items that are scanned are the same items. -/
theorem scanned_inj {reader : Lookahead} {calls others : List Call}
    (h : (reader.scanned calls).length = (reader.scanned others).length) :
    reader.scanned calls = reader.scanned others :=
  (List.append_inj ((reader.scanned_eq calls).1.symm.trans (reader.scanned_eq others).1) h).1

/-! ## Looking ahead is not noticed -/

/-- Whatever calls a source text is read with, those that take an item are answered as if there
were no others: with the items one by one, and with the end of the text from there on. Looking ahead
is answered as the call that takes the item will be, however often it is done. Behind the end of the
text every call is answered with the end. What the table has met is settled by how many items are
scanned. -/
theorem peek_transparent (source : List Char) (interner : Interner) :
    (∀ calls,
      (start source interner).taken calls
          = (start source interner).taken (List.replicate (calls.count .next) .next)
        ∧ (start source interner).taken calls
          = (List.range (calls.count .next)).map fun (index : Nat) => (itemsOf source)[index]?)
    ∧ (∀ calls count, ((start source interner).after calls).answer .peek
        = ((start source interner).after (calls ++ List.replicate count .peek)).answer .next)
    ∧ (∀ calls call, ((start source interner).after calls).answer call = none →
        ∀ later, ∀ answered ∈ ((start source interner).after calls).answers later,
          answered.2 = none)
    ∧ ∀ calls others, ((start source interner).scanned calls).length
          = ((start source interner).scanned others).length →
        ((start source interner).after calls).interner
          = ((start source interner).after others).interner := by
  have hsound := sound_start source interner
  refine ⟨fun calls => ⟨?_, ?_⟩, fun calls count => ?_, fun calls call hend later => ?_,
    fun calls others hlength => ?_⟩
  · rw [taken_eq hsound, taken_eq hsound, List.count_replicate_self]
  · rw [taken_eq hsound, unread_start]
  · rw [answer_eq, answer_eq, after_append, unread_after (sound_after hsound calls),
      List.count_replicate, if_neg (by decide), List.drop_zero]
  · rw [answer_eq, List.head?_eq_none_iff] at hend
    exact answers_of_end (sound_after hsound calls) hend later
  · rw [(scanned_eq _ calls).2, (scanned_eq _ others).2, scanned_inj hlength]

/-- Looking twice at a name and at the quoted text behind it that is left open, and at the end. -/
theorem peek_transparent_text :
    let reader := start ['a', '"', 'b'] (.empty 0)
    let calls : List Call := [.peek, .peek, .next, .peek, .next]
    reader.taken calls = [some (.ok ⟨.identifier "a", ⟨1, 1⟩, ⟨1, 2⟩⟩),
        some (.error ⟨.unterminatedText, ⟨1, 2⟩, ⟨1, 4⟩⟩)]
      ∧ (reader.after [.next]).answer .peek = (reader.after [.next, .peek, .peek]).answer .next
      ∧ (reader.after calls).answer .peek = none
      ∧ (∀ answered ∈ (reader.after calls).answers [.next, .peek, .next], answered.2 = none)
      ∧ (reader.scanned [.peek]).length = (reader.scanned [.next]).length
      ∧ (reader.after [.peek]).interner = (reader.after [.next]).interner := by
  intro reader calls
  have hitems : itemsOf ['a', '"', 'b'] = [.ok ⟨.identifier "a", ⟨1, 1⟩, ⟨1, 2⟩⟩,
      .error ⟨.unterminatedText, ⟨1, 2⟩, ⟨1, 4⟩⟩] := by cbv
  have hend : (reader.after calls).answer .peek = none := by
    rw [answer_eq, unread_after (sound_start _ _), unread_start, hitems]
    rfl
  have hscanned : (reader.scanned [.peek]).length = (reader.scanned [.next]).length := rfl
  obtain ⟨htaken, hpeek, hstays, hinterner⟩ := peek_transparent ['a', '"', 'b'] (.empty 0)
  refine ⟨?_, hpeek [.next] 2, hend, hstays calls .peek hend _, hscanned, hinterner _ _ hscanned⟩
  rw [(htaken calls).2, hitems]
  rfl

end StackLang.Lookahead
