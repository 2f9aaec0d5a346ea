import Mathlib
import StackLang.Proofs.Symbol.Standing

/-! # The identity of symbols

Symbols are compared by their addresses, and still the answer is the one that the tables and the
texts would give: whatever calls are made, two symbols are the same just if one table handed them
out for one text.

* `Call` — a table is asked for its symbol of a text.
* `Tables.after`, `Tables.answers` — the tables behind some calls, and what the calls are answered.
* `Tables.standsFor_answers` — all symbols that were handed out keep what they stand for.
* `told` — the same calls to tables that keep spellings instead of addresses.
* `symbol_identity` — when two symbols are the same, what their names are, and how many there
  are. -/

namespace StackLang

/-! ## Tables that keep spellings -/

namespace Interners

variable (interners : Interners) (table : Nat) (spelling : String)

@[simp] theorem table_get : (interners.get table).table = table := by
  rw [get]
  cases hfind : interners.find? fun interner => interner.table == table with
  | none => rfl
  | some found => exact beq_iff_eq.mp (List.find?_some hfind :)

/-- The symbol is told by the number of the table and by the spelling. -/
@[simp] theorem intern_fst : (interners.intern table spelling).1 = ⟨table, spelling⟩ := by
  show (⟨(interners.get table).table, spelling⟩ : Symbol) = ⟨table, spelling⟩
  rw [table_get]

theorem get_set (interner : Interner) (other : Nat) :
    (interners.set interner).get other
      = if other = interner.table then interner else interners.get other := by
  rw [get, set, List.find?_cons]
  by_cases h : other = interner.table
  · simp [h]
  · have hother : (interner.table == other) = false := beq_false_of_ne (Ne.symm h)
    -- Only entries of the table that is replaced are dropped, and those are not looked for.
    have hkept : (fun (entry : Interner) =>
        decide ((entry.table != interner.table) = true ∧ (entry.table == other) = true))
          = fun entry => entry.table == other := by
      funext entry
      by_cases hentry : entry.table = other
      · simp [hentry, h]
      · simp [hentry]
    rw [if_neg h, hother, List.find?_filter, hkept]
    rfl

/-- The table that is asked meets the spelling, and the others stay as they are. -/
theorem get_intern (other : Nat) :
    (interners.intern table spelling).2.get other
      = if other = table then (interners.get other).meet spelling else interners.get other := by
  have hintern : (interners.intern table spelling).2
      = interners.set ((interners.get table).meet spelling) := rfl
  rw [hintern, get_set, Interner.table_meet, table_get]
  split
  · next h => rw [h]
  · rfl

end Interners

namespace Shared

/-! ## Calls -/

/-- A call: a table is asked for its symbol of a text. -/
structure Call where
  /-- The number of the table. -/
  table : Nat
  /-- The text. -/
  text : String
  deriving DecidableEq, Repr

/-- The symbol of the text, told by the number of the table and by the spelling. -/
def Call.symbol (call : Call) : Symbol :=
  ⟨call.table, call.text⟩

namespace Tables

variable (allocator : Allocator)

/-- What a call is answered. -/
def answer (tables : Tables) (call : Call) : Handle :=
  (tables.intern allocator call.table call.text).1

/-- The tables behind a call. -/
def behindCall (tables : Tables) (call : Call) : Tables :=
  (tables.intern allocator call.table call.text).2

/-- The tables behind some calls, the earliest first. -/
def after (tables : Tables) (calls : List Call) : Tables :=
  calls.foldl (behindCall allocator) tables

/-- Some calls, each with what it is answered. -/
def answers (tables : Tables) : List Call → List (Call × Handle)
  | [] => []
  | call :: calls =>
      (call, tables.answer allocator call) :: (tables.behindCall allocator call).answers calls

theorem after_append (tables : Tables) (calls more : List Call) :
    tables.after allocator (calls ++ more)
      = (tables.after allocator calls).after allocator more :=
  List.foldl_append

theorem after_concat (tables : Tables) (calls : List Call) (call : Call) :
    tables.after allocator (calls ++ [call])
      = ((tables.after allocator calls).intern allocator call.table call.text).2 :=
  after_append allocator tables calls [call]

theorem map_fst_answers (tables : Tables) (calls : List Call) :
    (tables.answers allocator calls).map Prod.fst = calls := by
  induction calls generalizing tables with
  | nil => rfl
  | cons call calls ih => rw [answers, List.map_cons, ih]

variable {tables : Tables}

theorem Sound.after (h : tables.Sound) (calls : List Call) :
    (tables.after allocator calls).Sound := by
  induction calls generalizing tables with
  | nil => exact h
  | cons call calls ih => exact ih (h.intern allocator call.table call.text)

/-- What is held stands for the same symbol behind all calls. -/
theorem StandsFor.after {handle : Handle} {symbol : Symbol} (h : tables.StandsFor handle symbol)
    (calls : List Call) : (tables.after allocator calls).StandsFor handle symbol := by
  induction calls generalizing tables with
  | nil => exact h
  | cons call calls ih => exact ih (h.intern allocator call.table call.text)

/-- Behind some calls, all that they were answered stands for what they asked for. -/
theorem standsFor_answers (tables : Tables) (calls : List Call) :
    ∀ answered ∈ tables.answers allocator calls,
      (tables.after allocator calls).StandsFor answered.2 answered.1.symbol := by
  induction calls generalizing tables with
  | nil => exact List.forall_mem_nil _
  | cons call calls ih =>
      refine List.forall_mem_cons.mpr ⟨?_, ih (tables.behindCall allocator call)⟩
      have hfirst := tables.standsFor_intern allocator call.table call.text
      exact hfirst.after allocator calls

/-! ## The spellings of a table -/

/-- A table has met the texts that it was asked for. -/
theorem mem_spellings_after (calls : List Call) (number : Nat) (text : String) :
    text ∈ ((empty.after allocator calls).view number).spellings ↔ ⟨number, text⟩ ∈ calls := by
  induction calls using List.reverseRecOn with
  | nil => exact iff_of_false List.not_mem_nil List.not_mem_nil
  | append_singleton calls call ih =>
      obtain ⟨table, asked⟩ := call
      have hsound := sound_empty.after allocator calls
      rw [after_concat, hsound.view_intern, List.mem_append, List.mem_singleton, Call.mk.injEq,
        ← ih]
      by_cases hnumber : number = table
      · rw [if_pos hnumber, Interner.mem_spellings_meet]
        simp [hnumber, or_comm]
      · simp [hnumber]

/-- The size of a table counts the texts that it was asked for. -/
theorem size_after (calls : List Call) (number : Nat) :
    (empty.after allocator calls).size number = {text | ⟨number, text⟩ ∈ calls}.ncard := by
  have hsound := sound_empty.after allocator calls
  have htexts : {text | ⟨number, text⟩ ∈ calls}
      = (((empty.after allocator calls).view number).spellings.toFinset : Set String) := by
    ext text
    simp [mem_spellings_after]
  rw [htexts, Set.ncard_coe_finset, List.toFinset_card_of_nodup (hsound.nodup_spellings number),
    ← hsound.size_view]
  rfl

end Tables

/-- The same calls to tables that keep spellings instead of addresses. -/
def told (calls : List Call) : Interners :=
  calls.foldl (fun interners call => (interners.intern call.table call.text).2) []

/-- Their tables are those that the shared tables are seen as. -/
theorem get_told (allocator : Allocator) (calls : List Call) (number : Nat) :
    (told calls).get number = (Tables.empty.after allocator calls).view number := by
  induction calls using List.reverseRecOn with
  | nil => rfl
  | append_singleton calls call ih =>
      have hsound := Tables.sound_empty.after allocator calls
      have htold : told (calls ++ [call]) = ((told calls).intern call.table call.text).2 := by
        rw [told, List.foldl_append]
        rfl
      rw [htold, Interners.get_intern, ih, Tables.after_concat]
      exact (hsound.view_intern allocator call.table call.text number).symm

/-! ## Identity -/

/-- What is promised of the symbols that some calls are answered, and of the tables behind them. -/
structure Identity (allocator : Allocator) (calls : List Call) : Prop where
  /-- Every call is answered. -/
  answered : (Tables.empty.answers allocator calls).map Prod.fst = calls
  /-- Two symbols are the same just if one table handed them out for one text. -/
  same_iff : ∀ first ∈ Tables.empty.answers allocator calls,
    ∀ second ∈ Tables.empty.answers allocator calls,
      first.2 = second.2 ↔ first.1.table = second.1.table ∧ first.1.text = second.1.text
  /-- The name of a symbol is the text that it was handed out for, behind all later calls too. -/
  name_eq : ∀ more, ∀ answered ∈ Tables.empty.answers allocator calls,
    (Tables.empty.after allocator (calls ++ more)).name? answered.2 = some answered.1.text
  /-- The size of a table is the number of different texts that it was asked for. -/
  size_eq : ∀ number, (Tables.empty.after allocator calls).size number
    = {text | ⟨number, text⟩ ∈ calls}.ncard
  /-- Tables that keep spellings tell the symbols apart in the same way. -/
  told_iff : ∀ first ∈ Tables.empty.answers allocator calls,
    ∀ second ∈ Tables.empty.answers allocator calls,
      first.2 = second.2 ↔ ((told calls).intern first.1.table first.1.text).1
        = ((told calls).intern second.1.table second.1.text).1
  /-- They are of the same sizes. -/
  size_told : ∀ number,
    ((told calls).get number).size = (Tables.empty.after allocator calls).size number

/-- Whatever calls are made to whatever tables, and wherever the spellings are written, the promise
is kept. -/
theorem symbol_identity (allocator : Allocator) (calls : List Call) :
    Identity allocator calls := by
  have hsound := Tables.sound_empty.after allocator calls
  have hstands := Tables.empty.standsFor_answers allocator calls
  -- All symbols are compared behind the last call, where each still stands for what was asked.
  have hsame : ∀ first ∈ Tables.empty.answers allocator calls,
      ∀ second ∈ Tables.empty.answers allocator calls,
        first.2 = second.2 ↔ first.1.symbol = second.1.symbol :=
    fun first hfirst second hsecond => hsound.eq_iff (hstands first hfirst) (hstands second hsecond)
  constructor
  case answered => exact Tables.map_fst_answers allocator Tables.empty calls
  case same_iff =>
    intro first hfirst second hsecond
    rw [hsame first hfirst second hsecond, Call.symbol, Call.symbol, Symbol.mk.injEq]
  case name_eq =>
    intro more answered hanswered
    have hlater := (hstands answered hanswered).after allocator more
    rw [Tables.after_append]
    exact hlater.2
  case size_eq => exact Tables.size_after allocator calls
  case told_iff =>
    intro first hfirst second hsecond
    rw [Interners.intern_fst, Interners.intern_fst]
    exact hsame first hfirst second hsecond
  case size_told =>
    intro number
    rw [get_told allocator]
    exact hsound.size_view number

/-- Two tables are asked for `x`, and the first one again: it hands out the same symbol as before,
and the other table another one, with the same name. -/
theorem symbol_identity_two_tables :
    let calls : List Call := [⟨0, "x"⟩, ⟨1, "x"⟩, ⟨0, "x"⟩, ⟨0, "y"⟩]
    Tables.empty.answers .ascending calls
        = [(⟨0, "x"⟩, ⟨0⟩), (⟨1, "x"⟩, ⟨1⟩), (⟨0, "x"⟩, ⟨0⟩), (⟨0, "y"⟩, ⟨2⟩)]
      ∧ (∀ more, (Tables.empty.after .ascending (calls ++ more)).name? ⟨1⟩ = some "x")
      ∧ {text | (⟨0, text⟩ : Call) ∈ calls}.ncard = 2
      ∧ ((told calls).get 0).size = 2 := by
  intro calls
  have hanswers : Tables.empty.answers .ascending calls
      = [(⟨0, "x"⟩, ⟨0⟩), (⟨1, "x"⟩, ⟨1⟩), (⟨0, "x"⟩, ⟨0⟩), (⟨0, "y"⟩, ⟨2⟩)] := by decide
  have hsize : (Tables.empty.after .ascending calls).size 0 = 2 := by decide
  have hidentity := symbol_identity .ascending calls
  have hsecond : ((⟨1, "x"⟩, ⟨1⟩) : Call × Handle) ∈ Tables.empty.answers .ascending calls := by
    rw [hanswers]
    decide
  refine ⟨hanswers, fun more => hidentity.name_eq more _ hsecond, ?_, ?_⟩
  · rw [← hidentity.size_eq, hsize]
  · rw [hidentity.size_told, hsize]

end Shared

end StackLang
