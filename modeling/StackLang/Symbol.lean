/-! # Symbols

Names are compared as symbols. A symbol belongs to the table that handed it out: two tables never
hand out the same symbol, not even for the same spelling, and one table hands out one symbol for
each spelling.

* `Symbol` — a spelling together with the number of its table.
* `Interner` — one table and the spellings it has met.
* `Interners` — any number of tables. -/

namespace StackLang

/-- A name, as one table knows it. -/
structure Symbol where
  /-- The table that handed the symbol out. -/
  table : Nat
  /-- The spelling. -/
  name : String
  deriving DecidableEq, Repr, Inhabited

/-- A table of spellings, in the order in which they were first met. -/
structure Interner where
  /-- The number of the table. -/
  table : Nat
  /-- The spellings met so far, the latest first and none of them twice. -/
  spellings : List String
  deriving DecidableEq, Repr

namespace Interner

/-- A table that has met no spelling. -/
def empty (table : Nat) : Interner := ⟨table, []⟩

/-- The table after it has met a spelling. -/
def meet (interner : Interner) (spelling : String) : Interner :=
  if spelling ∈ interner.spellings then interner
  else { interner with spellings := spelling :: interner.spellings }

/-- The symbol of a spelling, and the table that has met it. -/
def intern (interner : Interner) (spelling : String) : Symbol × Interner :=
  (⟨interner.table, spelling⟩, interner.meet spelling)

/-- How many different spellings the table has met. -/
def size (interner : Interner) : Nat :=
  interner.spellings.length

@[simp] theorem table_meet (interner : Interner) (spelling : String) :
    (interner.meet spelling).table = interner.table := by
  unfold meet; split <;> rfl

/-- Meeting a spelling adds it to those met before. -/
@[simp] theorem mem_spellings_meet (interner : Interner) (spelling other : String) :
    other ∈ (interner.meet spelling).spellings ↔ other = spelling ∨ other ∈ interner.spellings := by
  unfold meet
  split
  · next known => exact ⟨.inr, fun either => either.elim (fun same => same ▸ known) id⟩
  · simp

end Interner

/-- Any number of tables, each with its own number. A table not listed has met no spelling. -/
abbrev Interners := List Interner

namespace Interners

/-- The table with a given number. -/
def get (interners : Interners) (table : Nat) : Interner :=
  (interners.find? fun interner => interner.table == table).getD (Interner.empty table)

/-- Replace the table with the number of the given one. -/
def set (interners : Interners) (interner : Interner) : Interners :=
  interner :: interners.filter fun other => other.table != interner.table

/-- The symbol that the table of the given number has for a spelling, and the tables afterwards. -/
def intern (interners : Interners) (table : Nat) (spelling : String) : Symbol × Interners :=
  let (symbol, interner) := (interners.get table).intern spelling
  (symbol, interners.set interner)

end Interners

end StackLang
