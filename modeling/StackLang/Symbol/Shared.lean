import StackLang.Symbol

/-! # Shared spellings

How tables keep their spellings. A table that meets a spelling writes it to a free address of the
memory that all tables share, and hands out this address for the spelling from then on. Whoever
holds a symbol holds such an address, and two of them are compared by the addresses, with no look at
what is written there. Nothing that is written is given up, for the symbol may still be held.

* `Handle` — a symbol as it is held.
* `Allocator` — how free addresses are found.
* `Memory.write`, `Memory.read?` — the spellings in memory.
* `Table.intern` — what a table hands out for a spelling.
* `Tables` — any number of tables over one memory. -/

namespace StackLang.Shared

/-- A symbol as it is held: the address of its spelling. -/
@[ext] structure Handle where
  /-- The address. -/
  address : Nat
  deriving DecidableEq, Repr

/-! ## Free addresses -/

/-- A way to find free addresses. -/
structure Allocator where
  /-- The address for the next spelling, from those in use, the latest first. -/
  free : List Nat → Nat
  /-- It is not in use. -/
  free_notMem : ∀ used, free used ∉ used

/-- The least address above all those in use. -/
def above : List Nat → Nat
  | [] => 0
  | address :: used => max (address + 1) (above used)

theorem lt_above {address : Nat} {used : List Nat} (h : address ∈ used) : address < above used := by
  induction used with
  | nil => cases h
  | cons first used ih =>
      rw [above]
      cases h with
      | head => omega
      | tail _ h =>
          have hlt := ih h
          omega

/-- The addresses are used up one after the other. -/
def Allocator.ascending : Allocator where
  free := above
  free_notMem _ h := Nat.lt_irrefl _ (lt_above h)

/-! ## Memory -/

/-- The memory that the tables share. -/
structure Memory where
  /-- What is written, each behind its address, the latest first. -/
  cells : List (Nat × String)
  deriving DecidableEq, Repr

namespace Memory

/-- Memory to which nothing is written. -/
def empty : Memory := ⟨[]⟩

/-- The spelling that is written for a symbol. -/
def read? (memory : Memory) (handle : Handle) : Option String :=
  memory.cells.lookup handle.address

/-- Write a spelling to a free address. -/
def write (allocator : Allocator) (memory : Memory) (spelling : String) : Handle × Memory :=
  let address := allocator.free (memory.cells.map Prod.fst)
  (⟨address⟩, ⟨(address, spelling) :: memory.cells⟩)

variable (allocator : Allocator) (memory : Memory)

/-- Nothing was written where a spelling is written next. -/
@[simp] theorem read?_free (spelling : String) :
    memory.read? (memory.write allocator spelling).1 = none := by
  rw [read?, List.lookup_eq_none_iff]
  intro cell hcell
  have hused : cell.1 ∈ memory.cells.map Prod.fst := List.mem_map_of_mem hcell
  rw [bne_iff_ne]
  intro hsame
  rw [← hsame] at hused
  exact allocator.free_notMem _ hused

/-- The spelling can be read afterwards, and all else as before. -/
theorem read?_write (spelling : String) (handle : Handle) :
    (memory.write allocator spelling).2.read? handle
      = if handle = (memory.write allocator spelling).1 then some spelling
        else memory.read? handle := by
  by_cases h : handle = (memory.write allocator spelling).1
  · rw [if_pos h, h]
    exact List.lookup_cons_self
  · have haddress : handle.address ≠ allocator.free (memory.cells.map Prod.fst) :=
      fun hsame => h (Handle.ext hsame)
    rw [if_neg h, read?, write, List.lookup_cons, beq_false_of_ne haddress]
    rfl

end Memory

/-! ## Tables -/

/-- A table. -/
structure Table where
  /-- The symbols that it has handed out, the latest first and none of them twice. -/
  entries : List Handle
  deriving DecidableEq, Repr

namespace Table

/-- A table that has met no spelling. -/
def empty : Table := ⟨[]⟩

/-- The symbol of a spelling, and the memory and the table afterwards: the symbol that the table has
for it, or else one that is written now. -/
def intern (allocator : Allocator) (memory : Memory) (table : Table) (spelling : String) :
    Handle × Memory × Table :=
  match table.entries.find? fun entry => memory.read? entry = some spelling with
  | some entry => (entry, memory, table)
  | none =>
      let (handle, memory) := memory.write allocator spelling
      (handle, memory, ⟨handle :: table.entries⟩)

/-- How many symbols the table has handed out. -/
def size (table : Table) : Nat :=
  table.entries.length

end Table

/-- Any number of tables over one memory. -/
structure Tables where
  /-- The memory. -/
  memory : Memory
  /-- The tables by their numbers. -/
  table : Nat → Table

namespace Tables

/-- Tables that have met no spelling. -/
def empty : Tables := ⟨.empty, fun _ => .empty⟩

/-- The symbol that the table of the given number has for a spelling, and the tables afterwards. -/
def intern (allocator : Allocator) (tables : Tables) (number : Nat) (spelling : String) :
    Handle × Tables :=
  let (handle, memory, table) := (tables.table number).intern allocator tables.memory spelling
  (handle, ⟨memory, fun other => if other = number then table else tables.table other⟩)

/-- The name of a symbol. -/
def name? (tables : Tables) (handle : Handle) : Option String :=
  tables.memory.read? handle

/-- How many symbols the table of the given number has handed out. -/
def size (tables : Tables) (number : Nat) : Nat :=
  (tables.table number).size

end Tables

end StackLang.Shared
