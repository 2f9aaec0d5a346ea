import StackLang.Bytecode.CodeUnit

/-! # The table of globals

The table owns every function. A name gets a slot when it is first declared, in the order of
declaration, and keeps it for good. It resolves once it is declared, whether or not it has been
given a unit of code yet; a name without a unit may be withdrawn, and then does not resolve until it
is declared again.

* `Globals` — the table.
* `Globals.declare`, `Globals.define`, `Globals.withdraw` — the operations on it.
* `Globals.resolve?`, `Globals.find?`, `Globals.unit?` — what it tells: the slot of a symbol, the
  slot of a spelling, the unit in a slot. -/

namespace StackLang

open Bytecode (CodeUnit)

/-- How far a global has come. -/
inductive Global.Status where
  /-- It was declared and withdrawn: it does not resolve. -/
  | withdrawn
  /-- It resolves, and has no unit. -/
  | declared
  /-- It resolves, and has a unit. -/
  | defined (unit : CodeUnit)
  deriving DecidableEq, Repr

/-- Whether a global with this status resolves. -/
def Global.Status.isLive : Global.Status → Bool
  | .withdrawn => false
  | _ => true

/-- The unit of a global with this status. -/
def Global.Status.unit? : Global.Status → Option CodeUnit
  | .defined unit => some unit
  | _ => none

/-- A global: its name and how far it has come. -/
structure Global where
  /-- The name. -/
  name : Symbol
  /-- How far it has come. -/
  status : Global.Status
  deriving DecidableEq, Repr

/-- The table of globals, by their slots. -/
structure Globals where
  /-- The globals in the order in which they were first declared. -/
  entries : Array Global
  deriving DecidableEq, Repr

namespace Globals

/-- The table without globals. -/
def empty : Globals := ⟨#[]⟩

/-- The slot of a name that was ever declared. -/
def slot? (globals : Globals) (name : Symbol) : Option Nat :=
  globals.entries.findIdx? fun entry => entry.name = name

/-- The global in a slot. -/
def global? (globals : Globals) (slot : Nat) : Option Global :=
  globals.entries[slot]?

/-- The slot of a name that resolves. -/
def resolve? (globals : Globals) (name : Symbol) : Option Nat :=
  globals.entries.findIdx? fun entry => entry.name = name && entry.status.isLive

/-- The slot of the first name that resolves and is spelled so, whatever table it belongs to. -/
def find? (globals : Globals) (spelling : String) : Option Nat :=
  globals.entries.findIdx? fun entry => entry.name.name = spelling && entry.status.isLive

/-- The unit in a slot. -/
def unit? (globals : Globals) (slot : Nat) : Option CodeUnit :=
  (globals.global? slot).bind fun entry => entry.status.unit?

/-- How many names resolve. -/
def size (globals : Globals) : Nat :=
  globals.entries.countP fun entry => entry.status.isLive

/-- Change the status of the global in a slot. -/
def setStatus (globals : Globals) (slot : Nat) (status : Global.Status) : Globals :=
  ⟨globals.entries.modify slot fun entry => { entry with status }⟩

/-- Declare a name: it resolves afterwards, in the slot it ever had or else in a new one. -/
def declare (globals : Globals) (name : Symbol) : Nat × Globals :=
  match globals.slot? name with
  | some slot =>
      match (globals.global? slot).map Global.status with
      | some .withdrawn => (slot, globals.setStatus slot .declared)
      | _ => (slot, globals)
  | none => (globals.entries.size, ⟨globals.entries.push ⟨name, .declared⟩⟩)

/-- Give a name a unit, in place of any earlier one, and declare it if need be. -/
def define (globals : Globals) (name : Symbol) (unit : CodeUnit) : Nat × Globals :=
  let (slot, declared) := globals.declare name
  (slot, declared.setStatus slot (.defined unit))

/-- Withdraw a name that resolves and has no unit; nothing else is withdrawn. -/
def withdraw? (globals : Globals) (name : Symbol) : Option Globals :=
  (globals.resolve? name).bind fun slot =>
    match (globals.global? slot).map Global.status with
    | some .declared => some (globals.setStatus slot .withdrawn)
    | _ => none

end Globals

end StackLang
