import StackLang.Bytecode.Instruction
import StackLang.Value

/-! # Units of code

A unit is the code of one function, or of one expression or statement that stands alone, with the
constants that the code refers to.

* `CodeUnit` — a unit.
* `Pool.add?` — give a constant an index, as long as one byte can hold it.
* `CodeUnit.instructions` — the instructions of the code, up to the first byte that is none. -/

namespace StackLang.Bytecode

/-- The constants of a unit, by their indices. -/
abbrev Pool := Array Value

/-- How many constants one unit may have, and how many locals may be live: what one byte counts. -/
def capacity : Nat := 256

/-- The index of a further constant, and the pool with it; nothing once the pool is full. Equal
constants do not share an index. -/
def Pool.add? (pool : Pool) (value : Value) : Option (UInt8 × Pool) :=
  if pool.size < capacity then some (UInt8.ofNat pool.size, pool.push value) else none

/-- A unit of code. -/
structure CodeUnit where
  /-- The name of the function; nothing for an expression or a statement that stands alone. -/
  name : Option Symbol
  /-- The number of arguments. -/
  arity : UInt8
  /-- The bytes of the instructions. -/
  code : Array UInt8
  /-- The constants. -/
  constants : Pool
  deriving DecidableEq, Repr

namespace CodeUnit

/-- A unit that consists of the given instructions. -/
def ofInstructions (name : Option Symbol) (arity : UInt8) (instructions : List Instruction)
    (constants : Pool) : CodeUnit :=
  ⟨name, arity, (Instruction.encodeAll instructions).toArray, constants⟩

/-- The name by which messages call a unit. -/
def displayName (unit : CodeUnit) : String :=
  match unit.name with
  | some symbol => symbol.name
  | none => "<script>"

/-- The constant at an index. -/
def constant? (unit : CodeUnit) (index : UInt8) : Option Value :=
  unit.constants[index.toNat]?

/-- The instruction at an offset, and the offset of the instruction behind it. -/
def decode (unit : CodeUnit) (offset : Nat) : Except DecodeError (Instruction × Nat) :=
  decodeAt unit.code offset

end CodeUnit

/-- The instructions from an offset on, one after the other. The first offset that holds none gives
an error, with which the list ends. -/
def instructionsFrom (code : Array UInt8) (offset : Nat) : List (Except DecodeError Instruction) :=
  if _inside : offset < code.size then
    match _decoded : decodeAt code offset with
    | .ok (instruction, next) => .ok instruction :: instructionsFrom code next
    | .error error => [.error error]
  else []
termination_by code.size - offset
decreasing_by
  have bounds := bounds_of_decodeAt _decoded
  omega

/-- The instructions of a unit, one after the other. -/
def CodeUnit.instructions (unit : CodeUnit) : List (Except DecodeError Instruction) :=
  instructionsFrom unit.code 0

end StackLang.Bytecode
