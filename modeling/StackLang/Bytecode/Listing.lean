import StackLang.Bytecode.CodeUnit
import StackLang.Text.Aligned

/-! # Listings

The code of a unit as text, one line for each instruction. A byte that stands for no instruction has
a line of its own, and the listing goes on at the next byte.

* `Listing.Entry` — what one line shows.
* `Listing.entriesFrom` — the lines from an offset on.
* `CodeUnit.listing` — the whole listing as text. -/

namespace StackLang.Bytecode

namespace Listing

/-- What one line of a listing shows. -/
structure Entry where
  /-- The offset of the instruction. -/
  offset : Nat
  /-- The instruction, or why there is none. -/
  content : Except DecodeError Instruction

/-- The line for an offset, and the offset of the next line. -/
def entryAt (code : Array UInt8) (offset : Nat) : Entry × Nat :=
  match decodeAt code offset with
  | .ok (instruction, next) => (⟨offset, .ok instruction⟩, next)
  | .error error => (⟨offset, .error error⟩, offset + 1)

/-- Lines go forward. -/
theorem lt_entryAt (code : Array UInt8) (offset : Nat) : offset < (entryAt code offset).2 := by
  unfold entryAt
  split
  · next decoded => exact (bounds_of_decodeAt decoded).1
  · exact Nat.lt_succ_self _

/-- The lines from an offset on. -/
def entriesFrom (code : Array UInt8) (offset : Nat) : List Entry :=
  if offset < code.size then
    (entryAt code offset).1 :: entriesFrom code (entryAt code offset).2
  else []
termination_by code.size - offset
decreasing_by
  have forward := lt_entryAt code offset
  omega

/-- An offset in a listing: four digits or more. -/
def offsetText (offset : Nat) : String :=
  String.ofList ((Nat.toDigits 10 offset).leftpad 4 '0')

/-- An instruction in a listing: its name, its operand, and the constant that the operand refers
to. -/
def instructionText (constants : Pool) (instruction : Instruction) : String :=
  let name := Text.leftAligned 20 instruction.name
  let number (operand : UInt8) := Text.rightAligned 4 (toString operand.toNat)
  let constant (index : UInt8) := (constants[index.toNat]?.map Value.toText).getD "??"
  match instruction with
  | .constant index => name ++ " " ++ number index ++ " '" ++ constant index ++ "'"
  | .loadGlobal index => name ++ " " ++ number index ++ " '" ++ constant index ++ "'"
  | .loadLocal operand => name ++ " " ++ number operand
  | .call operand => name ++ " " ++ number operand
  | other => other.name

/-- A line of a listing, without a newline. -/
def Entry.text (constants : Pool) (entry : Entry) : String :=
  offsetText entry.offset ++ " " ++
    match entry.content with
    | .ok instruction => instructionText constants instruction
    | .error error => "<" ++ error.message ++ ">"

end Listing

namespace CodeUnit

/-- The line for an offset of a unit, without a newline. -/
def lineAt (unit : CodeUnit) (offset : Nat) : String :=
  (Listing.entryAt unit.code offset).1.text unit.constants

/-- The listing of a unit: a line with its name, and a line for each instruction. -/
def listing (unit : CodeUnit) : String :=
  let lines := (Listing.entriesFrom unit.code 0).map fun entry => entry.text unit.constants ++ "\n"
  "== " ++ unit.displayName ++ " ==\n" ++ String.join lines

end CodeUnit

end StackLang.Bytecode
