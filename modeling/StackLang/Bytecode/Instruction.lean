/-! # Instructions and their bytes

An instruction is written as the byte of its opcode and, for four of the opcodes, one operand byte.

* `Opcode` — the twelve opcodes, numbered from zero.
* `Instruction` — an opcode with its operand.
* `Instruction.encode` — the bytes of an instruction.
* `decodeAt` — the instruction at an offset, and the offset behind it.
* `DecodeError` — why there is no instruction at an offset. -/

namespace StackLang.Bytecode

/-- What an instruction does. -/
inductive Opcode where
  /-- Push a constant. -/
  | constant
  /-- Add two numbers. -/
  | add
  /-- Multiply two numbers. -/
  | multiply
  /-- Subtract two numbers. -/
  | subtract
  /-- Divide two numbers. -/
  | divide
  /-- Push a local. -/
  | loadLocal
  /-- Push a reference to a global function. -/
  | loadGlobal
  /-- Drop a value. -/
  | pop
  /-- Call a function. -/
  | call
  /-- Stop. -/
  | halt
  /-- Leave a function without a value. -/
  | returnVoid
  /-- Leave a function with a value. -/
  | returnValue
  deriving DecidableEq, Repr

namespace Opcode

/-- The opcodes in the order of their bytes. -/
def all : List Opcode :=
  [.constant, .add, .multiply, .subtract, .divide, .loadLocal, .loadGlobal, .pop, .call, .halt,
   .returnVoid, .returnValue]

/-- The byte of an opcode. -/
def toByte : Opcode → UInt8
  | .constant => 0
  | .add => 1
  | .multiply => 2
  | .subtract => 3
  | .divide => 4
  | .loadLocal => 5
  | .loadGlobal => 6
  | .pop => 7
  | .call => 8
  | .halt => 9
  | .returnVoid => 10
  | .returnValue => 11

/-- The opcode of a byte. -/
def ofByte? (byte : UInt8) : Option Opcode :=
  all[byte.toNat]?

/-- The byte of an opcode stands for it. -/
@[simp] theorem ofByte?_toByte (opcode : Opcode) : ofByte? opcode.toByte = some opcode := by
  cases opcode <;> rfl

/-- Only the byte of an opcode stands for it. -/
theorem toByte_of_ofByte? {byte : UInt8} {opcode : Opcode} (read : ofByte? byte = some opcode) :
    opcode.toByte = byte := by
  obtain ⟨inside, found⟩ := List.getElem?_eq_some_iff.mp read
  have small : byte.toNat < 12 := inside
  apply UInt8.toNat_inj.mp
  rw [← found]
  generalize byte.toNat = number at small inside
  match number, small with
  | 0, _ | 1, _ | 2, _ | 3, _ | 4, _ | 5, _ | 6, _ | 7, _ | 8, _ | 9, _ | 10, _ | 11, _ => rfl

end Opcode

/-- An opcode together with its operand. -/
inductive Instruction where
  /-- Push the constant at an index of the pool. -/
  | constant (index : UInt8)
  /-- Add the two topmost numbers. -/
  | add
  /-- Multiply the two topmost numbers. -/
  | multiply
  /-- Subtract the topmost number from the one below it. -/
  | subtract
  /-- Divide the number below the top by the topmost one. -/
  | divide
  /-- Push the value of a local slot. -/
  | loadLocal (slot : UInt8)
  /-- Push the function reference at an index of the pool. -/
  | loadGlobal (index : UInt8)
  /-- Drop the topmost value. -/
  | pop
  /-- Call the topmost value with the given number of arguments, which lie below it. -/
  | call (count : UInt8)
  /-- Stop with the topmost value. -/
  | halt
  /-- Leave the function without a value. -/
  | returnVoid
  /-- Leave the function with the topmost value. -/
  | returnValue
  deriving DecidableEq, Repr

namespace Instruction

/-- The opcode of an instruction. -/
def opcode : Instruction → Opcode
  | .constant _ => .constant
  | .add => .add
  | .multiply => .multiply
  | .subtract => .subtract
  | .divide => .divide
  | .loadLocal _ => .loadLocal
  | .loadGlobal _ => .loadGlobal
  | .pop => .pop
  | .call _ => .call
  | .halt => .halt
  | .returnVoid => .returnVoid
  | .returnValue => .returnValue

/-- The operand of an instruction. -/
def operand? : Instruction → Option UInt8
  | .constant index => some index
  | .loadLocal slot => some slot
  | .loadGlobal index => some index
  | .call count => some count
  | _ => none

/-- The name of an instruction in a listing. -/
def name : Instruction → String
  | .constant _ => "const"
  | .add => "add"
  | .multiply => "mul"
  | .subtract => "sub"
  | .divide => "div"
  | .loadLocal _ => "load-local"
  | .loadGlobal _ => "load-global-constant"
  | .pop => "pop"
  | .call _ => "call"
  | .halt => "halt"
  | .returnVoid => "return-void"
  | .returnValue => "return-with-value"

/-- An instruction as text: its name and its operand. -/
def toText (instruction : Instruction) : String :=
  let name := instruction.name
  match instruction.operand? with
  | some operand => s!"{name} {operand.toNat}"
  | none => name

/-- The bytes of an instruction. -/
def encode (instruction : Instruction) : List UInt8 :=
  instruction.opcode.toByte :: instruction.operand?.toList

/-- The bytes of several instructions, one after the other. -/
def encodeAll (instructions : List Instruction) : List UInt8 :=
  instructions.flatMap encode

end Instruction

/-- What an opcode needs to make an instruction. -/
inductive Form where
  /-- Nothing more. -/
  | plain (instruction : Instruction)
  /-- An operand byte. -/
  | withOperand (build : UInt8 → Instruction)

/-- The form of the instructions of an opcode. -/
def Opcode.form : Opcode → Form
  | .constant => .withOperand .constant
  | .add => .plain .add
  | .multiply => .plain .multiply
  | .subtract => .plain .subtract
  | .divide => .plain .divide
  | .loadLocal => .withOperand .loadLocal
  | .loadGlobal => .withOperand .loadGlobal
  | .pop => .plain .pop
  | .call => .withOperand .call
  | .halt => .plain .halt
  | .returnVoid => .plain .returnVoid
  | .returnValue => .plain .returnValue

/-- Why there is no instruction at an offset. -/
inductive DecodeError where
  /-- The byte there stands for no opcode. -/
  | invalidOpcode (byte : UInt8)
  /-- The code ends before the operand. -/
  | truncated (offset : Nat)
  /-- The code ends before the offset. -/
  | outOfBounds (offset : Nat)
  deriving DecidableEq, Repr

/-- The message for a byte that stands for no opcode. -/
def invalidOpcodeMessage (byte : UInt8) : String :=
  s!"Invalid byte {byte.toNat} found when expecting OpCode value between 0 and 12"

/-- The message of a decoding error. -/
def DecodeError.message : DecodeError → String
  | .invalidOpcode byte => invalidOpcodeMessage byte
  | .truncated offset => s!"Instruction at offset {offset} is missing its operand byte"
  | .outOfBounds offset => s!"Offset {offset} is past the end of the bytecode"

/-- The instruction at an offset, and the offset of the instruction behind it. -/
def decodeAt (code : Array UInt8) (offset : Nat) : Except DecodeError (Instruction × Nat) :=
  match code[offset]? with
  | none => .error (.outOfBounds offset)
  | some byte =>
    match Opcode.ofByte? byte with
    | none => .error (.invalidOpcode byte)
    | some opcode =>
      match opcode.form with
      | .plain instruction => .ok (instruction, offset + 1)
      | .withOperand build =>
        match code[offset + 1]? with
        | none => .error (.truncated offset)
        | some operand => .ok (build operand, offset + 2)

/-- An instruction lies inside the code, and the next one lies behind it. -/
theorem bounds_of_decodeAt {code : Array UInt8} {offset next : Nat} {instruction : Instruction}
    (decoded : decodeAt code offset = .ok (instruction, next)) :
    offset < next ∧ next ≤ code.size := by
  unfold decodeAt at decoded
  split at decoded
  · cases decoded
  · next byte present =>
      have inside := (Array.getElem?_eq_some_iff.mp present).1
      split at decoded
      · cases decoded
      · split at decoded
        · cases decoded
          exact ⟨Nat.lt_succ_self _, inside⟩
        · split at decoded
          · cases decoded
          · next operand behind =>
              have operandInside := (Array.getElem?_eq_some_iff.mp behind).1
              cases decoded
              exact ⟨by omega, operandInside⟩

end StackLang.Bytecode
