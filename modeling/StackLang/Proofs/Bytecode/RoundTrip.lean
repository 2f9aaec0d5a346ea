import Mathlib.Data.Set.List
import StackLang.Proofs.Bytecode.Decoding

/-! # Instructions and bytes, both ways

Instructions have operands of every value, so bytes that are operands may look like opcodes, or like
bytes that stand for none. Reading code from its start still tells which bytes are which.

* `CodeUnit.addInstruction` — append the bytes of an instruction to the code of a unit.
* `encode_of_decodeAt` — an instruction that is decoded stands there with its bytes.
* `encodeAll_of_instructionsFrom` — so do all instructions, if every byte belongs to one.
* `CodeUnit.instructions_roundtrip` — instructions that are appended are read again, and what is
  read without error is the code when it is appended again. -/

namespace StackLang.Bytecode

open Instruction (encodeAll)

/-! ## Appending instructions -/

namespace CodeUnit

/-- The unit without its code. -/
def withoutCode (unit : CodeUnit) : CodeUnit :=
  { unit with code := #[] }

/-- Append a byte to the code of a unit. -/
def addByte (unit : CodeUnit) (byte : UInt8) : CodeUnit :=
  { unit with code := unit.code.push byte }

/-- Append the byte of the opcode of an instruction, and the operand if there is one. -/
def addInstruction (unit : CodeUnit) (instruction : Instruction) : CodeUnit :=
  instruction.operand?.toList.foldl addByte (unit.addByte instruction.opcode.toByte)

/-- Append instructions one after the other. -/
def addInstructions (unit : CodeUnit) (instructions : List Instruction) : CodeUnit :=
  instructions.foldl addInstruction unit

/-- What is appended of an instruction are its bytes. -/
theorem addInstruction_eq (unit : CodeUnit) (instruction : Instruction) :
    unit.addInstruction instruction
      = { unit with code := unit.code ++ instruction.encode.toArray } := by
  rw [addInstruction, Instruction.encode]
  cases instruction.operand? with
  | none => rfl
  | some operand => rfl

/-- What is appended of instructions are their bytes. -/
theorem addInstructions_eq (unit : CodeUnit) (instructions : List Instruction) :
    unit.addInstructions instructions
      = { unit with code := unit.code ++ (encodeAll instructions).toArray } := by
  induction instructions generalizing unit with
  | nil => simp [addInstructions]
  | cons instruction others ih =>
      have hothers := ih (unit.addInstruction instruction)
      rw [addInstructions] at hothers ⊢
      rw [List.foldl_cons, hothers, addInstruction_eq, encodeAll_cons]
      simp

end CodeUnit

/-! ## Bytes of decoded instructions -/

/-- An instruction without an operand is written as its opcode. -/
theorem Opcode.encode_plain {opcode : Opcode} {instruction : Instruction}
    (h : opcode.form = .plain instruction) : instruction.encode = [opcode.toByte] := by
  cases opcode <;> cases h <;> rfl

/-- An instruction with an operand is written as its opcode and the operand. -/
theorem Opcode.encode_withOperand {opcode : Opcode} {build : UInt8 → Instruction}
    (h : opcode.form = .withOperand build) (operand : UInt8) :
    (build operand).encode = [opcode.toByte, operand] := by
  cases opcode <;> cases h <;> rfl

/-- The code from an offset on starts with the byte there. -/
theorem drop_of_getElem? {code : Array UInt8} {offset : Nat} {byte : UInt8}
    (h : code[offset]? = some byte) :
    code.toList.drop offset = byte :: code.toList.drop (offset + 1) := by
  obtain ⟨hinside, hbyte⟩ := Array.getElem?_eq_some_iff.mp h
  rw [List.drop_eq_getElem_cons (by simpa using hinside), Array.getElem_toList, hbyte]

/-- An instruction that is decoded stands there with its bytes, and the code goes on behind it. -/
theorem encode_of_decodeAt {code : Array UInt8} {offset next : Nat} {instruction : Instruction}
    (h : decodeAt code offset = .ok (instruction, next)) :
    code.toList.drop offset = instruction.encode ++ code.toList.drop next := by
  rw [decodeAt] at h
  split at h
  · cases h
  · next byte hbyte =>
      rw [drop_of_getElem? hbyte]
      split at h
      · cases h
      · next opcode hopcode =>
          rw [← Opcode.toByte_of_ofByte? hopcode]
          split at h
          · next hform =>
              cases h
              rw [Opcode.encode_plain hform]
              rfl
          · next build hform =>
              split at h
              · cases h
              · next operand hoperand =>
                  cases h
                  rw [drop_of_getElem? hoperand, Opcode.encode_withOperand hform]
                  rfl

/-- Instructions that are read without error, up to the end, are all that the code consists of. -/
theorem encodeAll_of_instructionsFrom {code : Array UInt8} {offset : Nat}
    {instructions : List Instruction}
    (h : instructionsFrom code offset = instructions.map .ok) :
    code.toList.drop offset = encodeAll instructions := by
  induction instructions generalizing offset with
  | nil =>
      rw [instructionsFrom] at h
      by_cases hinside : offset < code.size
      · rw [dif_pos hinside] at h
        split at h <;> cases h
      · exact List.drop_eq_nil_of_le (by simpa using hinside)
  | cons instruction others ih =>
      rw [instructionsFrom] at h
      by_cases hinside : offset < code.size
      · rw [dif_pos hinside] at h
        split at h
        · next found next hdecoded =>
            obtain ⟨hsame, hothers⟩ := List.cons.inj h
            cases hsame
            rw [encode_of_decodeAt hdecoded, ih hothers, encodeAll_cons]
        · next error hdecoded =>
            cases h
      · rw [dif_neg hinside] at h
        cases h

/-! ## There and back -/

/-- Instructions with any operands that are appended to a unit without code are read again, without
error. If the code of a unit is read without error, it consists of the bytes of what is read. -/
theorem CodeUnit.instructions_roundtrip (unit : CodeUnit) :
    (∀ instructions, (unit.withoutCode.addInstructions instructions).instructions
        = instructions.map .ok)
      ∧ ((∀ read ∈ unit.instructions, ∃ instruction, read = .ok instruction) →
        ∃ instructions, unit.instructions = instructions.map .ok
          ∧ unit.withoutCode.addInstructions instructions = unit) := by
  constructor
  · intro instructions
    refine instructions_eq ?_
    rw [addInstructions_eq, withoutCode]
    exact Array.empty_append
  · intro hread
    -- What is read without error is a list of instructions.
    have hrange :
        unit.instructions ∈ Set.range (List.map (@Except.ok DecodeError Instruction)) := by
      rw [Set.range_list_map]
      intro read hmem
      obtain ⟨instruction, rfl⟩ := hread read hmem
      exact ⟨instruction, rfl⟩
    obtain ⟨instructions, hinstructions⟩ := hrange
    refine ⟨instructions, hinstructions.symm, ?_⟩
    have hcode : unit.code.toList = encodeAll instructions :=
      encodeAll_of_instructionsFrom hinstructions.symm
    rw [addInstructions_eq, withoutCode, ← hcode, Array.toArray_toList]
    simp

/-- An operand that looks like a byte that stands for no opcode, and one that looks like an
opcode. -/
theorem CodeUnit.instructions_roundtrip_operands :
    let unit : CodeUnit := ⟨none, 0, #[0, 12, 8, 0, 1], #[]⟩
    unit.instructions = [.ok (.constant 12), .ok (.call 0), .ok .add]
      ∧ (unit.withoutCode.addInstructions [.constant 12, .call 0, .add]).instructions
        = [.ok (.constant 12), .ok (.call 0), .ok .add]
      ∧ ∃ instructions, unit.instructions = instructions.map .ok
        ∧ unit.withoutCode.addInstructions instructions = unit := by
  intro unit
  have hread : unit.instructions = [.ok (.constant 12), .ok (.call 0), .ok .add] := by cbv
  obtain ⟨hthere, hback⟩ := instructions_roundtrip unit
  refine ⟨hread, hthere [.constant 12, .call 0, .add], hback ?_⟩
  rw [hread]
  simp

end StackLang.Bytecode
