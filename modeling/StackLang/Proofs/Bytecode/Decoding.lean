import StackLang.Bytecode.CodeUnit

/-! # Decoding what was encoded

Code that is made of instructions decodes to these instructions, each at the offset behind those
before it.

* `offsetBehind` — the offset behind some instructions.
* `decodeAt_offsetBehind` — the instruction at such an offset.
* `CodeUnit.instructions_eq` — all instructions of a unit.
* `encodeAll_inj`, `offsetBehind_inj` — code and offsets tell the instructions apart. -/

namespace StackLang.Bytecode

open Instruction (encodeAll)

/-- The offset behind the given instructions. -/
def offsetBehind (instructions : List Instruction) : Nat :=
  (encodeAll instructions).length

@[simp] theorem encodeAll_nil : encodeAll [] = [] := rfl

@[simp] theorem encodeAll_cons (instruction : Instruction) (others : List Instruction) :
    encodeAll (instruction :: others) = instruction.encode ++ encodeAll others := rfl

@[simp] theorem encodeAll_append (first second : List Instruction) :
    encodeAll (first ++ second) = encodeAll first ++ encodeAll second :=
  List.flatMap_append

@[simp] theorem offsetBehind_append (first second : List Instruction) :
    offsetBehind (first ++ second) = offsetBehind first + offsetBehind second := by
  rw [offsetBehind, encodeAll_append, List.length_append, offsetBehind, offsetBehind]

/-- An instruction is never empty. -/
theorem Instruction.encode_length_pos (instruction : Instruction) :
    0 < instruction.encode.length := by
  rw [Instruction.encode, List.length_cons]
  exact Nat.succ_pos _

/-- The bytes of an instruction decode to it, wherever they stand. -/
theorem decodeAt_encode (before behind : List UInt8) (instruction : Instruction) :
    decodeAt (before ++ (instruction.encode ++ behind)).toArray before.length
      = .ok (instruction, before.length + instruction.encode.length) := by
  have hopcode : (before ++ (instruction.encode ++ behind)).toArray[before.length]?
      = some instruction.opcode.toByte := by
    rw [List.getElem?_toArray, List.getElem?_append_right (Nat.le_refl _)]
    simp [Instruction.encode]
  have hoperand : ∀ operand, instruction.operand? = some operand →
      (before ++ (instruction.encode ++ behind)).toArray[before.length + 1]? = some operand := by
    intro operand hsome
    rw [List.getElem?_toArray, List.getElem?_append_right (Nat.le_succ _)]
    simp [Instruction.encode, hsome]
  unfold decodeAt
  rw [hopcode]
  cases instruction <;>
    simp_all [Instruction.opcode, Instruction.operand?, Opcode.form, Instruction.encode]

/-- Behind some instructions of a code stands the next one. -/
theorem decodeAt_offsetBehind (before behind : List Instruction) (instruction : Instruction) :
    decodeAt (encodeAll (before ++ instruction :: behind)).toArray (offsetBehind before)
      = .ok (instruction, offsetBehind (before ++ [instruction])) := by
  rw [encodeAll_append, encodeAll_cons, offsetBehind, decodeAt_encode, offsetBehind,
    encodeAll_append, encodeAll_cons, encodeAll_nil, List.append_nil, List.length_append]

/-- Behind some instructions of a code stand the others. -/
theorem instructionsFrom_offsetBehind (before behind : List Instruction) :
    instructionsFrom (encodeAll (before ++ behind)).toArray (offsetBehind before)
      = behind.map .ok := by
  induction behind generalizing before with
  | nil =>
      rw [instructionsFrom, dif_neg]
      · rfl
      · rw [List.append_nil, offsetBehind, List.size_toArray]
        exact Nat.lt_irrefl _
  | cons instruction others ih =>
      have hinside : offsetBehind before
          < (encodeAll (before ++ instruction :: others)).toArray.size := by
        have hpos := instruction.encode_length_pos
        rw [List.size_toArray, encodeAll_append, encodeAll_cons, List.length_append,
          List.length_append, offsetBehind]
        omega
      rw [instructionsFrom, dif_pos hinside]
      split
      · next found next hdecoded =>
          rw [decodeAt_offsetBehind] at hdecoded
          cases hdecoded
          have hrest := ih (before ++ [instruction])
          rw [List.append_assoc, List.singleton_append] at hrest
          rw [hrest]
          rfl
      · next error hdecoded =>
          rw [decodeAt_offsetBehind] at hdecoded
          cases hdecoded

/-! ## The instructions of a unit -/

/-- The instructions of a unit are those whose code it has. -/
theorem CodeUnit.instructions_eq {unit : CodeUnit} {instructions : List Instruction}
    (h : unit.code = (encodeAll instructions).toArray) :
    unit.instructions = instructions.map .ok := by
  rw [CodeUnit.instructions, h]
  exact instructionsFrom_offsetBehind [] instructions

/-- Bytes are those of one list of instructions only. -/
theorem encodeAll_inj {first second : List Instruction} (h : encodeAll first = encodeAll second) :
    first = second := by
  have hfirst := instructionsFrom_offsetBehind [] first
  have hsecond := instructionsFrom_offsetBehind [] second
  rw [List.nil_append] at hfirst hsecond
  rw [h] at hfirst
  exact (List.map_inj_right fun _ _ => Except.ok.inj).mp (hfirst.symm.trans hsecond)

/-- Of the first parts of some code each has an offset of its own. -/
theorem offsetBehind_inj {code first second : List Instruction} (hfirst : first <+: code)
    (hsecond : second <+: code) (h : offsetBehind first = offsetBehind second) :
    first = second := by
  -- The shorter one is the first part of the longer one, and nothing lies between.
  rcases List.prefix_or_prefix_of_prefix hfirst hsecond with ⟨between, rfl⟩ | ⟨between, rfl⟩
  all_goals
    rw [offsetBehind_append] at h
    cases between with
    | nil => rw [List.append_nil]
    | cons instruction others =>
        have hpos := instruction.encode_length_pos
        rw [offsetBehind.eq_1 (instruction :: others), encodeAll_cons, List.length_append] at h
        omega

end StackLang.Bytecode
