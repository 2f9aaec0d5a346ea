import StackLang.Proofs.Bytecode.Decoding
import StackLang.Proofs.Compile.Heights
import StackLang.Proofs.Compile.Pool

/-! # Compiled units

What holds of the units of definitions, expressions and statements alike: of which instructions and
constants they consist, and which places of the source their offsets belong to.

* `Part` — a part of a program that is compiled to a unit of its own.
* `Consists` — a unit consists of safe instructions, which refer to its constants one by one.
* `Part.consists` — every unit that is compiled does.
* `Part.HasPlace` — the places in the code of a part.
* `Part.HasPlace.fits` — the heights of these places. -/

namespace StackLang

open Bytecode (CodeUnit Instruction Pool Safe heightBehind)

namespace Bytecode

/-- A unit consists of instructions, which refer to the values one after the other. -/
structure Consists (unit : CodeUnit) (instructions : List Instruction) (values : List Value) :
    Prop where
  /-- The code is that of the instructions. -/
  code_eq : unit.code = (Instruction.encodeAll instructions).toArray
  /-- The constants are the values. -/
  constants_eq : unit.constants = values.toArray
  /-- The references to constants have the indices of the values, in order. -/
  loads_eq : instructions.filter Instruction.isConstantLoad = values.zipIdx.map constantLoad
  /-- A byte can hold these indices. -/
  length_le : values.length ≤ capacity
  /-- The arguments are enough for the instructions. -/
  safe : Safe 0 unit.arity.toNat instructions

/-- An index to which an instruction refers is that of a constant. -/
theorem Consists.isSome_constant? {unit : CodeUnit} {instructions : List Instruction}
    {values : List Value} (h : Consists unit instructions values) {index : UInt8}
    (hmem : .constant index ∈ instructions ∨ .loadGlobal index ∈ instructions) :
    (unit.constant? index).isSome := by
  have hload : ∃ instruction ∈ instructions.filter Instruction.isConstantLoad,
      instruction = .constant index ∨ instruction = .loadGlobal index := by
    rcases hmem with hmem | hmem
    · exact ⟨_, List.mem_filter.mpr ⟨hmem, rfl⟩, Or.inl rfl⟩
    · exact ⟨_, List.mem_filter.mpr ⟨hmem, rfl⟩, Or.inr rfl⟩
  obtain ⟨instruction, hfiltered, hindex⟩ := hload
  rw [h.loads_eq] at hfiltered
  obtain ⟨⟨value, position⟩, hposition, rfl⟩ := List.mem_map.mp hfiltered
  have hlt : position < values.length := (List.mem_zipIdx' hposition).1
  have heq : index = UInt8.ofNat position := by
    cases value <;> simpa [constantLoad, eq_comm] using hindex
  have hnumber : index.toNat = position := by
    rw [heq]
    exact UInt8.toNat_ofNat_of_lt' (Nat.lt_of_lt_of_le hlt h.length_le)
  rw [CodeUnit.constant?, hnumber, h.constants_eq, List.getElem?_toArray,
    List.getElem?_eq_getElem hlt]
  rfl

end Bytecode

namespace Compile

open Bytecode (Adds Consists Span)

/-- A part of a program that is compiled to a unit of its own. -/
inductive Part where
  /-- A definition. -/
  | function (definition : Definition)
  /-- An expression that stands alone. -/
  | expression (evaluated : Expression)
  /-- A statement that stands alone. -/
  | statement (executed : Statement)

namespace Part

variable {environment : Environment}

/-- The unit of a part, or why there is none. -/
def unit (environment : Environment) : Part → Except CompileError CodeUnit
  | .function definition => Compile.function environment definition
  | .expression evaluated => loneExpression environment evaluated
  | .statement executed => loneStatement environment executed

/-- The values for which a part needs constants, in the order of their evaluation. -/
def constants (environment : Environment) : Part → List Value
  | .function definition =>
      statementsConstants environment definition.parameters.reverse definition.body
  | .expression evaluated => expressionConstants environment [] evaluated
  | .statement executed => statementConstants environment [] executed

/-- A unit consists of the instructions that add its constants and run from its arity on. -/
theorem consists_ofInstructions (name : Option Symbol) {arity : UInt8} {final : Nat}
    {code : List Instruction} {pool : Pool} {values : List Value}
    (hadds : Adds #[] pool code values) (hspan : Span 0 arity.toNat code final) :
    Consists (.ofInstructions name arity code pool) code values := by
  have hpool : pool = values.toArray := hadds.pool_eq.trans Array.empty_append
  refine ⟨rfl, hpool, hadds.loads_eq, ?_, hspan.safe⟩
  have hsize := hadds.size_le (Nat.zero_le _)
  rwa [hpool] at hsize

/-- Each unit that is compiled consists of safe instructions, which refer to the constants of its
part one by one. -/
theorem consists {part : Part} {compiled : CodeUnit} (h : part.unit environment = .ok compiled) :
    ∃ instructions, Consists compiled instructions (part.constants environment) := by
  cases part with
  | function definition =>
      obtain ⟨hcount, code, scope, pool, hcode, rfl⟩ := functionCode h
      have harity : (UInt8.ofNat definition.parameters.length).toNat
          = definition.parameters.reverse.length := by
        rw [List.length_reverse]
        exact toNat_ofNat_of_le_maxArguments hcount
      have hspan := hcode.span.1
      have hdrops := span_drops scope.length 0
      rw [Nat.zero_add] at hdrops
      rw [← harity] at hspan
      refine ⟨_, consists_ofInstructions _ ?_ ((hspan.append hdrops).append
        (Span.single (Nat.zero_le _) (Nat.zero_le _) rfl))⟩
      exact (hcode.adds.append_nothing (filter_drops _)).append_nothing rfl
  | expression evaluated =>
      obtain ⟨⟨code, pool⟩, hcode, h⟩ := bind_eq_ok h
      cases h
      have hrelated := expressionCode _ hcode
      exact ⟨code, consists_ofInstructions _ hrelated.adds (hrelated.span (Nat.le_refl _))⟩
  | statement executed =>
      obtain ⟨emission, hcode, h⟩ := bind_eq_ok h
      cases h
      have hrelated := statementCode _ hcode
      exact ⟨emission.code, consists_ofInstructions _ hrelated.adds hrelated.span.1⟩

/-- Behind the first instructions of the code of a part lies the place. -/
inductive HasPlace (environment : Environment) : Part → List Instruction → Place → Prop
  /-- Among the statements of a body. -/
  | function {definition : Definition} {before : List Instruction} {place : Place}
      (h : StatementsPlace environment definition.parameters.reverse #[] definition.body before
        place) :
      HasPlace environment (.function definition) before place
  /-- In an expression that stands alone. -/
  | expression {evaluated : Expression} {code before : List Instruction} {pool : Pool}
      (hcode : Compile.expression environment [] #[] evaluated = .ok (code, pool))
      (hbefore : before <+: code) :
      HasPlace environment (.expression evaluated) before (.evaluating [])
  /-- In a statement that stands alone, or at its ends. -/
  | statement {executed : Statement} {before : List Instruction} {place : Place}
      (h : StatementsPlace environment [] #[] [executed] before place) :
      HasPlace environment (.statement executed) before place

/-- The places in the unit of a part have the heights that they must have. -/
theorem HasPlace.fits {part : Part} {before instructions : List Instruction} {place : Place}
    {compiled : CodeUnit} (h : part.HasPlace environment before place)
    (hunit : part.unit environment = .ok compiled)
    (hcode : compiled.code = (Instruction.encodeAll instructions).toArray) :
    before <+: instructions ∧ place.Fits (heightBehind compiled.arity.toNat before) := by
  cases h with
  | @function definition _ _ hplace =>
      rw [unit, Compile.function] at hunit
      split at hunit
      · next hcount =>
          obtain ⟨body, hbody, hunit⟩ := bind_eq_ok hunit
          cases hunit
          cases Bytecode.encodeAll_inj (congrArg Array.toList hcode)
          obtain ⟨hbefore, hfits⟩ := hplace.fits hbody
          have harity : (UInt8.ofNat definition.parameters.length).toNat
              = definition.parameters.reverse.length := by
            rw [List.length_reverse]
            exact toNat_ofNat_of_le_maxArguments hcount
          refine ⟨(hbefore.trans (List.prefix_append _ _)).trans (List.prefix_append _ _), ?_⟩
          rw [← harity] at hfits
          exact hfits
      · cases hunit
  | expression hevaluated hbefore =>
      rw [unit, loneExpression, hevaluated] at hunit
      cases hunit
      cases Bytecode.encodeAll_inj (congrArg Array.toList hcode)
      exact ⟨hbefore, evaluating_fits hevaluated hbefore⟩
  | @statement executed _ _ hplace =>
      obtain ⟨emission, hexecuted, hunit⟩ := bind_eq_ok hunit
      cases hunit
      cases Bytecode.encodeAll_inj (congrArg Array.toList hcode)
      have hstatements : statements environment [] #[] [executed] = .ok emission := by
        rw [statements, hexecuted]
        show Except.ok (Emission.mk (emission.code ++ []) emission.scope emission.pool) = _
        rw [List.append_nil]
      exact hplace.fits hstatements

end Part

end Compile

end StackLang
