import StackLang.Proofs.Compile.Pool
import StackLang.Proofs.Simulation.Outcome

/-! # Expressions run as they are evaluated

The run of the code of an expression either comes behind the code, with the value that the
interpreter finds on top of the stack and all below as it was, or ends with the error that the
interpreter finds. The locals may lie anywhere above the base, with any temporaries above them.

* `Holding` — the stack holds the values of locals above a base.
* `Serves` — a handler says what becomes of calls.
* `simulated_expression` — the run of the code of an expression. -/

namespace StackLang.Simulation

open Bytecode (CodeUnit Instruction Pool offsetBehind)
open Compile (Environment ExpressionCode ExpressionsCode Scope)
open Interpreter (Failure Handler Locals)
open Machine (Ending Runs standing)

/-! ## Locals on the stack -/

/-- Above the base the stack holds the values of the locals, the earliest lowest. -/
def Holding (locals : Locals) (base : Nat) (stack : Stack) : Prop :=
  ∀ (slot : Nat) (value : Value), (locals.map Prod.snd).reverse[slot]? = some value →
    stack[base + slot]? = some value

theorem Holding.push {locals : Locals} {base : Nat} {stack : Stack}
    (h : Holding locals base stack) (value : Value) :
    Holding locals base (stack.push value) := by
  intro slot found hslot
  have hfound := h slot found hslot
  obtain ⟨hlt, -⟩ := Array.getElem?_eq_some_iff.mp hfound
  rw [Array.getElem?_push, if_neg (Nat.ne_of_lt hlt), hfound]

/-- The names of locals. -/
abbrev scopeOf (locals : Locals) : Scope := locals.map Prod.fst

/-- A name without a slot is no local. -/
theorem lookup_eq_none_of_slot? {locals : Locals} {name : String}
    (h : (scopeOf locals).slot? name = none) : locals.lookup name = none := by
  induction locals with
  | nil => rfl
  | cons latest earlier ih =>
      obtain ⟨found, value⟩ := latest
      simp only [scopeOf, List.map_cons, Scope.slot?] at h
      split at h
      · cases h
      · next hname =>
          rw [List.lookup_cons, beq_false_of_ne (Ne.symm hname)]
          exact ih h

/-- A name with a slot is the latest local of that name, and its value lies in the slot. -/
theorem lookup_of_slot? {locals : Locals} {name : String} {slot : Nat}
    (h : (scopeOf locals).slot? name = some slot) :
    ∃ value, locals.lookup name = some value ∧ (name, value) ∈ locals
      ∧ (locals.map Prod.snd).reverse[slot]? = some value := by
  induction locals with
  | nil => cases h
  | cons latest earlier ih =>
      obtain ⟨found, value⟩ := latest
      simp only [scopeOf, List.map_cons, Scope.slot?] at h
      split at h
      · next hname =>
          cases h
          refine ⟨value, ?_, ?_, ?_⟩
          · rw [List.lookup_cons, hname, beq_self_eq_true]
          · rw [hname]
            exact List.mem_cons_self
          · rw [List.map_cons, List.reverse_cons, List.getElem?_append_right (by simp)]
            simp
      · next hname =>
          obtain ⟨value, hlookup, hmem, hvalue⟩ := ih h
          refine ⟨value, ?_, List.mem_cons_of_mem _ hmem, ?_⟩
          · rw [List.lookup_cons, beq_false_of_ne (Ne.symm hname)]
            exact hlookup
          · obtain ⟨hlt, -⟩ := List.getElem?_eq_some_iff.mp hvalue
            rw [List.map_cons, List.reverse_cons, List.getElem?_append_left hlt, hvalue]

/-! ## Steps -/

variable {program : Program} {globals : Globals} {run : Machine → Ending} {handler : Handler}

/-- The run has come behind some instructions, with a known value on top of the stack. -/
def Pushed (globals : Globals) (run : Machine → Ending) (unit : CodeUnit)
    (before : List Instruction) (base : Nat) (callers : List Frame) (stack : Stack)
    (ending : Ending) (value : Value) : Prop :=
  globals.Knows value ∧ stack.size < Machine.maxValues
    ∧ ending = run (standing unit before base callers (stack.push value))

variable {unit : CodeUnit} {before : List Instruction} {base : Nat} {callers : List Frame}
  {ending : Ending}

/-- Putting a value on the stack is loading it. -/
theorem simulated_load {stack : Stack} {value : Value} (hknows : globals.Knows value)
    (h : ending = .ofTransition run
      (Machine.push (⟨unit, offsetBehind before, base⟩ :: callers) stack value)) :
    Simulated ending (Pushed globals run unit before base callers stack ending)
      (Interpreter.load stack.size value) := by
  rw [Machine.push] at h
  rw [Interpreter.load]
  by_cases hroom : stack.size < Machine.maxValues
  · rw [if_pos hroom] at h ⊢
    exact ⟨hknows, hroom, h⟩
  · rw [if_neg hroom] at h ⊢
    rw [h]
    rfl

/-- An operation takes its operands from the stack. -/
theorem operate_push_push (operation : Float → Float → Float) (frames : List Frame) (stack : Stack)
    (left right : Value) :
    Machine.operate operation frames ((stack.push left).push right)
      = match left, right with
        | .number first, .number second =>
            Machine.push frames stack (.number (operation first second))
        | left, right => .failed (.invalidArithmetic left right) stack := by
  cases left <;> cases right <;>
    simp only [Machine.operate, Array.back?_push, Array.pop_push]

/-- The instruction for an operator performs its operation. -/
theorem perform_arithmetic {sign : Operator} {instruction : Instruction}
    (h : Compile.arithmetic? sign = some instruction) :
    ∃ operation, Interpreter.operation? sign = some operation
      ∧ ∀ frame callers stack, Machine.perform globals frame callers stack instruction
        = Machine.operate operation (frame :: callers) stack := by
  cases sign with
  | plus | minus | star | slash =>
      cases h
      exact ⟨_, rfl, fun _ _ _ => rfl⟩
  | dot => cases h

/-- An operation on two values that lie on the stack is what the operator makes of them. -/
theorem simulated_combine {sign : Operator} {operation : Float → Float → Float}
    (hsign : Interpreter.operation? sign = some operation) {stack : Stack}
    (hroom : stack.size < Machine.maxValues) {left right : Value}
    (h : ending = .ofTransition run (Machine.operate operation
      (⟨unit, offsetBehind before, base⟩ :: callers) ((stack.push left).push right))) :
    Simulated ending (Pushed globals run unit before base callers stack ending)
      (Interpreter.combine sign left right) := by
  rw [operate_push_push] at h
  match left, right with
  | .number first, .number second =>
      simp only [Interpreter.combine, hsign]
      dsimp only at h
      rw [Machine.push, if_pos hroom] at h
      exact ⟨trivial, hroom, h⟩
  | .number _, .function _ =>
      simp only [Interpreter.combine, hsign]
      rw [h]
      rfl
  | .function _, _ =>
      simp only [Interpreter.combine, hsign]
      rw [h]
      rfl

/-! ## Calls -/

/-- What the run has come to when a call is over: it leaves the frame of the call, below which the
stack is as it was. -/
def Left (globals : Globals) (run : Machine → Ending) (unit : CodeUnit) (callers : List Frame)
    (below : Stack) (ending : Ending) (result : Option Value) : Prop :=
  (∀ value ∈ result, globals.Knows value) ∧ ∃ offset stack, stack.shrink below.size = below
    ∧ ending = .ofTransition run (Machine.leave ⟨unit, offset, below.size⟩ callers result stack)

/-- The handler says what becomes of calls, when there is room for some further ones: either the
call cannot begin, or its body runs until it leaves the frame. -/
def Serves (program : Program) (globals : Globals) (run : Machine → Ending) (handler : Handler)
    (room : Nat) : Prop :=
  ∀ (frames : List Frame) (below : Stack) (environment : Environment) (definition : Definition)
    (unit : CodeUnit) (arguments : List Value), frames.length + room = Machine.maxFrames →
    Faithful program globals environment → Compile.function environment definition = .ok unit →
    definition.parameters.length = arguments.length → (∀ value ∈ arguments, globals.Knows value) →
    ∀ ending, ending = .ofTransition run
      (Machine.enter unit (UInt8.ofNat arguments.length) frames (below ++ arguments.toArray)) →
    Simulated ending (Left globals run unit frames below ending)
      (handler definition arguments below.size)

/-- The name and the arity of the unit of a definition. -/
theorem displayName_arity_of_function {environment : Environment} {definition : Definition}
    {unit : CodeUnit} (h : Compile.function environment definition = .ok unit) :
    unit.displayName = definition.name ∧ unit.arity = UInt8.ofNat definition.parameters.length
      ∧ definition.parameters.length ≤ Compile.maxArguments := by
  obtain ⟨hcount, _, _, _, -, rfl⟩ := Compile.functionCode h
  exact ⟨rfl, rfl, hcount⟩

/-- Counts that fit into a byte are told apart by it. -/
theorem ofNat_inj_of_le {first second : Nat} (hfirst : first ≤ Compile.maxArguments)
    (hsecond : second ≤ Compile.maxArguments) (h : UInt8.ofNat first = UInt8.ofNat second) :
    first = second := by
  have hnumbers := congrArg UInt8.toNat h
  rwa [Compile.toNat_ofNat_of_le_maxArguments hfirst,
    Compile.toNat_ofNat_of_le_maxArguments hsecond] at hnumbers

/-- Calling the topmost value is applying it to the arguments below. -/
theorem simulated_apply (himplements : Implements program globals) {room : Nat}
    (hserves : Serves program globals run handler room)
    (hactive : callers.length + 1 + room = Machine.maxFrames) {below : Stack}
    (hroom : below.size < Machine.maxValues) {callee : Value} (hcallee : globals.Knows callee)
    {arguments : List Value} (harguments : ∀ value ∈ arguments, globals.Knows value)
    (hcount : arguments.length ≤ Compile.maxArguments)
    (h : ending = .ofTransition run (Machine.callTop globals (UInt8.ofNat arguments.length)
      (⟨unit, offsetBehind before, base⟩ :: callers)
      ((below ++ arguments.toArray).push callee))) :
    Simulated ending (Pushed globals run unit before base callers below ending)
      (Interpreter.apply program handler below.size callee arguments) := by
  match callee with
  | .number value =>
      simp only [Machine.callTop, Array.back?_push] at h
      rw [h]
      rfl
  | .function reference =>
      simp only [Machine.callTop, Array.back?_push, Array.pop_push] at h
      rw [Interpreter.apply]
      cases hdefinition : program.definition? reference.name with
      | none =>
          rw [himplements.unit?_of_none _ _ hcallee hdefinition] at h
          rw [h]
          rfl
      | some definition =>
          obtain ⟨environment, called, hunit, hfaithful, hcode⟩ :=
            himplements.unit?_of_some _ _ _ hcallee hdefinition
          obtain ⟨hname, harity, hparameters⟩ := displayName_arity_of_function hcode
          rw [hunit] at h
          dsimp only at h ⊢
          by_cases hsame : definition.parameters.length = arguments.length
          · -- The handler brings the run to the end of the call; what is left is its value.
            rw [if_pos hsame]
            refine (hserves (⟨unit, offsetBehind before, base⟩ :: callers) below _ _ _ _ hactive
              hfaithful hcode hsame harguments _ h).bind ?_
            rintro result ⟨hknows, offset, stack, hshrink, hending⟩
            cases result with
            | none =>
                rw [hending, ← hname]
                rfl
            | some value =>
                refine ⟨hknows value rfl, hroom, ?_⟩
                rw [hending]
                simp only [Machine.leave, hshrink, Machine.push, if_pos hroom]
                rfl
          · have hdiffer : called.arity ≠ UInt8.ofNat arguments.length := by
              rw [harity]
              exact fun hbyte => hsame (ofNat_inj_of_le hparameters hcount hbyte)
            rw [if_neg hsame]
            rw [Machine.enter, if_pos hdiffer, hname, harity,
              Compile.toNat_ofNat_of_le_maxArguments hcount] at h
            rw [h]
            rfl

/-! ## The code of expressions -/

section

variable {environment : Environment} {locals : Locals} {room : Nat}

/-- What is needed to run code in a frame: the table implements the program, names mean what they
mean in the program, and there is a handler for the calls that are made in the frame. -/
structure Running (program : Program) (globals : Globals) (run : Machine → Ending)
    (handler : Handler) (environment : Environment) (room : Nat) (callers : List Frame) :
    Prop where
  /-- The run goes on step by step. -/
  runs : Runs globals run
  /-- The table implements the program. -/
  implements : Implements program globals
  /-- Names mean what they mean in the program. -/
  faithful : Faithful program globals environment
  /-- Calls are handled. -/
  serves : Serves program globals run handler room
  /-- Besides the frame and its callers, there is room for so many calls. -/
  room_eq : callers.length + 1 + room = Machine.maxFrames

/-- What is needed of the locals of a frame: they are known, and a byte can number them. -/
structure Sound (globals : Globals) (locals : Locals) : Prop where
  /-- The values are known. -/
  knows : ∀ entry ∈ locals, globals.Knows entry.2
  /-- There are not too many. -/
  length_le : locals.length ≤ Bytecode.capacity

/-- The run of an instruction that puts a known value on the stack. -/
theorem simulated_instruction
    (hrunning : Running program globals run handler environment room callers)
    {instruction : Instruction} {stack : Stack} {value : Value}
    (hholds : unit.Holds before [instruction]) (hknows : globals.Knows value)
    (hperform : ∀ offset, Machine.perform globals ⟨unit, offset, base⟩ callers stack instruction
      = Machine.push (⟨unit, offset, base⟩ :: callers) stack value) :
    Simulated (run (standing unit before base callers stack))
      (Pushed globals run unit (before ++ [instruction]) base callers stack
        (run (standing unit before base callers stack)))
      (Interpreter.load stack.size value) := by
  refine simulated_load hknows ?_
  rw [hrunning.runs.standing_eq hholds, hperform]

mutual

/-- The run of the code of an expression agrees with its evaluation. -/
theorem simulated_expression
    (hrunning : Running program globals run handler environment room callers)
    (hsound : Sound globals locals) {pool extended : Pool} {evaluated : Expression}
    {code before : List Instruction} {base : Nat} {stack : Stack} :
    ExpressionCode environment (scopeOf locals) pool evaluated code extended →
    unit.Holds before code → Pool.Extends unit.constants extended → Holding locals base stack →
    Simulated (run (standing unit before base callers stack))
      (Pushed globals run unit (before ++ code) base callers stack
        (run (standing unit before base callers stack)))
      (Interpreter.expression program handler locals stack.size evaluated)
  | .number value hroom => by
      intro hholds hpool _
      rw [Interpreter.expression]
      refine simulated_instruction hrunning hholds trivial fun offset => ?_
      simp only [Machine.perform, Pool.constant?_of_extends hpool hroom]
  | .localName hslot => by
      intro hholds _ hholding
      obtain ⟨value, hlookup, hmem, hvalue⟩ := lookup_of_slot? hslot
      have hlt := Nat.lt_of_lt_of_le (Scope.lt_length_of_slot? hslot)
        (Nat.le_trans (Nat.le_of_eq (List.length_map _)) hsound.length_le)
      rw [Interpreter.expression, hlookup, Option.getD_some]
      refine simulated_instruction hrunning hholds (hsound.knows _ hmem) fun offset => ?_
      simp only [Machine.perform, UInt8.toNat_ofNat_of_lt' hlt, hholding _ _ hvalue]
  | .globalName hlocal hreference hroom => by
      intro hholds hpool _
      obtain ⟨hmeans, hknows⟩ := hrunning.faithful _ _ hreference
      rw [Interpreter.expression, lookup_eq_none_of_slot? hlocal, hmeans, Option.getD_none]
      refine simulated_instruction hrunning hholds hknows fun offset => ?_
      simp only [Machine.perform, Pool.constant?_of_extends hpool hroom]
  | @ExpressionCode.binary _ _ _ _ _ _ _ _ first second instruction hsign hleft hright => by
      intro hholds hpool hholding
      have hplace : before ++ (first ++ second ++ [instruction])
          = before ++ first ++ second ++ [instruction] := by simp only [List.append_assoc]
      obtain ⟨operation, hoperation, hperform⟩ := perform_arithmetic hsign
      rw [Interpreter.expression, hplace]
      refine (simulated_expression hrunning hsound hleft hholds.left.left
        (hpool.trans hright.adds.extends) hholding).bind ?_
      -- The first value lies on the stack while the second is found, so there was room for it.
      rintro left ⟨_, hroom, hfirst⟩
      have hsecond := simulated_expression hrunning hsound hright hholds.left.right hpool
        (hholding.push left)
      rw [Array.size_push] at hsecond
      rw [hfirst]
      refine hsecond.bind ?_
      rintro right ⟨_, _, hending⟩
      have hlast := hholds.right
      rw [← List.append_assoc] at hlast
      refine simulated_combine hoperation hroom ?_
      rw [hending, hrunning.runs.standing_eq hlast, hperform]
  | @ExpressionCode.call _ _ _ _ _ _ arguments operands called hcount harguments hcallee => by
      intro hholds hpool hholding
      have hplace : before ++ (operands ++ called ++ [.call (UInt8.ofNat arguments.length)])
          = before ++ operands ++ called ++ [.call (UInt8.ofNat arguments.length)] := by
        simp only [List.append_assoc]
      rw [Interpreter.expression, hplace]
      refine (simulated_expressions hrunning hsound harguments hholds.left.left
        (hpool.trans hcallee.adds.extends) hholding).bind ?_
      -- The callee is found above the arguments, which it leaves where they are.
      rintro values ⟨hknows, hlength, hvalues, hoperands⟩
      have hcalled := simulated_expression hrunning hsound hcallee hholds.left.right hpool hvalues
      rw [Array.size_append, List.size_toArray] at hcalled
      rw [hoperands, ← hlength]
      refine hcalled.bind ?_
      rintro callee ⟨hcallee, hroom, hending⟩
      have hlast := hholds.right
      rw [← List.append_assoc, ← hlength] at hlast
      rw [← hlength] at hcount
      rw [Array.size_append] at hroom
      refine simulated_apply hrunning.implements hrunning.serves hrunning.room_eq
        (Nat.lt_of_le_of_lt (Nat.le_add_right _ _) hroom) hcallee hknows hcount ?_
      rw [hending, hrunning.runs.standing_eq hlast, Machine.perform]

/-- The run of the code of several expressions agrees with their evaluation. -/
theorem simulated_expressions
    (hrunning : Running program globals run handler environment room callers)
    (hsound : Sound globals locals) {pool extended : Pool} {evaluated : List Expression}
    {code before : List Instruction} {base : Nat} {stack : Stack} :
    ExpressionsCode environment (scopeOf locals) pool evaluated code extended →
    unit.Holds before code → Pool.Extends unit.constants extended → Holding locals base stack →
    Simulated (run (standing unit before base callers stack))
      (fun values => (∀ value ∈ values, globals.Knows value) ∧ values.length = evaluated.length
        ∧ Holding locals base (stack ++ values.toArray)
        ∧ run (standing unit before base callers stack)
          = run (standing unit (before ++ code) base callers (stack ++ values.toArray)))
      (Interpreter.expressions program handler locals stack.size evaluated)
  | .nil => by
      intro hholds _ hholding
      rw [Interpreter.expressions]
      refine ⟨fun _ hmem => absurd hmem List.not_mem_nil, rfl, ?_, ?_⟩
      · rwa [Array.append_empty]
      · rw [List.append_nil, Array.append_empty]
  | .cons hfirst hothers => by
      intro hholds hpool hholding
      rw [Interpreter.expressions]
      refine (simulated_expression hrunning hsound hfirst hholds.left
        (hpool.trans hothers.adds.extends) hholding).bind ?_
      rintro value ⟨hknows, _, hhead⟩
      have htail := simulated_expressions hrunning hsound hothers hholds.right hpool
        (hholding.push value)
      rw [Array.size_push] at htail
      rw [hhead]
      refine htail.bind ?_
      rintro values ⟨hothers, hlength, hvalues, hending⟩
      have hstack : stack ++ (value :: values).toArray = stack.push value ++ values.toArray := by
        apply Array.ext'
        simp
      refine ⟨List.forall_mem_cons.mpr ⟨hknows, hothers⟩, ?_, ?_, ?_⟩
      · rw [List.length_cons, List.length_cons, hlength]
      · rwa [hstack]
      · rw [hstack, ← List.append_assoc]
        exact hending

end

end

end StackLang.Simulation
