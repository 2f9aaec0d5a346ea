import StackLang.Proofs.Simulation.Expression

/-! # Statements run as they are executed

Between statements the stack of a frame holds the locals and nothing else. The run of the code of
statements comes behind the code, with the locals that the interpreter has then, or it leaves the
frame, or it ends with an error.

* `stacked` — the stack with some locals above what lies below them.
* `simulated_statements` — the run of the code of statements.
* `serves_invoke` — a call runs as the interpreter has it, whatever room there is. -/

namespace StackLang.Simulation

open Bytecode (CodeUnit Instruction Pool offsetBehind)
open Compile (Environment ExpressionCode Scope StatementCode StatementsCode drops)
open Interpreter (Failure Flow Handler Locals)
open Machine (Ending Runs standing)

/-! ## The stack between statements -/

/-- The stack with the values of locals, the earliest lowest, above what lies below them. -/
def stacked (below : Stack) (locals : Locals) : Stack :=
  below ++ (locals.map Prod.snd).reverse.toArray

@[simp] theorem stacked_cons (below : Stack) (name : String) (value : Value) (locals : Locals) :
    stacked below ((name, value) :: locals) = (stacked below locals).push value := by
  apply Array.ext'
  simp [stacked]

@[simp] theorem size_stacked (below : Stack) (locals : Locals) :
    (stacked below locals).size = below.size + locals.length := by
  simp [stacked]

theorem holding_stacked (below : Stack) (locals : Locals) :
    Holding locals below.size (stacked below locals) := by
  intro slot value hvalue
  rw [stacked, Array.getElem?_append_right (Nat.le_add_right _ _), Nat.add_sub_cancel_left,
    List.getElem?_toArray, hvalue]

/-- Leaving a frame drops its locals, and what lies above them. -/
theorem shrink_append (below above : Stack) : (below ++ above).shrink below.size = below := by
  apply Array.ext'
  simp

variable {program : Program} {globals : Globals} {run : Machine → Ending} {handler : Handler}
  {environment : Environment} {room : Nat} {callers : List Frame} {unit : CodeUnit}

/-- The latest locals are dropped by as many instructions. -/
theorem run_drops (hruns : Runs globals run) (bound locals : Locals) {before : List Instruction}
    (callers : List Frame) (below : Stack) (hholds : unit.Holds before (drops bound.length)) :
    run (standing unit before below.size callers (stacked below (bound ++ locals)))
      = run (standing unit (before ++ drops bound.length) below.size callers
          (stacked below locals)) := by
  induction bound generalizing before with
  | nil =>
      rw [List.length_nil, drops, List.replicate_zero, List.append_nil]
      rfl
  | cons latest earlier ih =>
      obtain ⟨name, value⟩ := latest
      have hpop : unit.Holds before (.pop :: drops earlier.length) := hholds
      have hrest : unit.Holds (before ++ [.pop]) (drops earlier.length) :=
        (hpop.right : unit.Holds (before ++ [.pop]) _)
      rw [hruns.standing_eq hpop, Machine.perform, List.cons_append, stacked_cons,
        Array.back?_push]
      dsimp only
      rw [Array.pop_push]
      have hrun := ih hrest
      rw [List.append_assoc] at hrun
      exact hrun

/-! ## The code of statements -/

/-- What the run has come to behind the code of statements: the scope is that of the locals that
there are now, and the stack holds these. Or it leaves the frame. -/
def Flowed (globals : Globals) (run : Machine → Ending) (unit : CodeUnit)
    (behind : List Instruction) (callers : List Frame) (below : Stack) (inner : Scope)
    (locals : Locals) (ending : Ending) : Flow → Prop
  | .onward extended => inner = scopeOf extended ∧ (∃ bound, extended = bound ++ locals)
      ∧ Sound globals extended
      ∧ ending = run (standing unit behind below.size callers (stacked below extended))
  | .leaving result => Left globals run unit callers below ending result

/-- The value of an expression that is evaluated between statements. -/
theorem simulated_evaluation
    (hrunning : Running program globals run handler environment room callers)
    {locals : Locals} (hsound : Sound globals locals) {pool extended : Pool}
    {evaluated : Expression} {code before : List Instruction} (below : Stack)
    (h : ExpressionCode environment (scopeOf locals) pool evaluated code extended)
    (hholds : unit.Holds before code) (hpool : Pool.Extends unit.constants extended) :
    Simulated (run (standing unit before below.size callers (stacked below locals)))
      (Pushed globals run unit (before ++ code) below.size callers (stacked below locals)
        (run (standing unit before below.size callers (stacked below locals))))
      (Interpreter.expression program handler locals (below.size + locals.length) evaluated) := by
  rw [← size_stacked]
  exact simulated_expression hrunning hsound h hholds hpool (holding_stacked below locals)

mutual

/-- The run of the code of a statement agrees with its execution. -/
theorem simulated_statement
    (hrunning : Running program globals run handler environment room callers)
    {locals : Locals} (hsound : Sound globals locals) {scope inner : Scope} {pool extended : Pool}
    {executed : Statement} {code before : List Instruction} (below : Stack)
    (hscope : scope = scopeOf locals) (hholds : unit.Holds before code)
    (hpool : Pool.Extends unit.constants extended) :
    StatementCode environment scope pool executed code inner extended →
    Simulated (run (standing unit before below.size callers (stacked below locals)))
      (Flowed globals run unit (before ++ code) callers below inner locals
        (run (standing unit before below.size callers (stacked below locals))))
      (Interpreter.statement program handler locals below.size executed)
  | .binding name hroom h => by
      subst hscope
      rw [Interpreter.statement]
      refine (simulated_evaluation hrunning hsound below h hholds hpool).bind ?_
      rintro value ⟨hknows, -, hending⟩
      refine ⟨rfl, ⟨[(name, value)], rfl⟩, ⟨?_, ?_⟩, ?_⟩
      · exact List.forall_mem_cons.mpr ⟨hknows, hsound.knows⟩
      · rw [List.length_map] at hroom
        exact hroom
      · rw [stacked_cons]
        exact hending
  | .returningVoid => by
      rw [Interpreter.statement]
      refine ⟨fun _ hmem => (Option.not_mem_none _ hmem).elim,
        offsetBehind (before ++ [.returnVoid]), stacked below locals, shrink_append _ _, ?_⟩
      rw [hrunning.runs.standing_eq hholds, Machine.perform]
  | @StatementCode.returningValue _ _ _ _ _ code h => by
      subst hscope
      rw [Interpreter.statement]
      refine (simulated_evaluation hrunning hsound below h hholds.left hpool).bind ?_
      rintro value ⟨hknows, -, hending⟩
      refine ⟨fun _ hmem => Option.mem_some.mp hmem ▸ hknows,
        offsetBehind (before ++ code ++ [.returnValue]), stacked below locals,
        shrink_append _ _, ?_⟩
      rw [hending, hrunning.runs.standing_eq hholds.right, Machine.perform, Array.back?_push]
      dsimp only
      rw [Array.pop_push]
  | .expression h => by
      subst hscope
      rw [Interpreter.statement]
      refine (simulated_evaluation hrunning hsound below h hholds.left hpool).bind ?_
      rintro value ⟨-, -, hending⟩
      refine ⟨rfl, ⟨[], rfl⟩, hsound, ?_⟩
      rw [hending, hrunning.runs.standing_eq hholds.right, Machine.perform, Array.back?_push]
      dsimp only
      rw [Array.pop_push, List.append_assoc]
      rfl
  | @StatementCode.block _ _ inner _ _ _ _ h => by
      rw [Interpreter.statement]
      refine (simulated_statements hrunning hsound below hscope hholds.left hpool h).bind ?_
      rintro (extended | result) hflow
      · -- What was bound in the block lies on top, and as much is dropped.
        obtain ⟨hinner, ⟨bound, rfl⟩, -, hending⟩ := hflow
        have hcount : inner.length - scope.length = bound.length := by
          rw [hinner, hscope, List.length_map, List.length_map, List.length_append,
            Nat.add_sub_cancel]
        rw [hcount] at hholds ⊢
        refine ⟨hscope, ⟨[], rfl⟩, hsound, ?_⟩
        rw [hending, run_drops hrunning.runs bound locals callers below hholds.right,
          List.append_assoc]
      · exact hflow

/-- The run of the code of several statements agrees with their execution. -/
theorem simulated_statements
    (hrunning : Running program globals run handler environment room callers)
    {locals : Locals} (hsound : Sound globals locals) {scope inner : Scope} {pool extended : Pool}
    {executed : List Statement} {code before : List Instruction} (below : Stack)
    (hscope : scope = scopeOf locals) (hholds : unit.Holds before code)
    (hpool : Pool.Extends unit.constants extended) :
    StatementsCode environment scope pool executed code inner extended →
    Simulated (run (standing unit before below.size callers (stacked below locals)))
      (Flowed globals run unit (before ++ code) callers below inner locals
        (run (standing unit before below.size callers (stacked below locals))))
      (Interpreter.statements program handler locals below.size executed)
  | .nil => by
      rw [Interpreter.statements, List.append_nil]
      exact ⟨hscope, ⟨[], rfl⟩, hsound, rfl⟩
  | .cons hfirst hothers => by
      rw [Interpreter.statements]
      refine (simulated_statement hrunning hsound below hscope hholds.left
        (hpool.trans hothers.adds.extends) hfirst).bind ?_
      rintro (extended | result) hflow
      · obtain ⟨hmiddle, ⟨bound, rfl⟩, hextended, hending⟩ := hflow
        rw [hending]
        refine (simulated_statements hrunning hextended below hmiddle hholds.right hpool
          hothers).mono ?_
        rintro (final | result) hrest
        · obtain ⟨hinner, ⟨more, rfl⟩, hfinal, hend⟩ := hrest
          refine ⟨hinner, ⟨more ++ bound, (List.append_assoc _ _ _).symm⟩, hfinal, ?_⟩
          rw [← List.append_assoc before]
          exact hend
        · exact hrest
      · exact hflow

end

/-! ## Calls -/

/-- The run of the unit of a definition from its start, above arguments that it asks for. -/
theorem simulated_body
    (hrunning : Running program globals run handler environment room callers)
    {definition : Definition} (hcode : Compile.function environment definition = .ok unit)
    {arguments : List Value} (harguments : ∀ value ∈ arguments, globals.Knows value)
    (hlength : definition.parameters.length = arguments.length) (below : Stack) :
    Simulated (run (standing unit [] below.size callers (below ++ arguments.toArray)))
      (Left globals run unit callers below
        (run (standing unit [] below.size callers (below ++ arguments.toArray))))
      (Interpreter.body program handler definition arguments below.size) := by
  obtain ⟨hcount, code, scope, pool, hbody, hunit⟩ := Compile.functionCode hcode
  have hholds : unit.Holds [] (code ++ drops scope.length ++ [.returnVoid]) := by
    rw [hunit]
    exact CodeUnit.holds_ofInstructions _ _ _ _
  have hpool : Pool.Extends unit.constants pool := by
    rw [hunit]
    exact Pool.Extends.refl _
  -- The parameters are the first locals.
  have hscope : definition.parameters.reverse
      = scopeOf (definition.parameters.zip arguments).reverse := by
    rw [scopeOf, List.map_reverse, List.map_fst_zip (Nat.le_of_eq hlength)]
  have hstacked : stacked below (definition.parameters.zip arguments).reverse
      = below ++ arguments.toArray := by
    rw [stacked, List.map_reverse, List.reverse_reverse,
      List.map_snd_zip (Nat.le_of_eq hlength.symm)]
  have hsound : Sound globals (definition.parameters.zip arguments).reverse := by
    constructor
    · rintro ⟨name, value⟩ hmem
      exact harguments value (List.of_mem_zip (List.mem_reverse.mp hmem)).2
    · rw [List.length_reverse, List.length_zip, ← hlength, Nat.min_self]
      exact Nat.le_succ_of_le hcount
  rw [Interpreter.body, ← hstacked]
  refine (simulated_statements hrunning hsound below hscope hholds.left.left hpool hbody).bind ?_
  rintro (extended | result) hflow
  · -- The body has run out, and the locals are dropped before the frame is left.
    obtain ⟨hinner, -, -, hending⟩ := hflow
    have hdrops : unit.Holds ([] ++ code) (drops extended.length) := by
      have hright := hholds.left.right
      rwa [hinner, List.length_map] at hright
    have hrun := run_drops hrunning.runs extended [] callers below hdrops
    rw [List.append_nil] at hrun
    have hlast := hholds.right
    rw [hinner, List.length_map] at hlast
    refine ⟨fun _ hmem => (Option.not_mem_none _ hmem).elim,
      offsetBehind ([] ++ (code ++ drops extended.length) ++ [.returnVoid]), stacked below [],
      shrink_append _ _, ?_⟩
    rw [hending, hrun, List.append_assoc, hrunning.runs.standing_eq hlast, Machine.perform]
  · exact hflow

/-- A call with as many arguments as the unit asks for begins if there is room for it. -/
theorem enter_of_arity {environment : Environment} {definition : Definition}
    (hcode : Compile.function environment definition = .ok unit) {arguments : List Value}
    (hlength : definition.parameters.length = arguments.length) (frames : List Frame)
    (below : Stack) :
    Machine.enter unit (UInt8.ofNat arguments.length) frames (below ++ arguments.toArray)
      = if Machine.maxFrames ≤ frames.length then
          .failed .frameOverflow (below ++ arguments.toArray)
        else .running (standing unit [] below.size frames (below ++ arguments.toArray)) := by
  obtain ⟨-, harity, hcount⟩ := displayName_arity_of_function hcode
  have hnumber : (UInt8.ofNat arguments.length).toNat = arguments.length :=
    Compile.toNat_ofNat_of_le_maxArguments (hlength ▸ hcount)
  have hsize : (below ++ arguments.toArray).size = below.size + arguments.length :=
    Array.size_append
  have henough : ¬ (below ++ arguments.toArray).size < (UInt8.ofNat arguments.length).toNat := by
    rw [hsize, hnumber]
    exact Nat.not_lt_of_le (Nat.le_add_left _ _)
  rw [Machine.enter, if_neg (not_not_intro (by rw [harity, hlength])), if_neg henough, hsize,
    hnumber, Nat.add_sub_cancel]
  rfl

/-- Whatever room there is for calls, they run as the interpreter has them. -/
theorem serves_invoke (hruns : Runs globals run) (himplements : Implements program globals)
    (room : Nat) : Serves program globals run (Interpreter.invoke program room) room := by
  -- A call that begins leaves room for one call less to those in its body.
  induction room with
  | zero =>
      intro frames below environment definition unit arguments hactive _ hcode hlength _ ending h
      have hfull : Machine.maxFrames ≤ frames.length := by omega
      rw [enter_of_arity hcode hlength, if_pos hfull] at h
      rw [h]
      rfl
  | succ room ih =>
      intro frames below environment definition unit arguments hactive hfaithful hcode hlength
        hknows ending h
      have hroom : ¬ Machine.maxFrames ≤ frames.length := by omega
      rw [enter_of_arity hcode hlength, if_neg hroom] at h
      rw [h]
      exact simulated_body ⟨hruns, himplements, hfaithful, ih, by omega⟩ hcode hknows hlength below

end StackLang.Simulation
