import StackLang.Compile.Expression

/-! # Code of statements

The code of a statement leaves on the stack the locals of the scope behind it: a binding leaves its
value there, and a block drops what was bound inside it.

* `Compile.statement`, `Compile.statements` — the instructions, the scope behind them, and the pool.
* `Compile.function`, `Compile.loneExpression`, `Compile.loneStatement` — units of code. -/

namespace StackLang.Compile

open Bytecode (CodeUnit Instruction Pool)

/-- The code of a statement with what is known behind it. -/
structure Emission where
  /-- The code. -/
  code : List Instruction
  /-- The live locals behind it. -/
  scope : Scope
  /-- The constants of the unit so far. -/
  pool : Pool

/-- The code that drops the given number of values. -/
def drops (count : Nat) : List Instruction :=
  List.replicate count .pop

mutual

/-- The code of a statement. -/
def statement (environment : Environment) (scope : Scope) (pool : Pool) :
    Statement → Except CompileError Emission
  | .binding name initializer => do
      let (code, extended) ← expression environment scope pool initializer
      match scope.bind? name with
      | some inner => .ok ⟨code, inner, extended⟩
      | none => .error .tooManyLocals
  | .returning none => .ok ⟨[.returnVoid], scope, pool⟩
  | .returning (some value) => do
      let (code, extended) ← expression environment scope pool value
      .ok ⟨code ++ [.returnValue], scope, extended⟩
  | .expression evaluated => do
      let (code, extended) ← expression environment scope pool evaluated
      .ok ⟨code ++ [.pop], scope, extended⟩
  | .block inside => do
      let body ← statements environment scope pool inside
      -- What the block bound lies above what was live before it.
      .ok ⟨body.code ++ drops (body.scope.length - scope.length), scope, body.pool⟩

/-- The code of several statements, one after the other. -/
def statements (environment : Environment) (scope : Scope) (pool : Pool) :
    List Statement → Except CompileError Emission
  | [] => .ok ⟨[], scope, pool⟩
  | first :: others => do
      let head ← statement environment scope pool first
      let tail ← statements environment head.scope head.pool others
      .ok ⟨head.code ++ tail.code, tail.scope, tail.pool⟩

end

/-- The unit of a definition. Its parameters are its first locals; when the body runs out, the
locals are dropped and the function is left without a value. -/
def function (environment : Environment) (definition : Definition) : Except CompileError CodeUnit :=
  if definition.parameters.length ≤ maxArguments then do
    let body ← statements environment definition.parameters.reverse #[] definition.body
    .ok (.ofInstructions (some (environment.symbol definition.name))
      (UInt8.ofNat definition.parameters.length)
      (body.code ++ drops body.scope.length ++ [.returnVoid]) body.pool)
  else .error .tooManyLocals

/-- The unit of an expression that stands alone. It leaves its value on the stack. -/
def loneExpression (environment : Environment) (evaluated : Expression) :
    Except CompileError CodeUnit := do
  let (code, pool) ← expression environment [] #[] evaluated
  .ok (.ofInstructions none 0 code pool)

/-- The unit of a statement that stands alone. -/
def loneStatement (environment : Environment) (executed : Statement) :
    Except CompileError CodeUnit := do
  let emission ← statement environment [] #[] executed
  .ok (.ofInstructions none 0 emission.code emission.pool)

end StackLang.Compile
