import StackLang.Compile.Scope
import StackLang.Globals
import StackLang.Syntax

/-! # Code of expressions

The code of an expression leaves its value on top of the stack and everything below as it was.
Operands are computed from left to right; in a call the arguments come first and the callee last.

* `Compile.Environment` — what a name that is not local may mean.
* `Compile.expression` — the instructions of an expression, and the pool with its constants. -/

namespace StackLang.Compile

open Bytecode (Instruction Pool)

/-- The names outside a function. -/
structure Environment where
  /-- The globals. -/
  globals : Globals
  /-- The table of symbols to which the names of the source belong. -/
  table : Nat

/-- The symbol of a name. -/
def Environment.symbol (environment : Environment) (name : String) : Symbol :=
  ⟨environment.table, name⟩

/-- The reference that stands for a global name. -/
def Environment.reference? (environment : Environment) (name : String) : Option FunctionRef :=
  (environment.globals.resolve? (environment.symbol name)).map fun slot =>
    ⟨slot, environment.symbol name⟩

/-- The instruction for an operator; selecting a field has none. -/
def arithmetic? : Operator → Option Instruction
  | .plus => some .add
  | .minus => some .subtract
  | .star => some .multiply
  | .slash => some .divide
  | .dot => none

/-- An instruction that refers to a further constant of the pool. -/
def constantLoad (load : UInt8 → Instruction) (value : Value) (pool : Pool) :
    Except CompileError (List Instruction × Pool) :=
  match pool.add? value with
  | some (index, extended) => .ok ([load index], extended)
  | none => .error .tooManyConstants

/-- The code of a name: a local, or else a global. -/
def nameLoad (environment : Environment) (scope : Scope) (name : String) (pool : Pool) :
    Except CompileError (List Instruction × Pool) :=
  match scope.slot? name with
  | some slot => .ok ([.loadLocal (UInt8.ofNat slot)], pool)
  | none =>
      match environment.reference? name with
      | some reference => constantLoad .loadGlobal (.function reference) pool
      | none => .error (.unresolvedIdentifier name)

mutual

/-- The code of an expression, and the pool with its constants. -/
def expression (environment : Environment) (scope : Scope) (pool : Pool) :
    Expression → Except CompileError (List Instruction × Pool)
  | .number value => constantLoad .constant (.number value) pool
  | .text _ => .error .unsupportedLiteral
  | .name spelling => nameLoad environment scope spelling pool
  | .binary left infixSign right =>
      match arithmetic? infixSign with
      | none => .error (.unsupportedOperator infixSign)
      | some instruction => do
          let (first, withLeft) ← expression environment scope pool left
          let (second, withRight) ← expression environment scope withLeft right
          .ok (first ++ second ++ [instruction], withRight)
  | .call callee arguments =>
      if arguments.length ≤ maxArguments then do
        let (operands, withArguments) ← expressions environment scope pool arguments
        let (called, withCallee) ← expression environment scope withArguments callee
        .ok (operands ++ called ++ [.call (UInt8.ofNat arguments.length)], withCallee)
      else .error .tooManyArguments

/-- The code of several expressions, one after the other. -/
def expressions (environment : Environment) (scope : Scope) (pool : Pool) :
    List Expression → Except CompileError (List Instruction × Pool)
  | [] => .ok ([], pool)
  | first :: others => do
      let (head, withFirst) ← expression environment scope pool first
      let (tail, withOthers) ← expressions environment scope withFirst others
      .ok (head ++ tail, withOthers)

end

end StackLang.Compile
