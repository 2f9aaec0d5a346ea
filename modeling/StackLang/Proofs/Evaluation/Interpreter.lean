import StackLang.Machine.State
import StackLang.Syntax

/-! # Evaluating syntax trees

An interpreter that works on the trees themselves, without code and without a stack. It is told what
is bound to the names of locals, which definition stands behind a symbol, and which reference a
global name means; of the two limits of the machine it knows how many values lie below those of an
expression, and how many more calls may become active.

* `Program` — the definitions, and the references to them.
* `Interpreter.expression`, `Interpreter.statements` — evaluate an expression, execute statements.
* `Interpreter.invoke` — call a definition, as long as there is room for a further call.
* `Interpreter.call` — call the function of a name from outside.
* `Interpreter.loneExpression`, `Interpreter.loneStatement` — evaluate an expression or a statement
  that stands alone. -/

namespace StackLang

/-- What the interpreter knows of the globals. -/
structure Program where
  /-- The definition behind a symbol. -/
  definition? : Symbol → Option Definition
  /-- The reference that a global name means. -/
  reference : String → FunctionRef

namespace Interpreter

/-- Why there is no value. -/
inductive Failure where
  /-- Evaluation fails with an error. -/
  | runtime (error : RuntimeError)
  /-- The expression has no meaning: it is a quoted text, or it selects a field. -/
  | meaningless
  deriving DecidableEq, Repr

/-- A result, or the reason why there is none. -/
abbrev Result (α : Type) := Except Failure α

/-- The locals and their values, the latest first. -/
abbrev Locals := List (String × Value)

/-- How statements end. -/
inductive Flow where
  /-- The next statement follows, with these locals. -/
  | onward (locals : Locals)
  /-- The function is left, with a value or without one. -/
  | leaving (result : Option Value)
  deriving DecidableEq, Repr

/-- What a definition does when it is called with arguments while a number of values lie below
them. -/
abbrev Handler := Definition → List Value → Nat → Result (Option Value)

/-! ## Expressions -/

/-- A value that is put above a number of others, if there is room for it. -/
def load (height : Nat) (value : Value) : Result Value :=
  if height < Machine.maxValues then .ok value else .error (.runtime .stackOverflow)

/-- The operation of an operator; selecting a field is none. -/
def operation? : Operator → Option (Float → Float → Float)
  | .plus => some (· + ·)
  | .minus => some (· - ·)
  | .star => some (· * ·)
  | .slash => some (· / ·)
  | .dot => none

/-- The result of an operator, which takes numbers only. -/
def combine (sign : Operator) (left right : Value) : Result Value :=
  match operation? sign, left, right with
  | none, _, _ => .error .meaningless
  | some operation, .number first, .number second => .ok (.number (operation first second))
  | some _, left, right => .error (.runtime (.invalidArithmetic left right))

/-- Call a value. The definition is looked up now. -/
def apply (program : Program) (handler : Handler) (height : Nat) (callee : Value)
    (arguments : List Value) : Result Value :=
  match callee with
  | .number value => .error (.runtime (.notCallable (.number value)))
  | .function reference =>
      match program.definition? reference.name with
      | none => .error (.runtime (.undefinedFunction reference.name.name))
      | some definition =>
          if definition.parameters.length = arguments.length then do
            match ← handler definition arguments height with
            | some value => .ok value
            | none => .error (.runtime (.voidResult definition.name))
          else
            .error (.runtime (.arityMismatch definition.name
              (UInt8.ofNat definition.parameters.length) arguments.length))

mutual

/-- Evaluate an expression while a number of values lie below. Operands are evaluated from left to
right, arguments before the callee; a name means the latest local, or else a global. -/
def expression (program : Program) (handler : Handler) (locals : Locals) (height : Nat) :
    Expression → Result Value
  | .number value => load height (.number value)
  | .text _ => .error .meaningless
  | .name spelling =>
      load height ((locals.lookup spelling).getD (.function (program.reference spelling)))
  | .binary left sign right => do
      let first ← expression program handler locals height left
      let second ← expression program handler locals (height + 1) right
      combine sign first second
  | .call callee arguments => do
      let values ← expressions program handler locals height arguments
      let called ← expression program handler locals (height + arguments.length) callee
      apply program handler height called values

/-- Evaluate several expressions, each above the values of those before it. -/
def expressions (program : Program) (handler : Handler) (locals : Locals) (height : Nat) :
    List Expression → Result (List Value)
  | [] => .ok []
  | first :: others => do
      let value ← expression program handler locals height first
      let values ← expressions program handler locals (height + 1) others
      .ok (value :: values)

end

/-! ## Statements -/

mutual

/-- Execute a statement while a number of values lie below the locals. -/
def statement (program : Program) (handler : Handler) (locals : Locals) (base : Nat) :
    Statement → Result Flow
  | .binding name initializer => do
      let value ← expression program handler locals (base + locals.length) initializer
      .ok (.onward ((name, value) :: locals))
  | .returning none => .ok (.leaving none)
  | .returning (some value) => do
      let result ← expression program handler locals (base + locals.length) value
      .ok (.leaving (some result))
  | .expression evaluated => do
      let _ ← expression program handler locals (base + locals.length) evaluated
      .ok (.onward locals)
  | .block inside => do
      match ← statements program handler locals base inside with
      | .onward _ => .ok (.onward locals)
      | .leaving result => .ok (.leaving result)

/-- Execute statements one after the other, until one of them leaves the function. -/
def statements (program : Program) (handler : Handler) (locals : Locals) (base : Nat) :
    List Statement → Result Flow
  | [] => .ok (.onward locals)
  | first :: others => do
      match ← statement program handler locals base first with
      | .onward extended => statements program handler extended base others
      | .leaving result => .ok (.leaving result)

end

/-! ## Calls -/

/-- Execute the body of a definition. The parameters are its first locals; if the body runs out,
there is no value. -/
def body (program : Program) (handler : Handler) : Handler := fun definition arguments base => do
  match ← statements program handler (definition.parameters.zip arguments).reverse base
    definition.body with
  | .onward _ => .ok none
  | .leaving result => .ok result

/-- Call a definition while a number of further calls may become active. -/
def invoke (program : Program) : Nat → Handler
  | 0 => fun _ _ _ => .error (.runtime .frameOverflow)
  | room + 1 => body program (invoke program room)

/-- Call the function of a name from outside. That call is active itself. -/
def call (program : Program) (name : Symbol) (arguments : List Value) : Result (Option Value) :=
  match program.definition? name with
  | none => .error (.runtime (.undefinedFunction name.name))
  | some definition =>
      if definition.parameters.length = arguments.length then
        body program (invoke program (Machine.maxFrames - 1)) definition arguments 0
      else
        .error (.runtime (.arityMismatch definition.name
          (UInt8.ofNat definition.parameters.length) arguments.length))

/-! ## Expressions and statements that stand alone -/

/-- Evaluate an expression that stands alone. Its unit takes the room of one call. -/
def loneExpression (program : Program) (evaluated : Expression) : Result Value :=
  expression program (invoke program (Machine.maxFrames - 1)) [] 0 evaluated

/-- Execute a statement that stands alone. A binding has the value that it binds; any other
statement has the value that it returns, if it returns one. -/
def loneStatement (program : Program) : Statement → Result (Option Value)
  | .binding _ initializer => do
      let value ← loneExpression program initializer
      .ok (some value)
  | other => do
      match ← statement program (invoke program (Machine.maxFrames - 1)) [] 0 other with
      | .onward _ => .ok none
      | .leaving result => .ok result

end Interpreter

end StackLang
