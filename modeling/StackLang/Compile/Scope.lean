import StackLang.Bytecode.CodeUnit
import StackLang.Token

/-! # Scopes

While code is running, the locals of a function lie on the stack from its base upwards, in the order
in which they were bound. The scope at a place in the source says which names they have there.

* `Scope` — the live locals.
* `Scope.slot?` — the slot of the local that a name means.
* `Scope.bind?` — one more local, as long as a byte can hold its slot.
* `CompileError` — why there is no code for a definition, an expression or a statement. -/

namespace StackLang

/-- Why there is no code for a part of a program. -/
inductive CompileError where
  /-- A name is neither a local nor a global. -/
  | unresolvedIdentifier (name : String)
  /-- The constants of one unit do not fit into its pool. -/
  | tooManyConstants
  /-- More locals are live than a byte can number. -/
  | tooManyLocals
  /-- A call has more arguments than a byte can count. -/
  | tooManyArguments
  /-- No instruction does what an operator stands for. -/
  | unsupportedOperator (infixSign : Operator)
  /-- Quoted texts are no values. -/
  | unsupportedLiteral
  deriving DecidableEq, Repr

namespace Compile

/-- The largest number of arguments, and of parameters: the largest byte. -/
def maxArguments : Nat := 255

/-- The live locals, the latest first. A name may occur more than once. -/
abbrev Scope := List String

namespace Scope

/-- The slot of the latest local with a name: the number of locals bound before it. -/
def slot? : Scope → String → Option Nat
  | [], _ => none
  | latest :: earlier, name => if latest = name then some earlier.length else slot? earlier name

/-- The scope with one more local, unless as many are live as a byte can number. -/
def bind? (scope : Scope) (name : String) : Option Scope :=
  if scope.length < Bytecode.capacity then some (name :: scope) else none

/-- A slot counts fewer locals than are live. -/
theorem lt_length_of_slot? {scope : Scope} {name : String} {slot : Nat}
    (found : scope.slot? name = some slot) : slot < scope.length := by
  induction scope with
  | nil => cases found
  | cons latest earlier inductionHypothesis =>
      simp only [slot?] at found
      split at found
      · cases found
        exact Nat.lt_succ_self _
      · exact Nat.lt_succ_of_lt (inductionHypothesis found)

/-- A name has a slot just if it is live. -/
theorem isSome_slot? (scope : Scope) (name : String) :
    (scope.slot? name).isSome = true ↔ name ∈ scope := by
  induction scope with
  | nil => simp [slot?]
  | cons latest earlier inductionHypothesis =>
      simp only [slot?, List.mem_cons]
      split
      · next same => simp [same]
      · next different => simp [inductionHypothesis, Ne.symm different]

end Scope

end Compile

/-- The message of a compile error. -/
def CompileError.message : CompileError → String
  | .unresolvedIdentifier name => s!"Unresolved identifier \"{name}\""
  | .tooManyConstants => s!"Too many constants in one function (limit {Bytecode.capacity})"
  | .tooManyLocals => s!"Too many local variables in one function (limit {Bytecode.capacity})"
  | .tooManyArguments => s!"Too many arguments in one call (limit {Compile.maxArguments})"
  | .unsupportedOperator infixSign => s!"Operator \"{infixSign.sign}\" has no instruction"
  | .unsupportedLiteral => "String literals cannot be compiled"

end StackLang
