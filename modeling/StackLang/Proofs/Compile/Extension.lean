import StackLang.Compile.Statement

/-! # Code and further names

A name that resolves already goes on to mean what it means when further names are declared. Whatever
has code before has the same code then; what had no code may have some.

* `Compile.Environment.Extends` — an environment in which more names mean something.
* `Compile.Refines` — a result stays if there was one.
* `Compile.extends_function` — the code of a definition in a larger environment. -/

namespace StackLang.Compile

open Bytecode (CodeUnit Pool)

/-- The second environment has the names of the first one, with the same references. -/
structure Environment.Extends (first second : Environment) : Prop where
  /-- The names belong to the same table of symbols. -/
  table_eq : first.table = second.table
  /-- A name that means something goes on to mean it. -/
  reference?_eq : ∀ {name : String} {reference : FunctionRef},
    first.reference? name = some reference → second.reference? name = some reference

/-- The second computation has the result of the first one, if that has one. -/
def Refines {ε α : Type} (first second : Except ε α) : Prop :=
  ∀ result, first = .ok result → second = .ok result

section

variable {ε α β : Type}

theorem Refines.refl (computed : Except ε α) : Refines computed computed :=
  fun _ h => h

theorem Refines.error (reason : ε) (second : Except ε α) : Refines (.error reason) second := by
  intro result h
  cases h

/-- What is computed from a result stays if the result does and the rest stays. -/
theorem Refines.bind {first second : Except ε α} {next next' : α → Except ε β}
    (h : Refines first second) (hnext : ∀ value, Refines (next value) (next' value)) :
    Refines (first >>= next) (second >>= next') := by
  intro result hresult
  cases hfirst : first with
  | error reason =>
      rw [hfirst] at hresult
      cases hresult
  | ok value =>
      rw [hfirst] at hresult
      rw [h value hfirst]
      exact hnext value result hresult

end

variable {environment environment' : Environment}

theorem extends_nameLoad (h : environment.Extends environment') (scope : Scope) (name : String)
    (pool : Pool) :
    Refines (nameLoad environment scope name pool) (nameLoad environment' scope name pool) := by
  rw [nameLoad, nameLoad]
  cases scope.slot? name with
  | some slot => exact .refl _
  | none =>
      cases hreference : environment.reference? name with
      | none => exact .error _ _
      | some reference =>
          rw [h.reference?_eq hreference]
          exact .refl _

mutual

/-- The code of an expression stays. -/
theorem extends_expression (h : environment.Extends environment') (scope : Scope) (pool : Pool) :
    (evaluated : Expression) →
    Refines (expression environment scope pool evaluated)
      (expression environment' scope pool evaluated)
  | .number value => by
      rw [expression, expression]
      exact .refl _
  | .text contents => by
      rw [expression, expression]
      exact .refl _
  | .name spelling => by
      rw [expression, expression]
      exact extends_nameLoad h scope spelling pool
  | .binary left infixSign right => by
      rw [expression, expression]
      cases arithmetic? infixSign with
      | none => exact .refl _
      | some instruction =>
          exact (extends_expression h scope pool left).bind fun withLeft =>
            (extends_expression h scope withLeft.2 right).bind fun _ => .refl _
  | .call callee arguments => by
      rw [expression, expression]
      split
      · exact (extends_expressions h scope pool arguments).bind fun withArguments =>
          (extends_expression h scope withArguments.2 callee).bind fun _ => .refl _
      · exact .refl _

/-- The code of several expressions stays. -/
theorem extends_expressions (h : environment.Extends environment') (scope : Scope) (pool : Pool) :
    (evaluated : List Expression) →
    Refines (expressions environment scope pool evaluated)
      (expressions environment' scope pool evaluated)
  | [] => by
      rw [expressions, expressions]
      exact .refl _
  | first :: others => by
      rw [expressions, expressions]
      exact (extends_expression h scope pool first).bind fun withFirst =>
        (extends_expressions h scope withFirst.2 others).bind fun _ => .refl _

end

mutual

/-- The code of a statement stays. -/
theorem extends_statement (h : environment.Extends environment') (scope : Scope) (pool : Pool) :
    (executed : Statement) →
    Refines (statement environment scope pool executed)
      (statement environment' scope pool executed)
  | .binding name initializer => by
      rw [statement, statement]
      exact (extends_expression h scope pool initializer).bind fun _ => .refl _
  | .returning none => by
      rw [statement, statement]
      exact .refl _
  | .returning (some value) => by
      rw [statement, statement]
      exact (extends_expression h scope pool value).bind fun _ => .refl _
  | .expression evaluated => by
      rw [statement, statement]
      exact (extends_expression h scope pool evaluated).bind fun _ => .refl _
  | .block inside => by
      rw [statement, statement]
      exact (extends_statements h scope pool inside).bind fun _ => .refl _

/-- The code of several statements stays. -/
theorem extends_statements (h : environment.Extends environment') (scope : Scope) (pool : Pool) :
    (executed : List Statement) →
    Refines (statements environment scope pool executed)
      (statements environment' scope pool executed)
  | [] => by
      rw [statements, statements]
      exact .refl _
  | first :: others => by
      rw [statements, statements]
      exact (extends_statement h scope pool first).bind fun head =>
        (extends_statements h head.scope head.pool others).bind fun _ => .refl _

end

/-- The unit of a definition stays. -/
theorem extends_function (h : environment.Extends environment') (definition : Definition) :
    Refines (function environment definition) (function environment' definition) := by
  rw [function, function]
  split
  · refine (extends_statements h _ _ _).bind fun body => ?_
    rw [Environment.symbol, Environment.symbol, h.table_eq]
    exact .refl _
  · exact .refl _

end StackLang.Compile
