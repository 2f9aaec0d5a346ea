import StackLang.Compile.Statement
import StackLang.Proofs.Machine.Counterparts

/-! # Code over two tables

Where names mean counterparts in two environments, a part of a program either has no code in both of
them, for the same reason, or it has the same code and alike constants.

* `Compile.Environment.Alike` — two environments in which names mean counterparts.
* `Compile.Both` — two results that are related, or the same error twice.
* `Compile.alike_function`, `Compile.alike_loneExpression`, `Compile.alike_loneStatement` — units
  over two tables. -/

namespace StackLang.Compile

open Bytecode (CodeUnit Instruction Pool)

variable {counterpart : FunctionRef → FunctionRef → Prop}

/-- Names have the same symbols in two environments, and mean counterparts there. -/
structure Environment.Alike (counterpart : FunctionRef → FunctionRef → Prop)
    (first second : Environment) : Prop where
  /-- The names belong to the same table of symbols. -/
  table_eq : first.table = second.table
  /-- A name means nothing in both of them, or it means counterparts. -/
  reference? : ∀ name,
    Option.Rel counterpart (first.reference? name) (second.reference? name)

/-- Results that are related, or the same error twice. -/
inductive Both {ε α : Type} (rel : α → α → Prop) : Except ε α → Except ε α → Prop
  /-- The results are related. -/
  | ok {first second : α} (h : rel first second) : Both rel (.ok first) (.ok second)
  /-- There are no results for the same reason. -/
  | error (reason : ε) : Both rel (.error reason) (.error reason)

section

variable {ε ε' α β : Type} {rel : α → α → Prop} {first second : Except ε α}
  (h : Both rel first second)

include h

/-- What is computed from related results is related if the rest keeps it so. -/
theorem Both.bind {goal : β → β → Prop} {next next' : α → Except ε β}
    (hnext : ∀ left right, rel left right → Both goal (next left) (next' right)) :
    Both goal (first >>= next) (second >>= next') := by
  cases h with
  | ok hrel => exact hnext _ _ hrel
  | error reason => exact .error reason

/-- The errors may be given in other words. -/
theorem Both.mapError (words : ε → ε') :
    Both rel (first.mapError words) (second.mapError words) := by
  cases h with
  | ok hrel => exact .ok hrel
  | error reason => exact .error (words reason)

/-- Either there are related results, or the same error twice. -/
theorem both_cases :
    (∃ left right, first = .ok left ∧ second = .ok right ∧ rel left right)
      ∨ ∃ reason, first = .error reason ∧ second = .error reason := by
  cases h with
  | ok hrel => exact .inl ⟨_, _, rfl, rfl, hrel⟩
  | error reason => exact .inr ⟨reason, rfl, rfl⟩

/-- Results that can only be related if they are equal. -/
theorem Both.eq (heq : ∀ left right, rel left right → left = right) : first = second := by
  cases h with
  | ok hrel => rw [heq _ _ hrel]
  | error reason => rfl

end

/-- Where there are results, they are related. -/
theorem Both.of_ok {ε α : Type} {rel : α → α → Prop} {first second : α}
    (h : Both rel (.ok first : Except ε α) (.ok second)) : rel first second := by
  cases h with
  | ok hrel => exact hrel

/-! ## Expressions -/

/-- The same code, with alike pools. -/
structure AlikeLoads (counterpart : FunctionRef → FunctionRef → Prop)
    (first second : List Instruction × Pool) : Prop where
  /-- The instructions are the same. -/
  code_eq : first.1 = second.1
  /-- The constants are alike. -/
  pool : AllAlike counterpart first.2 second.2

variable {pool pool' : Pool}

theorem alike_constantLoad (load : UInt8 → Instruction) {value value' : Value}
    (hvalue : value.Alike counterpart value') (hpool : AllAlike counterpart pool pool') :
    Both (AlikeLoads counterpart) (constantLoad load value pool)
      (constantLoad load value' pool') := by
  rw [constantLoad, constantLoad, Pool.add?, Pool.add?, hpool.size_eq]
  by_cases hroom : pool'.size < Bytecode.capacity
  · rw [if_pos hroom, if_pos hroom]
    exact .ok ⟨rfl, hpool.push hvalue⟩
  · rw [if_neg hroom, if_neg hroom]
    exact .error _

variable {environment environment' : Environment}

theorem alike_nameLoad (h : environment.Alike counterpart environment') (scope : Scope)
    (name : String) (hpool : AllAlike counterpart pool pool') :
    Both (AlikeLoads counterpart) (nameLoad environment scope name pool)
      (nameLoad environment' scope name pool') := by
  rw [nameLoad, nameLoad]
  cases scope.slot? name with
  | some slot => exact .ok ⟨rfl, hpool⟩
  | none =>
      rcases rel_cases (h.reference? name) with ⟨hnone, hnone'⟩
        | ⟨left, right, hleft, hright, hreference⟩
      · rw [hnone, hnone']
        exact .error _
      · rw [hleft, hright]
        exact alike_constantLoad _ (.function hreference) hpool

mutual

/-- The code of an expression is the same. -/
theorem alike_expression (h : environment.Alike counterpart environment') (scope : Scope)
    {pool pool' : Pool} (hpool : AllAlike counterpart pool pool') : (evaluated : Expression) →
    Both (AlikeLoads counterpart) (expression environment scope pool evaluated)
      (expression environment' scope pool' evaluated)
  | .number value => by
      rw [expression, expression]
      exact alike_constantLoad _ (.number value) hpool
  | .text contents => by
      rw [expression, expression]
      exact .error _
  | .name spelling => by
      rw [expression, expression]
      exact alike_nameLoad h scope spelling hpool
  | .binary left infixSign right => by
      rw [expression, expression]
      cases arithmetic? infixSign with
      | none => exact .error _
      | some instruction =>
          refine (alike_expression h scope hpool left).bind ?_
          rintro ⟨first, withLeft⟩ ⟨_, withLeft'⟩ ⟨rfl, hleft⟩
          refine (alike_expression h scope hleft right).bind ?_
          rintro ⟨second, withRight⟩ ⟨_, withRight'⟩ ⟨rfl, hright⟩
          exact .ok ⟨rfl, hright⟩
  | .call callee arguments => by
      rw [expression, expression]
      split
      · refine (alike_expressions h scope hpool arguments).bind ?_
        rintro ⟨operands, withArguments⟩ ⟨_, withArguments'⟩ ⟨rfl, harguments⟩
        refine (alike_expression h scope harguments callee).bind ?_
        rintro ⟨called, withCallee⟩ ⟨_, withCallee'⟩ ⟨rfl, hcallee⟩
        exact .ok ⟨rfl, hcallee⟩
      · exact .error _

/-- The code of several expressions is the same. -/
theorem alike_expressions (h : environment.Alike counterpart environment') (scope : Scope)
    {pool pool' : Pool} (hpool : AllAlike counterpart pool pool') : (evaluated : List Expression) →
    Both (AlikeLoads counterpart) (expressions environment scope pool evaluated)
      (expressions environment' scope pool' evaluated)
  | [] => by
      rw [expressions, expressions]
      exact .ok ⟨rfl, hpool⟩
  | first :: others => by
      rw [expressions, expressions]
      refine (alike_expression h scope hpool first).bind ?_
      rintro ⟨head, withFirst⟩ ⟨_, withFirst'⟩ ⟨rfl, hfirst⟩
      refine (alike_expressions h scope hfirst others).bind ?_
      rintro ⟨tail, withOthers⟩ ⟨_, withOthers'⟩ ⟨rfl, hothers⟩
      exact .ok ⟨rfl, hothers⟩

end

/-! ## Statements -/

/-- The same code and the same locals behind it, with alike pools. -/
structure Emission.Alike (counterpart : FunctionRef → FunctionRef → Prop)
    (first second : Emission) : Prop where
  /-- The instructions are the same. -/
  code_eq : first.code = second.code
  /-- The live locals are the same. -/
  scope_eq : first.scope = second.scope
  /-- The constants are alike. -/
  pool : AllAlike counterpart first.pool second.pool

mutual

/-- The code of a statement is the same. -/
theorem alike_statement (h : environment.Alike counterpart environment') (scope : Scope)
    {pool pool' : Pool} (hpool : AllAlike counterpart pool pool') : (executed : Statement) →
    Both (Emission.Alike counterpart) (statement environment scope pool executed)
      (statement environment' scope pool' executed)
  | .binding name initializer => by
      rw [statement, statement]
      refine (alike_expression h scope hpool initializer).bind ?_
      rintro ⟨code, extended⟩ ⟨_, extended'⟩ ⟨rfl, hextended⟩
      dsimp only
      cases scope.bind? name with
      | some inner => exact .ok ⟨rfl, rfl, hextended⟩
      | none => exact .error _
  | .returning none => by
      rw [statement, statement]
      exact .ok ⟨rfl, rfl, hpool⟩
  | .returning (some value) => by
      rw [statement, statement]
      refine (alike_expression h scope hpool value).bind ?_
      rintro ⟨code, extended⟩ ⟨_, extended'⟩ ⟨rfl, hextended⟩
      exact .ok ⟨rfl, rfl, hextended⟩
  | .expression evaluated => by
      rw [statement, statement]
      refine (alike_expression h scope hpool evaluated).bind ?_
      rintro ⟨code, extended⟩ ⟨_, extended'⟩ ⟨rfl, hextended⟩
      exact .ok ⟨rfl, rfl, hextended⟩
  | .block inside => by
      rw [statement, statement]
      refine (alike_statements h scope hpool inside).bind ?_
      rintro ⟨code, inner, extended⟩ ⟨_, _, extended'⟩ ⟨rfl, rfl, hextended⟩
      exact .ok ⟨rfl, rfl, hextended⟩

/-- The code of several statements is the same. -/
theorem alike_statements (h : environment.Alike counterpart environment') (scope : Scope)
    {pool pool' : Pool} (hpool : AllAlike counterpart pool pool') : (executed : List Statement) →
    Both (Emission.Alike counterpart) (statements environment scope pool executed)
      (statements environment' scope pool' executed)
  | [] => by
      rw [statements, statements]
      exact .ok ⟨rfl, rfl, hpool⟩
  | first :: others => by
      rw [statements, statements]
      refine (alike_statement h scope hpool first).bind ?_
      rintro ⟨head, inner, withFirst⟩ ⟨_, _, withFirst'⟩ ⟨rfl, rfl, hfirst⟩
      refine (alike_statements h inner hfirst others).bind ?_
      rintro ⟨tail, final, withOthers⟩ ⟨_, _, withOthers'⟩ ⟨rfl, rfl, hothers⟩
      exact .ok ⟨rfl, rfl, hothers⟩

end

/-! ## Units -/

/-- The units of a definition are alike. -/
theorem alike_function (h : environment.Alike counterpart environment') (definition : Definition) :
    Both (CodeUnit.Alike counterpart) (function environment definition)
      (function environment' definition) := by
  rw [function, function]
  split
  · refine (alike_statements h _ AllAlike.empty definition.body).bind ?_
    rintro ⟨code, scope, pool⟩ ⟨_, _, pool'⟩ ⟨rfl, rfl, hpool⟩
    refine .ok ⟨?_, rfl, rfl, hpool⟩
    exact congrArg some (congrArg (Symbol.mk · definition.name) h.table_eq)
  · exact .error _

/-- The units of an expression that stands alone are alike. -/
theorem alike_loneExpression (h : environment.Alike counterpart environment')
    (evaluated : Expression) :
    Both (CodeUnit.Alike counterpart) (loneExpression environment evaluated)
      (loneExpression environment' evaluated) := by
  rw [loneExpression, loneExpression]
  refine (alike_expression h [] AllAlike.empty evaluated).bind ?_
  rintro ⟨code, pool⟩ ⟨_, pool'⟩ ⟨rfl, hpool⟩
  exact .ok ⟨rfl, rfl, rfl, hpool⟩

/-- The units of a statement that stands alone are alike. -/
theorem alike_loneStatement (h : environment.Alike counterpart environment')
    (executed : Statement) :
    Both (CodeUnit.Alike counterpart) (loneStatement environment executed)
      (loneStatement environment' executed) := by
  rw [loneStatement, loneStatement]
  refine (alike_statement h [] AllAlike.empty executed).bind ?_
  rintro ⟨code, scope, pool⟩ ⟨_, _, pool'⟩ ⟨rfl, rfl, hpool⟩
  exact .ok ⟨rfl, rfl, rfl, hpool⟩

end StackLang.Compile
