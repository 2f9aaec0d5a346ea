import StackLang.Proofs.Compile.Counterparts

/-! # What code depends on

Of the table of globals the code of a definition depends only on the slots to which names resolve:
not on the units that the globals have, nor on the names that are not live.

* `Compile.Environment.Agrees` — two environments in which names mean the same.
* `Compile.function_congr` — the code of a definition in two such environments. -/

namespace StackLang.Compile

open Bytecode (CodeUnit)

/-- Names have the same symbols and the same references. -/
structure Environment.Agrees (first second : Environment) : Prop where
  /-- The names belong to the same table of symbols. -/
  table_eq : first.table = second.table
  /-- The same names resolve, to the same slots. -/
  resolve?_eq : ∀ name, first.globals.resolve? (first.symbol name)
    = second.globals.resolve? (second.symbol name)

variable {first second : Environment}

theorem Environment.Agrees.reference?_eq (h : first.Agrees second) (name : String) :
    first.reference? name = second.reference? name := by
  have hsymbol : first.symbol name = second.symbol name := by
    rw [symbol, symbol, h.table_eq]
  rw [reference?, reference?, h.resolve?_eq, hsymbol]

/-- Names mean counterparts if each reference is its own counterpart. -/
theorem Environment.Agrees.alike (h : first.Agrees second) : first.Alike Eq second where
  table_eq := h.table_eq
  reference? name := by
    rw [h.reference?_eq]
    cases second.reference? name with
    | none => exact .none
    | some reference => exact .some rfl

/-- The code of a definition depends on what its names mean. -/
theorem function_congr (h : first.Agrees second) (definition : Definition) :
    function first definition = function second definition :=
  (alike_function h.alike definition).eq fun _ _ hunit => hunit.eq fun _ _ => id

end StackLang.Compile
