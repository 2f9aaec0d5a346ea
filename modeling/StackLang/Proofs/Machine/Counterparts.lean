import Mathlib.Data.List.Forall2
import StackLang.Proofs.Machine.Running

/-! # Runs over two tables

Two tables of globals may have the same functions in different slots. Then references differ, and
with them the values and the constants that programs work on. Things are alike if they differ in
nothing but references, and there by counterparts. Alike states take alike steps, so alike units
have alike runs.

* `Value.Alike`, `AllAlike`, `CodeUnit.Alike`, `Machine.Alike` — values, stacks and pools, units,
  and states.
* `Globals.Interchangeable` — in two tables, counterparts have alike units.
* `Machine.alike_step` — alike states take alike steps.
* `Machine.alike_run` — alike units have alike runs. -/

namespace StackLang

open Bytecode (CodeUnit Pool decodeAt)

/-! ## Alike things -/

/-- Two options that are related have no values, or related values. -/
theorem rel_cases {α β : Type} {rel : α → β → Prop} {first : Option α} {second : Option β}
    (h : Option.Rel rel first second) :
    first = none ∧ second = none ∨ ∃ a b, first = some a ∧ second = some b ∧ rel a b := by
  cases h with
  | none => exact .inl ⟨rfl, rfl⟩
  | some h => exact .inr ⟨_, _, rfl, rfl, h⟩

/-- Options remain related when a wider relation is taken. -/
theorem rel_mono {α β : Type} {rel wider : α → β → Prop} {first : Option α} {second : Option β}
    (h : Option.Rel rel first second) (hwider : ∀ a b, rel a b → wider a b) :
    Option.Rel wider first second := by
  cases h with
  | none => exact .none
  | some h => exact .some (hwider _ _ h)

variable {counterpart : FunctionRef → FunctionRef → Prop}

/-- Values that are alike: the same number, or references that are counterparts. -/
inductive Value.Alike (counterpart : FunctionRef → FunctionRef → Prop) : Value → Value → Prop
  /-- A number is only like itself. -/
  | number (value : Float) : Alike counterpart (.number value) (.number value)
  /-- Counterparts are alike. -/
  | function {first second : FunctionRef} (h : counterpart first second) :
      Alike counterpart (.function first) (.function second)

/-- Stacks, or pools, that have alike values in all places. -/
def AllAlike (counterpart : FunctionRef → FunctionRef → Prop) (first second : Array Value) : Prop :=
  ∀ place : Nat, Option.Rel (Value.Alike counterpart) first[place]? second[place]?

/-- Units that have the same name, the same bytes and alike constants. -/
structure Bytecode.CodeUnit.Alike (counterpart : FunctionRef → FunctionRef → Prop)
    (first second : CodeUnit) : Prop where
  /-- The name is the same. -/
  name_eq : first.name = second.name
  /-- The number of arguments is the same. -/
  arity_eq : first.arity = second.arity
  /-- The bytes are the same. -/
  code_eq : first.code = second.code
  /-- The constants are alike. -/
  constants : AllAlike counterpart first.constants second.constants

/-- Calls of alike units that have come equally far. -/
structure Frame.Alike (counterpart : FunctionRef → FunctionRef → Prop) (first second : Frame) :
    Prop where
  /-- The units are alike. -/
  unit : first.unit.Alike counterpart second.unit
  /-- The next instruction is the same. -/
  offset_eq : first.offset = second.offset
  /-- The stacks were equally high. -/
  base_eq : first.base = second.base

/-- States with alike calls and alike stacks. -/
structure Machine.Alike (counterpart : FunctionRef → FunctionRef → Prop) (first second : Machine) :
    Prop where
  /-- The calls are alike. -/
  frames : List.Forall₂ (Frame.Alike counterpart) first.frames second.frames
  /-- The stacks are alike. -/
  stack : AllAlike counterpart first.stack second.stack

/-- Errors that are alike: the same one, or one about alike values. -/
inductive RuntimeError.Alike (counterpart : FunctionRef → FunctionRef → Prop) :
    RuntimeError → RuntimeError → Prop
  /-- An error is like itself. -/
  | same (error : RuntimeError) : Alike counterpart error error
  /-- The operands are alike. -/
  | invalidArithmetic {left right left' right' : Value} (hleft : left.Alike counterpart left')
      (hright : right.Alike counterpart right') :
      Alike counterpart (.invalidArithmetic left right) (.invalidArithmetic left' right')

/-- Steps that lead to alike states, or end with alike results. -/
inductive Transition.Alike (counterpart : FunctionRef → FunctionRef → Prop) :
    Transition → Transition → Prop
  /-- Both runs go on. -/
  | running {first second : Machine} (h : first.Alike counterpart second) :
      Alike counterpart (.running first) (.running second)
  /-- Both runs are over. -/
  | finished {result result' : Option Value} {stack stack' : Stack}
      (hresult : Option.Rel (Value.Alike counterpart) result result')
      (hstack : AllAlike counterpart stack stack') :
      Alike counterpart (.finished result stack) (.finished result' stack')
  /-- Both runs have failed. -/
  | failed {error error' : RuntimeError} {stack stack' : Stack}
      (herror : error.Alike counterpart error') (hstack : AllAlike counterpart stack stack') :
      Alike counterpart (.failed error stack) (.failed error' stack')

/-- Endings with alike results and alike stacks. -/
inductive Machine.Ending.Alike (counterpart : FunctionRef → FunctionRef → Prop) :
    Ending → Ending → Prop
  /-- Both runs have succeeded. -/
  | finished {result result' : Option Value} {stack stack' : Stack}
      (hresult : Option.Rel (Value.Alike counterpart) result result')
      (hstack : AllAlike counterpart stack stack') :
      Alike counterpart ⟨.ok result, stack⟩ ⟨.ok result', stack'⟩
  /-- Both runs have failed. -/
  | failed {error error' : RuntimeError} {stack stack' : Stack}
      (herror : error.Alike counterpart error') (hstack : AllAlike counterpart stack stack') :
      Alike counterpart ⟨.error error, stack⟩ ⟨.error error', stack'⟩

/-- In two tables counterparts have the same spelling, and alike units or none. -/
structure Globals.Interchangeable (counterpart : FunctionRef → FunctionRef → Prop)
    (first second : Globals) : Prop where
  /-- The spelling is the same. -/
  name_eq : ∀ {left right : FunctionRef}, counterpart left right → left.name.name = right.name.name
  /-- The units are alike. -/
  unit? : ∀ {left right : FunctionRef}, counterpart left right →
    Option.Rel (CodeUnit.Alike counterpart) (first.unit? left.slot) (second.unit? right.slot)

/-- Alike units go by the same name. -/
theorem Bytecode.CodeUnit.Alike.displayName_eq {first second : CodeUnit}
    (h : first.Alike counterpart second) : first.displayName = second.displayName := by
  rw [displayName, displayName, h.name_eq]

/-! ## More counterparts, and fewer -/

section

variable {wider : FunctionRef → FunctionRef → Prop}
  (hwider : ∀ left right, counterpart left right → wider left right)

include hwider

/-- Values remain alike when there are more counterparts. -/
theorem Value.Alike.mono {first second : Value} (h : first.Alike counterpart second) :
    first.Alike wider second := by
  cases h with
  | number value => exact .number value
  | function h => exact .function (hwider _ _ h)

/-- Stacks and pools remain alike when there are more counterparts. -/
theorem AllAlike.mono {first second : Array Value} (h : AllAlike counterpart first second) :
    AllAlike wider first second :=
  fun place => rel_mono (h place) fun _ _ hvalue => hvalue.mono hwider

/-- Units remain alike when there are more counterparts. -/
theorem Bytecode.CodeUnit.Alike.mono {first second : CodeUnit}
    (h : first.Alike counterpart second) : first.Alike wider second :=
  ⟨h.name_eq, h.arity_eq, h.code_eq, h.constants.mono hwider⟩

end

section

variable (heq : ∀ left right, counterpart left right → left = right)

include heq

/-- Where references are their own counterparts only, alike values are equal. -/
theorem Value.Alike.eq {first second : Value} (h : first.Alike counterpart second) :
    first = second := by
  cases h with
  | number value => rfl
  | function h => rw [heq _ _ h]

/-- Where references are their own counterparts only, alike stacks are equal. -/
theorem AllAlike.eq {first second : Array Value} (h : AllAlike counterpart first second) :
    first = second := by
  apply Array.ext_getElem?
  intro place
  rcases rel_cases (h place) with ⟨hfirst, hsecond⟩ | ⟨_, _, hfirst, hsecond, hvalue⟩
  · rw [hfirst, hsecond]
  · rw [hfirst, hsecond, hvalue.eq heq]

/-- Where references are their own counterparts only, alike units are equal. -/
theorem Bytecode.CodeUnit.Alike.eq {first second : CodeUnit} (h : first.Alike counterpart second) :
    first = second := by
  obtain ⟨name, arity, code, constants⟩ := first
  obtain ⟨name', arity', code', constants'⟩ := second
  obtain ⟨rfl, rfl, rfl, hconstants⟩ := h
  cases hconstants.eq heq
  rfl

/-- Where references are their own counterparts only, alike endings are equal. -/
theorem Machine.Ending.Alike.eq {first second : Ending} (h : first.Alike counterpart second) :
    first = second := by
  cases h with
  | finished hresult hstack =>
      rw [hstack.eq heq]
      cases hresult with
      | none => rfl
      | some hvalue => rw [hvalue.eq heq]
  | failed herror hstack =>
      rw [hstack.eq heq]
      cases herror with
      | same error => rfl
      | invalidArithmetic hleft hright => rw [hleft.eq heq, hright.eq heq]

end

/-! ## Stacks and pools -/

namespace AllAlike

variable {first second : Array Value}

theorem empty : AllAlike counterpart #[] #[] := by
  intro place
  exact .none

theorem size_eq (h : AllAlike counterpart first second) : first.size = second.size := by
  have hend : ∀ place : Nat, first.size ≤ place ↔ second.size ≤ place := by
    intro place
    rw [← Array.getElem?_eq_none_iff, ← Array.getElem?_eq_none_iff]
    rcases rel_cases (h place) with ⟨hfirst, hsecond⟩ | ⟨_, _, hfirst, hsecond, -⟩
    · rw [hfirst, hsecond]
    · rw [hfirst, hsecond]
      exact iff_of_false (Option.some_ne_none _) (Option.some_ne_none _)
  exact Nat.le_antisymm ((hend _).mpr (Nat.le_refl _)) ((hend _).mp (Nat.le_refl _))

theorem push (h : AllAlike counterpart first second) {value value' : Value}
    (hvalue : value.Alike counterpart value') :
    AllAlike counterpart (first.push value) (second.push value') := by
  intro place
  rw [Array.getElem?_push, Array.getElem?_push, h.size_eq]
  split
  · exact .some hvalue
  · exact h place

theorem pop (h : AllAlike counterpart first second) :
    AllAlike counterpart first.pop second.pop := by
  intro place
  rw [Array.getElem?_pop, Array.getElem?_pop, h.size_eq]
  split
  · exact h place
  · exact .none

theorem back? (h : AllAlike counterpart first second) :
    Option.Rel (Value.Alike counterpart) first.back? second.back? := by
  rw [Array.back?_eq_getElem?, Array.back?_eq_getElem?, h.size_eq]
  exact h _

theorem shrink (h : AllAlike counterpart first second) (height : Nat) :
    AllAlike counterpart (first.shrink height) (second.shrink height) := by
  intro place
  rw [Array.shrink_eq_take, Array.shrink_eq_take, Array.take_eq_extract, Array.take_eq_extract,
    Array.getElem?_extract, Array.getElem?_extract, h.size_eq]
  split
  · exact h _
  · exact .none

end AllAlike

/-- The constants at an index are alike. -/
theorem Bytecode.CodeUnit.Alike.constant? {first second : CodeUnit}
    (h : first.Alike counterpart second) (index : UInt8) :
    Option.Rel (Value.Alike counterpart) (first.constant? index) (second.constant? index) :=
  h.constants index.toNat

/-! ## Steps -/

namespace Machine

variable {frames frames' callers callers' : List Frame} {stack stack' : Stack}

theorem alike_push (hframes : List.Forall₂ (Frame.Alike counterpart) frames frames')
    (hstack : AllAlike counterpart stack stack') {value value' : Value}
    (hvalue : value.Alike counterpart value') :
    (push frames stack value).Alike counterpart (push frames' stack' value') := by
  rw [push, push, hstack.size_eq]
  split
  · exact .running ⟨hframes, hstack.push hvalue⟩
  · exact .failed (.same _) hstack

/-- Where there is a value to put on each stack, it is put there. -/
theorem alike_load (hframes : List.Forall₂ (Frame.Alike counterpart) frames frames')
    (hstack : AllAlike counterpart stack stack') (error : RuntimeError)
    {found found' : Option Value} :
    Option.Rel (Value.Alike counterpart) found found' →
    Transition.Alike counterpart
      (match found with
        | some value => push frames stack value
        | none => .failed error stack)
      (match found' with
        | some value => push frames' stack' value
        | none => .failed error stack') := by
  intro hfound
  cases hfound with
  | none => exact .failed (.same _) hstack
  | some hvalue => exact alike_push hframes hstack hvalue

theorem alike_operate (operation : Float → Float → Float)
    (hframes : List.Forall₂ (Frame.Alike counterpart) frames frames')
    (hstack : AllAlike counterpart stack stack') :
    (operate operation frames stack).Alike counterpart (operate operation frames' stack') := by
  rw [operate, operate]
  rcases rel_cases hstack.back? with ⟨hnone, hnone'⟩ | ⟨right, right', hright, hright', hsame⟩
  · rw [hnone, hnone']
    exact .failed (.same _) hstack
  · rw [hright, hright']
    dsimp only
    rcases rel_cases hstack.pop.back? with ⟨hnone, hnone'⟩ | ⟨left, left', hleft, hleft', hother⟩
    · rw [hnone, hnone']
      exact .failed (.same _) hstack.pop
    · rw [hleft, hleft']
      dsimp only
      -- Only two numbers have a result, and they are the same on both sides.
      cases hother with
      | number first =>
          cases hsame with
          | number second => exact alike_push hframes hstack.pop.pop (.number _)
          | function hsecond =>
              exact .failed (.invalidArithmetic (.number _) (.function hsecond)) hstack.pop.pop
      | function hfirst =>
          exact .failed (.invalidArithmetic (.function hfirst) hsame) hstack.pop.pop

theorem alike_enter {unit unit' : CodeUnit} (hunit : unit.Alike counterpart unit') (count : UInt8)
    (hframes : List.Forall₂ (Frame.Alike counterpart) frames frames')
    (hstack : AllAlike counterpart stack stack') :
    (enter unit count frames stack).Alike counterpart (enter unit' count frames' stack') := by
  rw [enter, enter, hunit.arity_eq, hunit.displayName_eq, hstack.size_eq, hframes.length_eq]
  split
  · exact .failed (.same _) hstack
  · split
    · exact .failed (.same _) hstack
    · split
      · exact .failed (.same _) hstack
      · exact .running ⟨.cons ⟨hunit, rfl, rfl⟩ hframes, hstack⟩

variable {globals globals' : Globals}

theorem alike_callTop (htables : globals.Interchangeable counterpart globals') (count : UInt8)
    (hframes : List.Forall₂ (Frame.Alike counterpart) frames frames')
    (hstack : AllAlike counterpart stack stack') :
    (callTop globals count frames stack).Alike counterpart
      (callTop globals' count frames' stack') := by
  rw [callTop, callTop]
  rcases rel_cases hstack.back? with ⟨hnone, hnone'⟩ | ⟨callee, callee', hcallee, hcallee', hsame⟩
  · rw [hnone, hnone']
    exact .failed (.same _) hstack
  · rw [hcallee, hcallee']
    cases hsame with
    | number value => exact .failed (.same _) hstack.pop
    | @function left right hreference =>
        dsimp only
        rcases rel_cases (htables.unit? hreference) with ⟨hnone, hnone'⟩
          | ⟨unit, unit', hunit, hunit', hcode⟩
        · rw [hnone, hnone', htables.name_eq hreference]
          exact .failed (.same _) hstack.pop
        · rw [hunit, hunit']
          exact alike_enter hcode count hframes hstack.pop

theorem alike_leave {frame frame' : Frame} (hframe : frame.Alike counterpart frame')
    (hcallers : List.Forall₂ (Frame.Alike counterpart) callers callers')
    {result result' : Option Value} (hresult : Option.Rel (Value.Alike counterpart) result result')
    (hstack : AllAlike counterpart stack stack') :
    (leave frame callers result stack).Alike counterpart
      (leave frame' callers' result' stack') := by
  have hbelow := hstack.shrink frame.base
  unfold leave
  rw [← hframe.base_eq]
  cases hresult with
  | none =>
      cases hcallers with
      | nil => exact .finished .none hbelow
      | cons hcaller hothers =>
          dsimp only
          rw [hframe.unit.displayName_eq]
          exact .failed (.same _) hbelow
  | some hvalue =>
      cases hcallers with
      | nil =>
          dsimp only
          rw [hbelow.size_eq]
          split
          · exact .finished (.some hvalue) (hbelow.push hvalue)
          · exact .failed (.same _) hbelow
      | cons hcaller hothers => exact alike_push (.cons hcaller hothers) hbelow hvalue

/-- An instruction does alike things in alike states. -/
theorem alike_perform (htables : globals.Interchangeable counterpart globals')
    {frame frame' : Frame} (hframe : frame.Alike counterpart frame')
    (hcallers : List.Forall₂ (Frame.Alike counterpart) callers callers')
    (hstack : AllAlike counterpart stack stack') (instruction : Bytecode.Instruction) :
    (perform globals frame callers stack instruction).Alike counterpart
      (perform globals' frame' callers' stack' instruction) := by
  have hframes := List.Forall₂.cons hframe hcallers
  cases instruction with
  | constant index => exact alike_load hframes hstack _ (hframe.unit.constant? index)
  | loadGlobal index => exact alike_load hframes hstack _ (hframe.unit.constant? index)
  | loadLocal slot =>
      rw [perform, perform, ← hframe.base_eq]
      exact alike_load hframes hstack _ (hstack _)
  | add => exact alike_operate _ hframes hstack
  | subtract => exact alike_operate _ hframes hstack
  | multiply => exact alike_operate _ hframes hstack
  | divide => exact alike_operate _ hframes hstack
  | pop =>
      rw [perform, perform]
      rcases rel_cases hstack.back? with ⟨hnone, hnone'⟩ | ⟨_, _, hsome, hsome', -⟩
      · rw [hnone, hnone']
        exact .failed (.same _) hstack
      · rw [hsome, hsome']
        exact .running ⟨hframes, hstack.pop⟩
  | call count => exact alike_callTop htables count hframes hstack
  | halt => exact .finished hstack.back? hstack
  | returnVoid => exact alike_leave hframe hcallers .none hstack
  | returnValue =>
      rw [perform, perform]
      rcases rel_cases hstack.back? with ⟨hnone, hnone'⟩ | ⟨_, _, hsome, hsome', hvalue⟩
      · rw [hnone, hnone']
        exact .failed (.same _) hstack
      · rw [hsome, hsome']
        exact alike_leave hframe hcallers (.some hvalue) hstack.pop

/-- Alike states take alike steps. -/
theorem alike_step (htables : globals.Interchangeable counterpart globals')
    {machine machine' : Machine} (h : machine.Alike counterpart machine') :
    (machine.step globals).Alike counterpart (machine'.step globals') := by
  obtain ⟨frames, stack⟩ := machine
  obtain ⟨frames', stack'⟩ := machine'
  obtain ⟨hframes, hstack⟩ := h
  cases hframes with
  | nil => exact .finished hstack.back? hstack
  | @cons frame frame' callers callers' hframe hcallers =>
      unfold step
      dsimp only
      rw [← hframe.offset_eq, ← hframe.unit.code_eq]
      split
      · cases decodeAt frame.unit.code frame.offset with
        | error error => exact .failed (.same _) hstack
        | ok found =>
            have hmoved : ({ frame with offset := found.2 } : Frame).Alike counterpart
                { frame' with offset := found.2 } := ⟨hframe.unit, rfl, hframe.base_eq⟩
            exact alike_perform htables hmoved hcallers hstack found.1
      · cases hcallers with
        | nil => exact .finished hstack.back? hstack
        | cons hcaller hothers => exact alike_leave hframe (.cons hcaller hothers) .none hstack

/-! ## Runs -/

/-- Alike steps lead to alike endings if runs that go on do so. -/
theorem alike_ofTransition {go go' : Machine → Ending} {transition transition' : Transition}
    (h : transition.Alike counterpart transition')
    (hgo : ∀ after after', transition = .running after → after.Alike counterpart after' →
      (go after).Alike counterpart (go' after')) :
    (Ending.ofTransition go transition).Alike counterpart
      (Ending.ofTransition go' transition') := by
  cases h with
  | running hafter => exact hgo _ _ rfl hafter
  | finished hresult hstack => exact .finished hresult hstack
  | failed herror hstack => exact .failed herror hstack

/-- Runs from alike states have alike endings. -/
theorem alike_execute (htables : globals.Interchangeable counterpart globals') {limit limit' : Nat}
    (small : ∀ slot unit, globals.unit? slot = some unit → unit.code.size ≤ limit)
    (small' : ∀ slot unit, globals'.unit? slot = some unit → unit.code.size ≤ limit')
    {machine machine' : Machine} (h : machine.Alike counterpart machine') :
    (execute globals limit small machine).Alike counterpart
      (execute globals' limit' small' machine') := by
  -- The steps of the first run lower its potential, and the second run keeps pace.
  induction hpotential : potential limit machine.frames using Nat.strongRecOn
    generalizing machine machine' with
  | ind _ ih =>
      rw [runs_execute globals, runs_execute globals']
      refine alike_ofTransition (alike_step htables h) fun after after' htaken hafter => ?_
      exact ih _ (hpotential ▸ (moves_of_step htaken).potential_lt small) hafter rfl

/-- Runs of alike units with the same arguments, if these are like themselves, have alike
endings. -/
theorem alike_run (htables : globals.Interchangeable counterpart globals') {unit unit' : CodeUnit}
    (hunit : unit.Alike counterpart unit') {arguments arguments' : List Value}
    (harguments : AllAlike counterpart arguments.toArray arguments'.toArray) :
    (run globals unit arguments).Alike counterpart (run globals' unit' arguments') := by
  have hlength : arguments.length = arguments'.length := harguments.size_eq
  rw [run, run, hunit.arity_eq, hlength, hunit.displayName_eq]
  split
  · exact alike_execute htables _ _ ⟨.cons ⟨hunit, rfl, rfl⟩ .nil, harguments⟩
  · exact .failed (.same _) AllAlike.empty

end Machine

end StackLang
