import StackLang.Proofs.Build.Incremental
import StackLang.Proofs.Globals.Spellings
import StackLang.Proofs.Session.Answers

/-! # The order of definitions

A build declares all names before it compiles the first definition. So if no name is defined twice,
the order of the definitions decides on nothing but the slots: in any order there is code for all
definitions or not, and where there is, the tables are alike.

* `latest?_perm` — which definition a name has.
* `alike_declared_perm` — names mean the same whatever the order in which they are declared.
* `alike_perm` — the tables are alike.
* `Machine.Ending.told` — what a run comes to, with no slots told.
* `ofSource_lines_perm` — texts of one definition each are built in any order. -/

namespace StackLang

open Bytecode (CodeUnit)
open Compile (Environment)

namespace Build

variable {table : Nat}

/-! ## Definitions in another order -/

section

variable {first second : List Definition} (hperm : first.Perm second)

include hperm

/-- The same names are declared. -/
theorem mem_symbols_perm (name : Symbol) :
    name ∈ symbols table first ↔ name ∈ symbols table second :=
  (hperm.map _).mem_iff

/-- If no name is defined twice, a name has the same definition in any order. -/
theorem latest?_perm (hnames : (first.map Definition.name).Nodup) (name : Symbol) :
    latest? table first name = latest? table second name := by
  cases hfirst : latest? table first name with
  | none =>
      rw [latest?_eq_none_iff, mem_symbols_perm hperm] at hfirst
      exact (latest?_eq_none_iff.mpr hfirst).symm
  | some found =>
      obtain ⟨hmem, hfound⟩ := mem_of_latest? hfirst
      cases hsecond : latest? table second name with
      | none =>
          rw [latest?_eq_none_iff, ← mem_symbols_perm hperm] at hsecond
          exact absurd (List.mem_map.mpr ⟨found, hmem, hfound⟩) hsecond
      | some other =>
          -- Both have the name, and only one definition has it.
          obtain ⟨hother, hsame⟩ := mem_of_latest? hsecond
          have hname : found.name = other.name :=
            congrArg Symbol.name (hfound.trans hsame.symm)
          rw [List.inj_on_of_nodup_map hnames hmem (hperm.mem_iff.mpr hother) hname]

section

variable {globals : Globals} (h : globals.Reached)

include h

/-- Names resolve in any order of their declarations. -/
theorem live_declareAll_perm (name : Symbol) :
    ((declareAll table first globals).resolve? name).isSome
      = ((declareAll table second globals).resolve? name).isSome := by
  rw [Bool.eq_iff_iff, (reached_declareAll table h first).distinct.isSome_resolve?,
    (reached_declareAll table h second).distinct.isSome_resolve?, status?_declareAll,
    status?_declareAll]
  by_cases hname : name ∈ symbols table first
  · rw [if_pos hname, if_pos ((mem_symbols_perm hperm name).mp hname)]
  · rw [if_neg hname, if_neg (mt (mem_symbols_perm hperm name).mpr hname)]

/-- Names mean the same whatever the order in which they are declared. -/
theorem alike_declared_perm :
    Environment.Alike (Globals.Counterpart (declareAll table first globals)
        (declareAll table second globals))
      (declared table first globals) (declared table second globals) :=
  Globals.alike_environment (reached_declareAll table h first).distinct
    (reached_declareAll table h second).distinct (live_declareAll_perm hperm h) table

/-- There is code for all definitions in one order just if there is in another. -/
theorem filled_perm :
    (filled table first globals).2.2 = none ↔ (filled table second globals).2.2 = none := by
  have hall : ∀ definitions : List Definition, (filled table definitions globals).2.2 = none
      ↔ ∀ definition ∈ definitions, rejects (declared table definitions globals) definition
        = false := by
    intro definitions
    have hlength : rejectedAt (declared table definitions globals) definitions
        = definitions.length ↔ ∀ definition ∈ definitions,
          rejects (declared table definitions globals) definition = false :=
      List.findIdx_eq_length
    rw [← hlength]
    rcases (stage_filled table h definitions).error_eq with ⟨hnone, hend⟩ | ⟨_, _, hfound, -, hsome⟩
    · exact iff_of_true hnone hend
    · rw [hsome]
      refine iff_of_false (Option.some_ne_none _) fun hend => ?_
      rw [hend] at hfound
      simp at hfound
  rw [hall, hall]
  have hrejects : rejects (declared table first globals) = rejects (declared table second globals) :=
    rejects_eq (alike_declared_perm hperm h)
  rw [hrejects]
  exact ⟨fun hfirst definition hmem => hfirst definition (hperm.mem_iff.mpr hmem),
    fun hsecond definition hmem => hsecond definition (hperm.mem_iff.mp hmem)⟩

end

/-- What is left of definitions that were built in two orders, both with success: a name has alike
units in both tables, or none. -/
theorem alike_perm {globals : Globals} (h : Built globals)
    (hfirst : (ofDefinitions table first none globals).error = none)
    (hsecond : (ofDefinitions table second none globals).error = none)
    (hnames : (first.map Definition.name).Nodup) :
    (ofDefinitions table first none globals).globals.Alike
      (ofDefinitions table second none globals).globals := by
  intro name
  have hreached := h.reached
  have haccepted := accepted_eq_of_error_eq_none hreached first none hfirst
  have haccepted' := accepted_eq_of_error_eq_none hreached second none hsecond
  have hsame : latest? table first name = latest? table second name :=
    latest?_perm hperm hnames name
  cases hlatest : latest? table first name with
  | none =>
      rw [unitOf?_other hreached first none (by rw [haccepted, hlatest]),
        unitOf?_other hreached second none (by rw [haccepted', ← hsame, hlatest])]
      exact rel_mono (h.alike_self name) fun _ _ hunit => hunit.mono (Globals.Counterpart.mono
        (slot?_kept hreached first none) (slot?_kept hreached second none))
  | some definition =>
      obtain ⟨unit, hcode, hstatus⟩ :=
        status?_latest hreached first none (haccepted.symm ▸ hlatest)
      obtain ⟨unit', hcode', hstatus'⟩ :=
        status?_latest hreached second none (haccepted'.symm ▸ hsame.symm.trans hlatest)
      have henvironment : Environment.Alike _ (declared table first globals)
          (declared table second globals) := alike_declared_perm hperm hreached
      have hboth := Compile.alike_function henvironment definition
      rw [hcode, hcode'] at hboth
      rw [Globals.unitOf?, Globals.unitOf?, hstatus, hstatus']
      refine .some (hboth.of_ok.mono (Globals.Counterpart.mono (fun other slot hslot => ?_)
        fun other slot hslot => ?_))
      · rw [slot?_ofDefinitions hreached, hslot]
      · rw [slot?_ofDefinitions hreached, hslot]

end

/-- A build adds names of its table of symbols only. -/
theorem grows_ofDefinitions {globals : Globals} (h : globals.Reached)
    (definitions : List Definition) (parseError : Option ParseError) :
    globals.Grows table (ofDefinitions table definitions parseError globals).globals where
  slot?_eq := slot?_kept h definitions parseError _ _
  table_eq := by
    intro name slot hnone hslot
    rw [slot?_ofDefinitions h] at hslot
    have hread : name ∈ symbols table definitions := by
      by_contra hread
      have hstatus : (declareAll table definitions globals).status? name = none := by
        rw [status?_declareAll, if_neg hread, Globals.status?_eq_none_iff.mpr hnone]
      rw [Globals.status?_eq_none_iff, hslot] at hstatus
      cases hstatus
    obtain ⟨definition, -, rfl⟩ := List.mem_map.mp hread
    rfl

end Build

/-! ## Calls -/

/-- What a run comes to, with no slots told. -/
def Machine.Ending.told (ending : Machine.Ending) : Except RuntimeError (Option Value) :=
  (ending.result.map (Option.map Value.withoutSlot)).mapError RuntimeError.withoutSlots

/-- Alike endings tell the same if counterparts have the same name. -/
theorem Machine.Ending.told_eq {counterpart : FunctionRef → FunctionRef → Prop}
    (hname : ∀ left right, counterpart left right → left.name = right.name)
    {ending ending' : Machine.Ending} (h : ending.Alike counterpart ending') :
    ending.told = ending'.told := by
  cases h with
  | finished hresult hstack =>
      rcases rel_cases hresult with ⟨rfl, rfl⟩ | ⟨left, right, rfl, rfl, hvalue⟩
      · rfl
      · exact congrArg (fun value => Except.ok (some value)) (Session.withoutSlot_eq hname hvalue)
  | failed herror hstack => exact congrArg Except.error (Session.withoutSlots_eq hname herror)

/-- Lists of values that are alike one by one are alike stacks. -/
theorem allAlike_toArray {counterpart : FunctionRef → FunctionRef → Prop}
    {values values' : List Value} (h : List.Forall₂ (Value.Alike counterpart) values values') :
    AllAlike counterpart values.toArray values'.toArray := by
  intro place
  rw [List.getElem?_toArray, List.getElem?_toArray]
  induction h generalizing place with
  | nil => exact .none
  | cons hvalue _ ih =>
      cases place with
      | zero => exact .some hvalue
      | succ place => exact ih place

/-- If a name finds alike functions in alike tables, or none, calls of it tell the same. -/
theorem Globals.Alike.told_call {first second : Globals} (h : first.Alike second) {name : String}
    (hfind : Option.Rel (fun left right => ∃ symbol, first.slot? symbol = some left
      ∧ second.slot? symbol = some right) (first.find? name) (second.find? name))
    {arguments arguments' : List Value}
    (harguments : List.Forall₂ (Value.Alike (Counterpart first second)) arguments arguments')
    (before before' : Stack) :
    (Machine.call first name arguments before).told
      = (Machine.call second name arguments' before').told := by
  have hname : ∀ left right, Counterpart first second left right → left.name = right.name :=
    fun _ _ hcounterpart => hcounterpart.1
  rw [Machine.call, Machine.call]
  rcases rel_cases hfind with ⟨hnone, hnone'⟩
    | ⟨left, right, hleft, hright, symbol, hslot, hslot'⟩
  · rw [hnone, hnone']
    rfl
  · have hunit := h symbol
    rw [unitOf?, unitOf?, ← unit?_of_slot? hslot, ← unit?_of_slot? hslot'] at hunit
    rw [hleft, hright, Option.bind_some, Option.bind_some]
    rcases rel_cases hunit with ⟨hnone, hnone'⟩ | ⟨unit, unit', hcode, hcode', halike⟩
    · rw [hnone, hnone']
      rfl
    · rw [hcode, hcode']
      exact Machine.Ending.told_eq hname
        (Machine.alike_run h.interchangeable halike (allAlike_toArray harguments))

namespace Build

/-- Texts of one definition each, joined by newlines, are read one after the other. -/
theorem ofSource_lines (table : Nat) {texts : List (List Char)}
    (h : ∀ text ∈ texts, ∃ definition, Parse.module (itemsOf text) = .done [definition] [])
    (globals : Globals) :
    ofSource table (['\n'].intercalate texts) globals
      = ofDefinitions table (texts.flatMap definitionsOf) none globals := by
  have hread : ∀ text ∈ texts,
      Parse.definitions (itemsOf text) = (definitionsOf text, .done () []) := by
    intro text hmem
    obtain ⟨definition, hmodule⟩ := h text hmem
    have hdefinitions := Grammar.definitions_done_iff.mpr (Grammar.module_done_iff.mp hmodule).2
    rw [hdefinitions, (definitionsOf_of_definitions hdefinitions).1]
  obtain ⟨hdefinitions, hend⟩ :=
    definitionsOf_of_definitions (Grammar.definitions_lines hread)
  rw [ofSource_eq, hdefinitions, hend]

/-- A text with one definition and nothing behind it is a module of one definition. -/
theorem module_of_definition {items : List Item} {found : Definition}
    (h : Parse.definition items = .done (some found) []) :
    Parse.module items = .done [found] [] := by
  rw [Parse.module, Parse.definitions_eq, h]
  dsimp only
  rw [Grammar.definitions_nil]
  rfl

/-- Texts of one definition each, no two of one name, are built in any order: with success in one
order just if in another, and then calls of all names tell the same. -/
theorem ofSource_lines_perm (table : Nat) (globals : Globals) (h : Built globals)
    (texts others : List (List Char))
    (hsingle : ∀ text ∈ texts, ∃ definition, Parse.module (itemsOf text) = .done [definition] [])
    (hnames : ((texts.flatMap definitionsOf).map Definition.name).Nodup)
    (hperm : texts.Perm others) :
    let first := ofSource table (['\n'].intercalate texts) globals
    let second := ofSource table (['\n'].intercalate others) globals
    (first.error = none ↔ second.error = none)
      ∧ (first.error = none → ∀ name arguments arguments' before before',
        List.Forall₂ (Value.Alike (Globals.Counterpart first.globals second.globals)) arguments
            arguments' →
          (Machine.call first.globals name arguments before).told
            = (Machine.call second.globals name arguments' before').told) := by
  intro first second
  have hfirst : first = ofDefinitions table (texts.flatMap definitionsOf) none globals :=
    ofSource_lines table hsingle globals
  have hsecond : second = ofDefinitions table (others.flatMap definitionsOf) none globals :=
    ofSource_lines table (fun text hmem => hsingle text (hperm.mem_iff.mpr hmem)) globals
  have hdefinitions := hperm.flatMap_right definitionsOf
  have hsuccess : first.error = none ↔ second.error = none := by
    rw [hfirst, hsecond, error_ofDefinitions_eq_none_iff, error_ofDefinitions_eq_none_iff,
      filled_perm hdefinitions h.reached]
  refine ⟨hsuccess, fun hnone name arguments arguments' before before' harguments => ?_⟩
  have hbuilt : Built first.globals := h.build table _
  have hbuilt' : Built second.globals := h.build table _
  have hgrows : globals.Grows table first.globals := by
    rw [hfirst]
    exact grows_ofDefinitions h.reached _ _
  have hgrows' : globals.Grows table second.globals := by
    rw [hsecond]
    exact grows_ofDefinitions h.reached _ _
  have halike : first.globals.Alike second.globals := by
    have hnone' := hsuccess.mp hnone
    rw [hfirst] at hnone ⊢
    rw [hsecond] at hnone' ⊢
    exact alike_perm hdefinitions h hnone hnone' hnames
  exact halike.told_call (hgrows.rel_find? h.reached.distinct hgrows' hbuilt.reached.distinct
    hbuilt'.reached.distinct (resolve?_alike hbuilt hbuilt' halike) name) harguments before before'

/-- Two functions that return each other: the one that is called returns the other, which has
another slot if the texts are swapped. -/
theorem ofSource_lines_perm_swap :
    let first := ['d', 'e', 'f', 'u', 'n', ' ', 'f', '(', ')', '=', 'r', 'e', 't', 'u', 'r', 'n',
      ' ', 'g', ' ', 'e', 'n', 'd']
    let second := ['d', 'e', 'f', 'u', 'n', ' ', 'g', '(', ')', '=', 'r', 'e', 't', 'u', 'r', 'n',
      ' ', 'f', ' ', 'e', 'n', 'd']
    let before := ofSource 0 (['\n'].intercalate [first, second]) Globals.empty
    let after := ofSource 0 (['\n'].intercalate [second, first]) Globals.empty
    Built Globals.empty
      ∧ (∀ text ∈ [first, second], ∃ definition,
        Parse.module (itemsOf text) = .done [definition] [])
      ∧ (([first, second].flatMap definitionsOf).map Definition.name).Nodup
      ∧ [first, second].Perm [second, first]
      ∧ before.error = none ∧ after.error = none
      ∧ before.globals.find? "f" = some 0 ∧ after.globals.find? "f" = some 1
      ∧ (Machine.call before.globals "f" [] #[]).told
        = (Machine.call after.globals "f" [] #[]).told := by
  intro first second before after
  have hfirst : Parse.definition (itemsOf first)
      = .done (some ⟨"f", [], [.returning (some (.name "g"))]⟩) [] := by cbv
  have hsecond : Parse.definition (itemsOf second)
      = .done (some ⟨"g", [], [.returning (some (.name "f"))]⟩) [] := by cbv
  have hsingle : ∀ text ∈ [first, second], ∃ definition,
      Parse.module (itemsOf text) = .done [definition] [] := by
    intro text hmem
    rcases List.mem_pair.mp hmem with rfl | rfl
    · exact ⟨_, module_of_definition hfirst⟩
    · exact ⟨_, module_of_definition hsecond⟩
  have hswapped : ∀ text ∈ [second, first], ∃ definition,
      Parse.module (itemsOf text) = .done [definition] [] :=
    fun text hmem => hsingle text ((List.Perm.swap second first []).mem_iff.mpr hmem)
  have hread := (definitionsOf_of_definition hfirst).1
  have hread' := (definitionsOf_of_definition hsecond).1
  have hbefore : before = ofDefinitions 0 [⟨"f", [], [.returning (some (.name "g"))]⟩,
      ⟨"g", [], [.returning (some (.name "f"))]⟩] none Globals.empty := by
    refine (ofSource_lines 0 hsingle Globals.empty).trans ?_
    rw [List.flatMap_cons, List.flatMap_singleton, hread, hread']
    rfl
  have hafter : after = ofDefinitions 0 [⟨"g", [], [.returning (some (.name "f"))]⟩,
      ⟨"f", [], [.returning (some (.name "g"))]⟩] none Globals.empty := by
    refine (ofSource_lines 0 hswapped Globals.empty).trans ?_
    rw [List.flatMap_cons, List.flatMap_singleton, hread, hread']
    rfl
  have hnames : (([first, second].flatMap definitionsOf).map Definition.name).Nodup := by
    rw [List.flatMap_cons, List.flatMap_singleton, hread, hread']
    decide
  have hnone : before.error = none := by
    rw [hbefore]
    cbv
  obtain ⟨hsuccess, hcalls⟩ := ofSource_lines_perm 0 Globals.empty .empty [first, second]
    [second, first] hsingle hnames (List.Perm.swap second first [])
  refine ⟨.empty, hsingle, hnames, List.Perm.swap second first [], hnone, hsuccess.mp hnone, ?_, ?_,
    hcalls hnone "f" [] [] #[] #[] .nil⟩
  · rw [hbefore]
    cbv
  · rw [hafter]
    cbv

end Build

end StackLang
