import StackLang.Proofs.Dialogue.Definition

/-! # Parsers end, and take every item once

Whatever parsers are started on a source text one after the other, each of them ends after a few
calls for each item that it takes, with what the parser of the items not yet taken ends with. No
item is taken twice or passed over, and a success takes tokens alone: one or more, if an expression,
a statement, a block or a definition was found.

* `Returns` — a dialogue ends as a parser does, after some calls for each item that it takes.
* `Progresses` — a success of a dialogue takes a token or more.
* `AllReturn` — what all parsers do from a reader.
* `Entry`, `Reading.behindAll` — parsers to start from, and the reader behind some of them.
* `parsers_progress` — they do so from any reader, and any of them one after the other. -/

namespace StackLang.Dialogue

open Lookahead (Call)
open Grammar (Reads ahead)

variable {α : Type}

/-! ## One dialogue -/

/-- A dialogue ends as a parser does with the items not yet taken. The calls are four at most for
each item that is taken, and three more. -/
def Returns (program : Nat → Program α) (parser : List Item → Outcome α) (reading : Reading) :
    Prop :=
  ∃ calls, Ends program reading ((parser reading.unread).result, reading.after calls)
    ∧ (reading.after calls).unread = (parser reading.unread).rest
    ∧ calls.length + 4 * (reading.after calls).unread.length ≤ 4 * reading.unread.length + 3

/-- A success with a value that is found takes tokens alone, and one at least. -/
def Progresses (program : Nat → Program α) (found : α → Prop) (reading : Reading) : Prop :=
  ∀ value left, Ends program reading (.ok value, left) → found value →
    ∃ (token : Token) (tokens : List Token),
      left.taken = reading.taken ++ (token :: tokens).map .ok

variable {program : Nat → Program α} {parser : List Item → Outcome α} {reading : Reading}

theorem Mirrors.returns {gain : α → Int} {slack : Int}
    (h : Mirrors program (parser reading.unread) gain slack reading)
    (hgain : ∀ value, -3 ≤ gain value) (hslack : slack ≤ 3) : Returns program parser reading := by
  obtain ⟨calls, hends, hunread, hcost⟩ := h
  refine ⟨calls, hends, hunread, ?_⟩
  rw [hunread]
  cases hend : parser reading.unread with
  | done value rest =>
      rw [hend] at hcost
      have hvalue := hgain value
      simp only [Outcome.Affords, Outcome.rest] at hcost ⊢
      omega
  | failed error rest =>
      rw [hend] at hcost
      simp only [Outcome.Affords, Outcome.rest] at hcost ⊢
      omega

/-- What is left behind some tokens, one at least. -/
def Tokens (items rest : List Item) : Prop :=
  ∃ token tokens, items = ahead (token :: tokens) rest

/-- What a parser takes, its dialogue takes. -/
theorem Returns.progresses (h : Returns program parser reading) {found : α → Prop}
    (hparser : ∀ value rest, found value → parser reading.unread = .done value rest →
      Tokens reading.unread rest) : Progresses program found reading := by
  obtain ⟨calls, hends, hunread, -⟩ := h
  intro value left hleft hfound
  obtain ⟨hvalue, rfl⟩ := Prod.mk.inj (hends.unique hleft)
  cases hend : parser reading.unread with
  | failed error rest =>
      rw [hend] at hvalue
      cases hvalue
  | done result rest =>
      rw [hend] at hvalue hunread
      cases hvalue
      obtain ⟨token, tokens, hitems⟩ := hparser _ _ hfound hend
      refine ⟨token, tokens, ?_⟩
      -- The items taken and those left are the same before and after.
      have hall := reading.taken_after calls
      rw [hunread, hitems, ahead, ← List.append_assoc] at hall
      exact List.append_cancel_right hall

/-! ## What parsers take -/

theorem Tokens.of_reads {kinds : List TokenKind} {items rest : List Item}
    (h : Reads kinds items rest) (hshorter : rest.length < items.length) : Tokens items rest := by
  induction kinds generalizing items with
  | nil =>
      rw [Grammar.reads_nil.mp h] at hshorter
      exact absurd hshorter (Nat.lt_irrefl _)
  | cons kind kinds ih =>
      obtain ⟨token, behind, rfl, -, hreads⟩ := h
      by_cases hmore : rest.length < behind.length
      · obtain ⟨second, tokens, rfl⟩ := ih hreads hmore
        exact ⟨token, second :: tokens, rfl⟩
      · have hlength := hreads.length_eq
        have hkinds : kinds = [] := List.length_eq_zero_iff.mp (by omega)
        subst hkinds
        exact ⟨token, [], congrArg _ (Grammar.reads_nil.mp hreads)⟩

theorem tokens_expression {items rest : List Item} {value : Expression}
    (h : Parse.expression items = .done value rest) : Tokens items rest := by
  obtain ⟨kinds, hreads, -, -⟩ := Grammar.expression_sound h
  exact .of_reads hreads ((Parse.expression_within items).length_lt h)

theorem tokens_statement {items rest : List Item} {value : Option Statement}
    (h : Parse.statement items = .done value rest) : Tokens items rest := by
  have hshorter := (Parse.statement_within items).length_lt h
  cases value with
  | none => exact .of_reads (Grammar.statement_none h) hshorter
  | some value =>
      obtain ⟨kinds, hreads, -⟩ := Grammar.statement_sound h
      exact .of_reads hreads hshorter

theorem Tokens.of_kind {kind : TokenKind} {kinds : List TokenKind} {items rest : List Item}
    (h : Reads (kind :: kinds) items rest) : Tokens items rest := by
  have hlength := h.length_eq
  rw [List.length_cons] at hlength
  exact .of_reads h (by omega)

theorem tokens_block {items rest : List Item} {value : Statement}
    (h : Parse.block items = .done value rest) : Tokens items rest := by
  obtain ⟨_, behind, hword, h⟩ := Grammar.andThen_eq_done h
  obtain ⟨body, hbody, -⟩ := Grammar.map_eq_done h
  obtain ⟨kinds, hreads, -⟩ := Grammar.statements_sound hbody
  exact .of_kind (Grammar.reads_cons.mpr ⟨behind, Grammar.consume_done_iff.mp hword, hreads⟩)

theorem tokens_definition {items rest : List Item} {found : Definition}
    (h : Parse.definition items = .done (some found) rest) : Tokens items rest := by
  fun_induction Parse.definition items with
  | case1 | case2 | case5 => cases h
  | case3 token behind hkind ih =>
      obtain ⟨second, tokens, rfl⟩ := ih h
      exact ⟨token, second :: tokens, rfl⟩
  | case4 token behind hkind =>
      obtain ⟨_, htail, -⟩ := Grammar.map_eq_done h
      obtain ⟨kinds, hreads, -⟩ := Grammar.definitionTail_done_iff.mp htail
      exact .of_kind (Reads.cons hkind hreads)

/-! ## All parsers -/

/-- From a reader all parsers return, and progress where they find something. -/
structure AllReturn (reading : Reading) : Prop where
  /-- An expression is a token or more. -/
  expression : Returns expression Parse.expression reading
    ∧ Progresses expression (fun _ => True) reading
  /-- So is a statement, and the terminator in its place. -/
  statement : Returns statement Parse.statement reading
    ∧ Progresses statement (fun _ => True) reading
  /-- So is a block. -/
  block : Returns block Parse.block reading ∧ Progresses block (fun _ => True) reading
  /-- So is a definition, if there is one. -/
  definition : Returns definition Parse.definition reading
    ∧ Progresses definition (fun found => found.isSome) reading
  /-- A whole text may be empty. -/
  module : Returns module Parse.module reading
  /-- So may be what is left at the end. -/
  finish : Returns finish Parse.finish reading
  /-- There may be no definition before an error. -/
  definitions : Returns definitions gathered reading

theorem allReturn (reading : Reading) : AllReturn reading := by
  have hexpression := (mirrors_expression reading).returns (fun _ => by decide) (by decide)
  have hstatement := (mirrors_statement reading).returns (fun _ => by decide) (by decide)
  have hblock := (mirrors_block reading).returns (fun _ => by decide) (by decide)
  have hdefinition :=
    (mirrors_definition reading).returns (fun _ => by split <;> decide) (by decide)
  refine ⟨⟨hexpression, hexpression.progresses fun _ _ _ => tokens_expression⟩,
    ⟨hstatement, hstatement.progresses fun _ _ _ => tokens_statement⟩,
    ⟨hblock, hblock.progresses fun _ _ _ => tokens_block⟩,
    ⟨hdefinition, hdefinition.progresses fun found rest hfound h => ?_⟩,
    (mirrors_module reading).returns (fun _ => by decide) (by decide),
    (mirrors_finish reading).returns (fun _ => by decide) (by decide),
    (mirrors_definitions reading).returns (fun _ => by decide) (by decide)⟩
  obtain ⟨value, rfl⟩ := Option.isSome_iff_exists.mp hfound
  exact tokens_definition h

/-! ## One dialogue after another -/

/-- A parser to start from. -/
inductive Entry where
  /-- An expression. -/
  | expression
  /-- A statement, or nothing where a terminator stands. -/
  | statement
  /-- A block. -/
  | block
  /-- The next definition, or nothing at the end of the text. -/
  | definition
  /-- All definitions. -/
  | module
  /-- The end of the text. -/
  | finish
  /-- The definitions up to the first error. -/
  | definitions
  deriving DecidableEq, Repr

/-- The reader that a parser leaves; nothing, if it is cut off. -/
def Entry.leave (entry : Entry) (depth : Nat) (reading : Reading) : Option Reading :=
  match entry with
  | .expression => ((Dialogue.expression depth).on reading).map Prod.snd
  | .statement => ((Dialogue.statement depth).on reading).map Prod.snd
  | .block => ((Dialogue.block depth).on reading).map Prod.snd
  | .definition => ((Dialogue.definition depth).on reading).map Prod.snd
  | .module => ((Dialogue.module depth).on reading).map Prod.snd
  | .finish => ((Dialogue.finish depth).on reading).map Prod.snd
  | .definitions => ((Dialogue.definitions depth).on reading).map Prod.snd

/-- The reader that some parsers leave, one after the other, whether they succeed or not; nothing,
if one of them is cut off. -/
def Reading.behindAll (depth : Nat) (entries : List Entry) (reading : Reading) : Option Reading :=
  entries.foldlM (fun reading entry => entry.leave depth reading) reading

theorem Returns.leave (h : Returns program parser reading) :
    ∃ calls enough, (∀ depth, enough ≤ depth →
        ((program depth).on reading).map Prod.snd = some (reading.after calls))
      ∧ calls.length + 4 * (reading.after calls).unread.length
        ≤ 4 * reading.unread.length + 3 := by
  obtain ⟨calls, ⟨enough, hends⟩, -, hcost⟩ := h
  exact ⟨calls, enough, fun depth hdepth => by rw [hends depth hdepth]; rfl, hcost⟩

theorem exists_leave (entry : Entry) (reading : Reading) :
    ∃ calls enough, (∀ depth, enough ≤ depth →
        entry.leave depth reading = some (reading.after calls))
      ∧ calls.length + 4 * (reading.after calls).unread.length
        ≤ 4 * reading.unread.length + 3 := by
  have hall := allReturn reading
  cases entry with
  | expression => exact hall.expression.1.leave
  | statement => exact hall.statement.1.leave
  | block => exact hall.block.1.leave
  | definition => exact hall.definition.1.leave
  | module => exact hall.module.leave
  | finish => exact hall.finish.leave
  | definitions => exact hall.definitions.leave

/-- Each parser starts where the one before it has stopped, and all of them end. -/
theorem exists_behindAll (entries : List Entry) (reading : Reading) :
    ∃ calls enough, (∀ depth, enough ≤ depth →
        reading.behindAll depth entries = some (reading.after calls))
      ∧ calls.length + 4 * (reading.after calls).unread.length
        ≤ 4 * reading.unread.length + 3 * entries.length := by
  induction entries generalizing reading with
  | nil => exact ⟨[], 0, fun _ _ => rfl, by simp [Reading.after]⟩
  | cons entry entries ih =>
      obtain ⟨calls, enough, hleave, hcost⟩ := exists_leave entry reading
      obtain ⟨later, more, hothers, hmore⟩ := ih (reading.after calls)
      refine ⟨calls ++ later, max enough more, fun depth hdepth => ?_, ?_⟩
      · rw [Reading.after_append, ← hothers depth (Nat.le_trans (Nat.le_max_right ..) hdepth),
          Reading.behindAll, List.foldlM_cons,
          hleave depth (Nat.le_trans (Nat.le_max_left ..) hdepth)]
        rfl
      · rw [Reading.after_append, List.length_append, List.length_cons]
        omega

/-- From every reader every parser ends, with what it makes of the items not yet taken, after a
bounded number of calls for each item that it takes; and it takes a token or more, if it finds an
expression, a statement or a terminator, a block, or a definition. So whatever parsers are started
on a source text one after the other, all of them end, and every item is taken once at most, in
order. -/
theorem parsers_progress :
    (∀ reading, AllReturn reading)
    ∧ ∀ (source : List Char) (interner : Interner) (entries : List Entry),
      ∃ reading enough, (∀ depth, enough ≤ depth →
          (Reading.start source interner).behindAll depth entries = some reading)
        ∧ reading.taken ++ reading.unread = itemsOf source
        ∧ reading.log.length ≤ 4 * reading.taken.length + 3 * entries.length := by
  refine ⟨allReturn, fun source interner entries => ?_⟩
  obtain ⟨calls, enough, hbehind, hcost⟩ := exists_behindAll entries (.start source interner)
  have hitems := (Reading.start source interner).taken_after calls
  refine ⟨_, enough, hbehind, hitems, ?_⟩
  have hlength := congrArg List.length hitems
  rw [List.length_append, List.length_append] at hlength
  have hlog : (Reading.start source interner).log.length = 0 := rfl
  have htaken : (Reading.start source interner).taken.length = 0 := rfl
  rw [Reading.length_log_after]
  omega

end StackLang.Dialogue
