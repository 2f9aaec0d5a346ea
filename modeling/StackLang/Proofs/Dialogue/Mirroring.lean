import StackLang.Proofs.Dialogue.Program

/-! # What a dialogue does

A dialogue mirrors a parser if it ends, with the value or error of the parser and with the items
left that the parser leaves. What it costs is counted in calls: four for each item that is taken,
less what a success is bound to save and more by what a failure may cost. How deep a dialogue goes
is not counted: it ends if some depth is enough.

* `Reading.unread_after`, `Reading.taken_after` — what any calls leave and take.
* `Mirrors` — a program does what a parser does, at a bounded cost.
* `Mirrors.pure`, `Mirrors.throw`, `Mirrors.bind`, `Mirrors.deeper` — how programs are put together.
* `mirrors_peek`, `mirrors_advance`, `mirrors_consume`, `mirrors_identifier`, `mirrors_nextIs` —
  single tokens. -/

namespace StackLang.Outcome

variable {α : Type}

/-- The value or the error, without the items left. -/
def result : Outcome α → Except ParseError α
  | .done value _ => .ok value
  | .failed error _ => .error error

/-- A bound on the calls for an outcome: four for each item used up, less the gain of a success, and
more by the slack of a failure. -/
def Affords (gain : α → Int) (slack : Int) (items : List Item) (count : Nat) : Outcome α → Prop
  | .done value rest => count + gain value ≤ 4 * (items.length - rest.length)
  | .failed _ rest => count ≤ 4 * (items.length - rest.length) + slack

/-- A success leaves fewer items than the bound. -/
theorem Within.length_lt {outcome : Outcome α} {bound : Nat} {value : α} {rest : List Item}
    (h : outcome.Within bound) (hdone : outcome = .done value rest) : rest.length < bound := by
  subst hdone
  exact h

end StackLang.Outcome

namespace StackLang.Dialogue

open Lookahead (Call)

variable {α β : Type}

/-! ## Calls -/

namespace Reading

theorem after_append (reading : Reading) (calls later : List Call) :
    reading.after (calls ++ later) = (reading.after calls).after later :=
  List.foldl_append

/-- Every call is answered with the first item that is not yet taken. -/
theorem answer_eq (reading : Reading) (call : Call) :
    reading.reader.answer call = reading.unread.head? :=
  Lookahead.answer_eq reading.reader call

theorem unread_peek (reading : Reading) : (reading.behindCall .peek).unread = reading.unread :=
  Lookahead.unread_behind reading.sound .peek

theorem unread_next (reading : Reading) :
    (reading.behindCall .next).unread = reading.unread.tail :=
  (Lookahead.unread_behind reading.sound .next).trans List.drop_one

/-- What is taken and what is not are all items, in order. -/
theorem taken_behindCall (reading : Reading) (call : Call) :
    (reading.behindCall call).taken ++ (reading.behindCall call).unread
      = reading.taken ++ reading.unread := by
  have hlog : (reading.behindCall call).taken = reading.taken ++ (match call with
      | .next => reading.unread.head?.toList
      | .peek => []) := by
    cases call with
    | peek =>
        rw [taken, behindCall, List.filterMap_append]
        rfl
    | next =>
        rw [taken, behindCall, List.filterMap_append, answer_eq]
        cases reading.unread <;> rfl
  rw [hlog]
  cases call with
  | peek => rw [unread_peek, List.append_nil]
  | next =>
      rw [unread_next, List.append_assoc]
      cases reading.unread <;> rfl

theorem taken_after (reading : Reading) (calls : List Call) :
    (reading.after calls).taken ++ (reading.after calls).unread
      = reading.taken ++ reading.unread := by
  induction calls generalizing reading with
  | nil => rfl
  | cons call calls ih => exact (ih _).trans (reading.taken_behindCall call)

theorem length_log_after (reading : Reading) (calls : List Call) :
    (reading.after calls).log.length = reading.log.length + calls.length := by
  induction calls generalizing reading with
  | nil => rfl
  | cons call calls ih =>
      have hlog : (reading.behindCall call).log.length = reading.log.length + 1 :=
        List.length_append
      rw [List.length_cons, after, List.foldl_cons, ← after, ih, hlog]
      omega

end Reading

/-! ## How programs end -/

theorem on_pure (value : α) (reading : Reading) :
    (pure value : Program α).on reading = some (.ok value, reading) := rfl

theorem on_throw (error : ParseError) (reading : Reading) :
    (throw error : Program α).on reading = some (.error error, reading) := rfl

theorem on_ask (call : Call) (reading : Reading) :
    (ask call).on reading = some (.ok reading.unread.head?, reading.behindCall call) := by
  rw [← reading.answer_eq call]
  rfl

/-- What comes next starts from the reader that is left by a success. -/
theorem on_bind (program : Program α) (next : α → Program β) (reading : Reading) :
    (program >>= next).on reading
      = (program.on reading).bind fun ending =>
        match ending with
        | (.ok value, left) => (next value).on left
        | (.error error, left) => some (.error error, left) := by
  change (program.on reading).bind _ = _
  congr 1
  funext ⟨result, left⟩
  cases result <;> rfl

theorem on_attempt (program : Program α) (reading : Reading) :
    (attempt program).on reading
      = (program.on reading).map fun ending => (.ok ending.1, ending.2) := by
  change (program.on reading).bind _ = _
  cases program.on reading <;> rfl

/-! ## Mirroring -/

/-- Programs of which one is cut off at each depth end as a parser does, and leave the items that
the parser leaves, at a bounded cost. -/
def Mirrors (program : Nat → Program α) (outcome : Outcome α) (gain : α → Int) (slack : Int)
    (reading : Reading) : Prop :=
  ∃ calls, Ends program reading (outcome.result, reading.after calls)
    ∧ (reading.after calls).unread = outcome.rest
    ∧ outcome.Affords gain slack reading.unread calls.length

namespace Mirrors

variable {program : Nat → Program α} {outcome : Outcome α} {gain gain' : α → Int}
  {slack slack' : Int} {reading : Reading}

theorem mono (h : Mirrors program outcome gain slack reading)
    (hgain : ∀ value, gain' value ≤ gain value) (hslack : slack ≤ slack') :
    Mirrors program outcome gain' slack' reading := by
  obtain ⟨calls, hends, hunread, hcost⟩ := h
  refine ⟨calls, hends, hunread, ?_⟩
  cases outcome with
  | done value rest =>
      have hvalue := hgain value
      simp only [Outcome.Affords] at hcost ⊢
      omega
  | failed error rest =>
      simp only [Outcome.Affords] at hcost ⊢
      omega

/-- What ends one deeper ends. -/
theorem deeper (h : Mirrors (fun depth => program (depth + 1)) outcome gain slack reading) :
    Mirrors program outcome gain slack reading := by
  obtain ⟨calls, ⟨enough, hends⟩, hrest⟩ := h
  refine ⟨calls, ⟨enough + 1, fun depth hdepth => ?_⟩, hrest⟩
  obtain ⟨less, rfl⟩ := Nat.exists_eq_add_of_le' (Nat.one_le_of_lt hdepth)
  exact hends less (Nat.le_of_succ_le_succ hdepth)

/-- Without a call nothing is gained. -/
theorem pure (value : α) (hgain : gain value ≤ 0) :
    Mirrors (fun _ => pure value) (.done value reading.unread) gain slack reading := by
  refine ⟨[], ⟨0, fun _ _ => on_pure value reading⟩, rfl, ?_⟩
  simp only [Outcome.Affords, List.length_nil]
  omega

theorem throw (error : ParseError) (hslack : 0 ≤ slack) :
    Mirrors (fun _ => throw error) (.failed error reading.unread) gain slack reading := by
  refine ⟨[], ⟨0, fun _ _ => on_throw error reading⟩, rfl, ?_⟩
  simp only [Outcome.Affords, List.length_nil]
  omega

/-- One program after the other: what the first one gains, the second one need not. -/
theorem bind {next : Nat → α → Program β} {onward : α → List Item → Outcome β} {whole : β → Int}
    {slack₁ : Int} (h : Mirrors program outcome gain slack₁ reading) (hslack : slack₁ ≤ slack)
    (hnext : ∀ value (left : Reading), outcome = .done value left.unread →
      Mirrors (fun depth => next depth value) (onward value left.unread)
        (fun later => whole later - gain value) (slack + gain value) left) :
    Mirrors (fun depth => program depth >>= next depth) (outcome.andThen onward) whole slack
      reading := by
  obtain ⟨calls, ⟨enough, hends⟩, hunread, hcost⟩ := h
  cases outcome with
  | failed error rest =>
      refine ⟨calls, ⟨enough, fun depth hdepth => ?_⟩, hunread, ?_⟩
      · rw [on_bind, hends depth hdepth]
        rfl
      · simp only [Outcome.andThen_failed, Outcome.Affords] at hcost ⊢
        omega
  | done value rest =>
      have hrest : (reading.after calls).unread = rest := hunread
      subst hrest
      obtain ⟨later, ⟨more, honward⟩, hleft, hmore⟩ := hnext value _ rfl
      refine ⟨calls ++ later, ⟨max enough more, fun depth hdepth => ?_⟩, ?_, ?_⟩
      · rw [on_bind, hends depth (Nat.le_trans (Nat.le_max_left ..) hdepth), Reading.after_append]
        exact honward depth (Nat.le_trans (Nat.le_max_right ..) hdepth)
      · rw [Reading.after_append]
        exact hleft
      · rw [Outcome.andThen_done, List.length_append]
        cases hend : onward value (reading.after calls).unread with
        | done _ _ | failed _ _ =>
            rw [hend] at hmore
            simp only [Outcome.Affords] at hcost hmore ⊢
            omega

/-- Changing the value is no call. -/
theorem map {change : α → β} {whole : β → Int} (h : Mirrors program outcome gain slack reading)
    (hgain : ∀ value, whole (change value) ≤ gain value) :
    Mirrors (fun depth => change <$> program depth) (outcome.map change) whole slack reading := by
  have hbind : (fun depth => change <$> program depth)
      = fun depth => program depth >>= fun value => Pure.pure (change value) := by
    funext depth
    rw [bind_pure_comp]
  rw [hbind]
  exact h.bind (Int.le_refl _) fun value left _ =>
    .pure (change value) (Int.sub_nonpos_of_le (hgain value))

end Mirrors

/-! ## Single tokens -/

/-- What is told of the first of some items, by a call that leaves others. -/
def told (items left : List Item) : Outcome (Option Token) :=
  match items.head? with
  | none => .done none left
  | some (.error error) => .failed (.lexical error) left
  | some (.ok token) => .done (some token) left

theorem rest_of_told {items left rest : List Item} {found : Option Token}
    (h : told items left = .done found rest) : rest = left := by
  rw [told] at h
  split at h
  · exact (Outcome.done.inj h).2.symm
  · cases h
  · exact (Outcome.done.inj h).2.symm

theorem rest_of_told_map {change : Option Token → α} {items left rest : List Item} {value : α}
    (h : (told items left).map change = .done value rest) : rest = left := by
  cases htold : told items left with
  | failed error behind =>
      rw [htold] at h
      cases h
  | done found behind =>
      rw [htold] at h
      exact (Outcome.done.inj h).2.symm.trans (rest_of_told htold)

theorem length_lt_of_told {items rest : List Item} {token : Token}
    (h : told items items.tail = .done (some token) rest) : rest.length < items.length := by
  rw [rest_of_told h]
  cases items with
  | nil => cases h
  | cons item items => exact Nat.lt_succ_self _

variable (reading : Reading)

/-- An answer tells of the next item. -/
theorem on_token? (call : Call) :
    (ask call >>= token?).on reading
      = some ((told reading.unread (reading.behindCall call).unread).result,
        reading.behindCall call) := by
  rw [on_bind, on_ask, told]
  rcases reading.unread.head? with _ | _ | _ <;> rfl

theorem mirrors_peek :
    Mirrors (fun _ => peek) (told reading.unread reading.unread) (fun _ => -1) 1 reading := by
  have hon := on_token? reading .peek
  rw [Reading.unread_peek] at hon
  refine ⟨[.peek], ⟨0, fun _ _ => hon⟩, ?_, ?_⟩
  · rw [Reading.after, List.foldl_cons, List.foldl_nil, Reading.unread_peek, told]
    cases reading.unread.head? with
    | none => rfl
    | some item => cases item <;> rfl
  · rw [told]
    rcases reading.unread.head? with _ | _ | _ <;> simp [Outcome.Affords]

theorem mirrors_next :
    Mirrors (fun _ => next) (told reading.unread reading.unread.tail)
      (fun found => if found.isSome then 3 else -1) 0 reading := by
  have hon := on_token? reading .next
  rw [Reading.unread_next] at hon
  refine ⟨[.next], ⟨0, fun _ _ => hon⟩, ?_, ?_⟩
  · rw [Reading.after, List.foldl_cons, List.foldl_nil, Reading.unread_next, told]
    rcases reading.unread.head? with _ | _ | _ <;> rfl
  · rcases reading.unread with _ | ⟨_ | _, rest⟩ <;> simp [told, Outcome.Affords]

theorem advance_told (wanted : Expected) (items : List Item) :
    Parse.advance wanted items
      = (told items items.tail).andThen fun found rest =>
        match found with
        | some token => .done token rest
        | none => .failed (.unexpectedEnd wanted) rest := by
  rcases items with _ | ⟨_ | _, _⟩ <;> rfl

theorem mirrors_advance (wanted : Expected) :
    Mirrors (fun _ => advance wanted) (Parse.advance wanted reading.unread)
      (fun _ => 3) 1 reading := by
  simp only [advance, advance_told]
  refine (mirrors_next reading).bind (by decide) fun found left _ => ?_
  cases found with
  | none => exact .throw _ (by decide)
  | some token => exact .pure token (by simp)

theorem mirrors_consume (kind : TokenKind) :
    Mirrors (fun _ => consume kind) (Parse.consume kind reading.unread) (fun _ => 3) 1 reading := by
  refine (mirrors_advance reading _).bind (Int.le_refl _) fun token left _ => ?_
  by_cases hkind : token.kind = kind
  · simp only [if_pos hkind]
    exact .pure () (by decide)
  · simp only [if_neg hkind]
    exact .throw _ (by decide)

theorem mirrors_identifier :
    Mirrors (fun _ => identifier) (Parse.identifier reading.unread) (fun _ => 3) 1 reading := by
  refine (mirrors_advance reading _).bind (Int.le_refl _) fun token left _ => ?_
  cases token.kind with
  | identifier name => exact .pure name (by decide)
  | number _ | text _ | keyword _ | delimiter _ | operator _ => exact .throw _ (by decide)

theorem mirrors_nextIs (kind : TokenKind) :
    Mirrors (fun _ => nextIs kind)
      ((told reading.unread reading.unread).map fun found =>
        found.any fun token => token.kind = kind) (fun _ => -1) 1 reading :=
  (mirrors_peek reading).bind (Int.le_refl _) fun _ _ _ => .pure _ (by decide)

end StackLang.Dialogue
