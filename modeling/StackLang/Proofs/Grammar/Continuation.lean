import StackLang.Proofs.Grammar.Contents
import StackLang.Proofs.Grammar.Expression

/-! # Expressions that go on

An expression ends with an operand. So an opening parenthesis behind an expression opens the
arguments of a call: an expression that goes on with it has one call more, and is another one.

* `calls`, `opens` — the calls in an expression, and the parentheses that open them.
* `SpellsExpression.opens_eq` — there are as many; and an expression ends with an operand.
* `SpellsExpression.not_goes_on` — what goes on behind an expression is no longer the same. -/

namespace StackLang.Grammar

/-! ## Calls and their parentheses -/

mutual

/-- How many calls an expression has. -/
def calls : Expression → Nat
  | .number _ => 0
  | .text _ => 0
  | .name _ => 0
  | .binary left _ right => calls left + calls right
  | .call callee arguments => calls callee + 1 + callsAll arguments

/-- How many calls several expressions have. -/
def callsAll : List Expression → Nat
  | [] => 0
  | first :: others => calls first + callsAll others

end

/-- An operand may end with the token. -/
def endsOperand : TokenKind → Bool
  | .number _ => true
  | .text _ => true
  | .identifier _ => true
  | .delimiter .closeParen => true
  | _ => false

/-- How many parentheses open the arguments of a call: those behind an operand. The flag tells
whether an operand stands before the tokens. -/
def opens : Bool → List TokenKind → Nat
  | _, [] => 0
  | operand, kind :: kinds =>
      (if operand = true ∧ kind = .delimiter .openParen then 1 else 0) + opens (endsOperand kind) kinds

theorem opens_append (operand : Bool) (first second : List TokenKind) :
    opens operand (first ++ second)
      = opens operand first + opens (lastIs endsOperand operand first) second := by
  induction first generalizing operand with
  | nil => rw [List.nil_append, opens, lastIs_nil, Nat.zero_add]
  | cons kind kinds ih => rw [List.cons_append, opens, opens, lastIs_cons, ih, Nat.add_assoc]

/-- A parenthesis behind an operand opens a call. -/
theorem opens_openParen (kinds : List TokenKind) :
    opens true (.delimiter .openParen :: kinds) = 1 + opens false kinds := rfl

mutual

/-- Each call has its parenthesis, and an expression ends with an operand. -/
theorem SpellsExpression.opens_eq {tier : Nat} {kinds : List TokenKind} {expression : Expression} :
    SpellsExpression tier kinds expression →
      opens false kinds = calls expression ∧ ∀ start, lastIs endsOperand start kinds = true
  | .raise h => h.opens_eq
  | .number _ => ⟨rfl, fun _ => rfl⟩
  | .text _ => ⟨rfl, fun _ => rfl⟩
  | .name _ => ⟨rfl, fun _ => rfl⟩
  | .parenthesized h => by
      obtain ⟨hopens, hlast⟩ := h.opens_eq
      refine ⟨?_, fun start => ?_⟩
      · rw [opens, opens_append, if_neg (by simp)]
        change 0 + (opens false _ + opens _ [.delimiter .closeParen]) = _
        rw [hopens, Nat.zero_add]
        cases lastIs endsOperand _ _ <;> rfl
      · rw [lastIs_cons, lastIs_append]
        rfl
  | .operation _ hleft hright => by
      obtain ⟨hopens, hlast⟩ := hleft.opens_eq
      obtain ⟨hopens', hlast'⟩ := hright.opens_eq
      refine ⟨?_, fun start => ?_⟩
      · rw [opens_append, opens, if_neg (by simp), Nat.zero_add, calls, hopens]
        exact congrArg _ hopens'
      · rw [lastIs_append, lastIs_cons]
        exact hlast' _
  | .emptyCall hcallee => by
      obtain ⟨hopens, hlast⟩ := hcallee.opens_eq
      refine ⟨?_, fun start => ?_⟩
      · rw [opens_append, hlast, opens_openParen, hopens]
        rfl
      · rw [lastIs_append]
        rfl
  | .call hcallee harguments => by
      obtain ⟨hopens, hlast⟩ := hcallee.opens_eq
      obtain ⟨hopens', hlast'⟩ := harguments.opens_eq
      refine ⟨?_, fun start => ?_⟩
      · rw [opens_append, hlast, opens_openParen, hopens, hopens', calls, Nat.add_assoc]
      · rw [lastIs_append, lastIs_cons]
        exact hlast' _

/-- Each call in arguments has its parenthesis; the last one closes them. -/
theorem SpellsArguments.opens_eq {kinds : List TokenKind} {arguments : List Expression} :
    SpellsArguments kinds arguments →
      opens false kinds = callsAll arguments ∧ ∀ start, lastIs endsOperand start kinds = true
  | .last h => by
      obtain ⟨hopens, hlast⟩ := h.opens_eq
      refine ⟨?_, fun start => ?_⟩
      · rw [opens_append, hlast, hopens]
        rfl
      · rw [lastIs_append]
        rfl
  | .more h hothers => by
      obtain ⟨hopens, hlast⟩ := h.opens_eq
      obtain ⟨hopens', hlast'⟩ := hothers.opens_eq
      refine ⟨?_, fun start => ?_⟩
      · rw [opens_append, hlast, opens, if_neg (by simp), Nat.zero_add, callsAll, hopens]
        exact congrArg _ hopens'
      · rw [lastIs_append, lastIs_cons]
        exact hlast' _

end

/-! ## Going on behind an expression -/

/-- If an expression that does not go on with the next token starts where another one stands before
an opening parenthesis, it is another expression. -/
theorem SpellsExpression.not_goes_on {first second behind others : List TokenKind}
    {next : TokenKind} {expression : Expression} (hfirst : SpellsExpression 0 first expression)
    (hnext : ¬ Continues next) (hsecond : SpellsExpression 0 second expression) :
    first ++ next :: behind ≠ second ++ .delimiter .openParen :: others := by
  intro hsame
  rcases List.append_eq_append_iff.mp hsame with ⟨more, rfl, hbehind⟩ | ⟨more, rfl, hbehind⟩
  · cases more with
    | nil =>
        -- Both end before the same token.
        cases hbehind
        exact hnext (.inl rfl)
    | cons kind more =>
        -- The second one would be read only in part.
        cases hbehind
        have hwhole : Leading (tokensOf (first ++ next :: more)) (first ++ next :: more) expression
            [] := by
          refine ⟨?_, hsecond, .inl rfl⟩
          have hreads := reads_tokensOf_append (first ++ next :: more) []
          rwa [List.append_nil] at hreads
        have hpart : Leading (tokensOf (first ++ next :: more)) first expression
            (tokensOf (next :: more)) := by
          refine ⟨?_, hfirst, .inr ⟨_, _, rfl, hnext⟩⟩
          have hreads := reads_tokensOf_append first (tokensOf (next :: more))
          rwa [tokensOf, tokensOf, ← List.map_append] at hreads
        cases (hpart.unique hwhole).2.2
  · cases more with
    | nil =>
        cases hbehind
        exact hnext (.inl rfl)
    | cons kind more =>
        -- The first one has a call more.
        cases hbehind
        obtain ⟨hopens, hlast⟩ := hsecond.opens_eq
        have hmore := hfirst.opens_eq.1
        rw [opens_append, hlast, opens_openParen, hopens] at hmore
        omega

end StackLang.Grammar
