import StackLang.Token.Cursor

/-! # Outcomes of parsing

A parser works through the items of a source text. It ends with a value or with an error, and in
either case with the items that it has not used up, from which parsing may go on.

* `Expected` — what a parser was looking for.
* `ParseError` — why it gave up; `ParseError.isIncomplete` tells the errors that more text could
  mend.
* `Outcome` — a value or an error, with the items left.
* `Outcome.Within` — a bound on the items left, by which parsing ends.
* `advance`, `consume`, `identifier` — the parsers of a single token. -/

namespace StackLang

/-- What a parser was looking for. -/
inductive Expected where
  /-- A token of one kind. -/
  | token (kind : TokenKind)
  /-- A name. -/
  | identifier
  /-- The start of an expression. -/
  | expression
  /-- The start of a statement. -/
  | statement
  /-- The start of a definition. -/
  | definition
  /-- A comma or a closing parenthesis behind an argument or a parameter. -/
  | argumentSeparator
  /-- Nothing more. -/
  | endOfInput
  deriving DecidableEq, Repr

/-- What was looked for, in words. -/
def Expected.describe : Expected → String
  | .token kind =>
      let text := kind.toText
      s!"\"{text}\""
  | .identifier => "an identifier"
  | .expression => "an expression"
  | .statement => "a statement"
  | .definition => "a definition"
  | .argumentSeparator => "\",\" or \")\""
  | .endOfInput => "end of input"

/-- Why a parser gave up. -/
inductive ParseError where
  /-- A lexical error stands where a token was needed. -/
  | lexical (error : LexicalError)
  /-- Another token was found. -/
  | expected (wanted : Expected) (found : Token)
  /-- The text ended. -/
  | unexpectedEnd (wanted : Expected)
  deriving DecidableEq, Repr

namespace ParseError

/-- The message of a parse error. -/
def message : ParseError → String
  | .lexical error => error.message
  | .expected wanted found =>
      let description := wanted.describe
      let place := found.span.start.text
      let text := found.kind.toText
      s!"Expected {description} at {place} but found \"{text}\""
  | .unexpectedEnd wanted =>
      let description := wanted.describe
      s!"Expected {description} but reached end of input"

/-- More text could have completed what was begun: the text ended in the middle of a construct or of
a quoted text. -/
def isIncomplete : ParseError → Bool
  | .unexpectedEnd _ => true
  | .lexical error => error.fault == .unterminatedText
  | .expected _ _ => false

end ParseError

/-- How a parser ends. -/
inductive Outcome (α : Type) where
  /-- With a value, and the items behind it. -/
  | done (value : α) (rest : List Item)
  /-- With an error, and the items from which parsing may go on. -/
  | failed (error : ParseError) (rest : List Item)

namespace Outcome

variable {α β : Type}

/-- The items left. -/
def rest : Outcome α → List Item
  | .done _ rest => rest
  | .failed _ rest => rest

/-- Go on with the items left by a success. -/
def andThen (first : Outcome α) (next : α → List Item → Outcome β) : Outcome β :=
  match first with
  | .done value rest => next value rest
  | .failed error rest => .failed error rest

/-- Change the value of a success. -/
def map (change : α → β) (outcome : Outcome α) : Outcome β :=
  outcome.andThen fun value rest => .done (change value) rest

/-- A success leaves fewer items than the bound, a failure no more. -/
def Within (bound : Nat) : Outcome α → Prop
  | .done _ rest => rest.length < bound
  | .failed _ rest => rest.length ≤ bound

@[simp] theorem andThen_done (value : α) (rest : List Item) (next : α → List Item → Outcome β) :
    (Outcome.done value rest).andThen next = next value rest := rfl

@[simp] theorem andThen_failed (error : ParseError) (rest : List Item)
    (next : α → List Item → Outcome β) :
    (Outcome.failed error rest : Outcome α).andThen next = .failed error rest := rfl

@[simp] theorem map_done (change : α → β) (value : α) (rest : List Item) :
    (Outcome.done value rest).map change = .done (change value) rest := rfl

@[simp] theorem map_failed (change : α → β) (error : ParseError) (rest : List Item) :
    (Outcome.failed error rest : Outcome α).map change = .failed error rest := rfl

/-- A bound may be raised. -/
theorem Within.mono {outcome : Outcome α} {small large : Nat} (within : outcome.Within small)
    (le : small ≤ large) : outcome.Within large := by
  cases outcome <;> simp only [Within] at within ⊢ <;> omega

/-- What goes on within a bound after a success stays within it. -/
theorem Within.andThen {first : Outcome α} {next : α → List Item → Outcome β} {small large : Nat}
    (within : first.Within small) (le : small ≤ large)
    (onward : ∀ value rest, rest.length < small → (next value rest).Within large) :
    (first.andThen next).Within large := by
  cases first with
  | done value rest => exact onward value rest within
  | failed error rest => exact Nat.le_trans within le

/-- Changing the value keeps the bound. -/
theorem Within.map {outcome : Outcome α} {change : α → β} {bound : Nat}
    (within : outcome.Within bound) : (outcome.map change).Within bound :=
  within.andThen (Nat.le_refl _) fun _ _ shorter => shorter

end Outcome

/-- An outcome together with the bound on the items it leaves. -/
abbrev Step (α : Type) (bound : Nat) := { outcome : Outcome α // outcome.Within bound }

namespace Step

variable {α β : Type} {small large : Nat}

/-- Go on with the items left by a success, of which there are fewer than the bound. -/
def andThen (first : Step α small) (le : small ≤ large)
    (next : (value : α) → (rest : List Item) → rest.length < small → Step β large) : Step β large :=
  match first with
  | ⟨.done value rest, shorter⟩ => next value rest shorter
  | ⟨.failed error rest, bounded⟩ => ⟨.failed error rest, Nat.le_trans bounded le⟩

/-- The outcome of going on is that of going on with the outcome. -/
theorem val_andThen (first : Step α small) (le : small ≤ large)
    (next : (value : α) → (rest : List Item) → rest.length < small → Step β large)
    (plain : α → List Item → Outcome β)
    (same : ∀ value rest shorter, (next value rest shorter).val = plain value rest) :
    (first.andThen le next).val = first.val.andThen plain := by
  obtain ⟨outcome, within⟩ := first
  cases outcome with
  | done value rest => exact same value rest within
  | failed error rest => rfl

end Step

namespace Parse

/-- Take the next token. -/
def advance (wanted : Expected) : List Item → Outcome Token
  | [] => .failed (.unexpectedEnd wanted) []
  | .error error :: rest => .failed (.lexical error) rest
  | .ok token :: rest => .done token rest

/-- Take a token of the given kind. -/
def consume (kind : TokenKind) (items : List Item) : Outcome Unit :=
  (advance (.token kind) items).andThen fun token rest =>
    if token.kind = kind then .done () rest else .failed (.expected (.token kind) token) rest

/-- Take a name. -/
def identifier (items : List Item) : Outcome String :=
  (advance .identifier items).andThen fun token rest =>
    match token.kind with
    | .identifier name => .done name rest
    | _ => .failed (.expected .identifier token) rest

theorem advance_within (wanted : Expected) (items : List Item) :
    (advance wanted items).Within items.length := by
  match items with
  | [] => exact Nat.le_refl _
  | .error _ :: _ => exact Nat.le_succ _
  | .ok _ :: _ => exact Nat.lt_succ_self _

theorem consume_within (kind : TokenKind) (items : List Item) :
    (consume kind items).Within items.length :=
  (advance_within _ items).andThen (Nat.le_refl _) fun token rest shorter => by
    split
    · exact shorter
    · exact Nat.le_of_lt shorter

theorem identifier_within (items : List Item) : (identifier items).Within items.length :=
  (advance_within _ items).andThen (Nat.le_refl _) fun token rest shorter => by
    split
    · exact shorter
    · exact Nat.le_of_lt shorter

end Parse

end StackLang
