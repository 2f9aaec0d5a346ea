import Mathlib
import StackLang.Parse.Definition
import StackLang.Proofs.Token.Peeking

/-! # Parsers as dialogues with a reader

A parser does not get at the items themselves. It calls a reader that can look one item ahead, is
answered, and calls again. Nothing says that it ever stops. So the recursion is cut off at a depth:
every call of a parser by another and every turn of a loop goes one deeper, and a dialogue that
reaches the bottom has no result. One that ends has the same result at every depth that is large
enough.

* `Reading` — a reader, with all calls so far and what they were answered.
* `Program`, `ask`, `cutOff` — what is done by calling a reader, one call, and the bottom.
* `Ends` — how a dialogue ends, if it does.
* `peek`, `next`, `advance`, `consume`, `identifier`, `nextIs` — single tokens.
* `expression`, `statement`, `block`, `definition`, `module`, `finish`, `definitions` — the parsers
  that others start from. -/

namespace StackLang.Dialogue

open Lookahead (Call)

/-! ## Calling a reader -/

/-- A reader, with all calls so far. -/
structure Reading where
  /-- The reader. -/
  reader : Lookahead
  /-- The calls so far, each with what it was answered, the earliest first. -/
  log : List (Call × Option Item)
  /-- If the end of the text is pending, no item follows. -/
  sound : reader.Sound

namespace Reading

/-- A reader at the start of a source text. -/
def start (source : List Char) (interner : Interner) : Reading :=
  ⟨.start source interner, [], Lookahead.sound_start source interner⟩

/-- The items that are not yet taken. -/
def unread (reading : Reading) : List Item :=
  reading.reader.unread

/-- The items that are taken, the earliest first. -/
def taken (reading : Reading) : List Item :=
  reading.log.filterMap fun
    | (.next, answer) => answer
    | (.peek, _) => none

/-- The reader behind one more call. -/
def behindCall (reading : Reading) (call : Call) : Reading :=
  ⟨reading.reader.behindCall call, reading.log ++ [(call, reading.reader.answer call)],
    Lookahead.sound_behind reading.sound call⟩

/-- The reader behind some more calls, the earliest first. -/
def after (reading : Reading) (calls : List Call) : Reading :=
  calls.foldl behindCall reading

end Reading

/-- What is done by calling a reader: it ends with a value or with an error, or is cut off. -/
abbrev Program (α : Type) := ExceptT ParseError (StateT Reading Option) α

variable {α : Type}

/-- How a program ends, and the reader that it leaves; nothing, if it is cut off. -/
def Program.on (program : Program α) (reading : Reading) :
    Option (Except ParseError α × Reading) :=
  program.run.run reading

/-- The bottom, at which there is no result. -/
def cutOff : Program α :=
  fun _ => none

/-- How programs end of which one is cut off at each depth: as they do at every depth from some
on. -/
def Ends (program : Nat → Program α) (reading : Reading) (ending : Except ParseError α × Reading) :
    Prop :=
  ∃ enough, ∀ depth, enough ≤ depth → (program depth).on reading = some ending

/-- They end in one way at most. -/
theorem Ends.unique {program : Nat → Program α} {reading : Reading}
    {first second : Except ParseError α × Reading} (hfirst : Ends program reading first)
    (hsecond : Ends program reading second) : first = second := by
  obtain ⟨enough, hfirst⟩ := hfirst
  obtain ⟨more, hsecond⟩ := hsecond
  have hdepth := hfirst (max enough more) (Nat.le_max_left ..)
  rw [hsecond (max enough more) (Nat.le_max_right ..)] at hdepth
  exact (Option.some.inj hdepth).symm

/-- Call the reader. -/
def ask (call : Call) : Program (Option Item) :=
  ExceptT.lift fun reading => some (reading.reader.answer call, reading.behindCall call)

/-! ## Single tokens -/

/-- What an answer holds: a token, nothing at the end of the text, or a lexical error. -/
def token? : Option Item → Program (Option Token)
  | none => return none
  | some (.ok token) => return some token
  | some (.error error) => throw (.lexical error)

/-- Look at the next token. -/
def peek : Program (Option Token) := do
  token? (← ask .peek)

/-- Take the next token, if there is one. -/
def next : Program (Option Token) := do
  token? (← ask .next)

/-- Take the next token. -/
def advance (wanted : Expected) : Program Token := do
  match ← next with
  | some token => return token
  | none => throw (.unexpectedEnd wanted)

/-- Take a token of the given kind. -/
def consume (kind : TokenKind) : Program Unit := do
  let token ← advance (.token kind)
  if token.kind = kind then return () else throw (.expected (.token kind) token)

/-- Take a name. -/
def identifier : Program String := do
  let token ← advance .identifier
  match token.kind with
  | .identifier name => return name
  | _ => throw (.expected .identifier token)

/-- Whether the next token is of the given kind. -/
def nextIs (kind : TokenKind) : Program Bool := do
  return (← peek).any fun token => token.kind = kind

/-! ## Expressions -/

mutual

/-- An expression in which every sign that follows an operand binds more strongly than `minimum`. -/
def binding (depth minimum : Nat) : Program Expression :=
  match depth with
  | 0 => cutOff
  | depth + 1 => do
      let token ← advance .expression
      let left ← operand depth token
      continuing depth minimum left

/-- The operand that starts with a token. -/
def operand (depth : Nat) (token : Token) : Program Expression :=
  match depth with
  | 0 => cutOff
  | depth + 1 =>
      match token.kind with
      | .number value => return .number value
      | .text contents => return .text contents
      | .identifier spelling => return .name spelling
      | .delimiter .openParen => do
          let inner ← binding depth 0
          consume (.delimiter .closeParen)
          return inner
      | _ => throw (.expected .expression token)

/-- What follows an operand, as long as it binds more strongly than `minimum`. -/
def continuing (depth minimum : Nat) (left : Expression) : Program Expression :=
  match depth with
  | 0 => cutOff
  | depth + 1 => do
      match ← peek with
      | none => return left
      | some token =>
          if token.kind.precedence ≤ minimum then return left
          else
            let sign ← advance .expression
            let longer ← extend depth left sign
            continuing depth minimum longer

/-- An operand with one sign behind it and what belongs to that sign. -/
def extend (depth : Nat) (left : Expression) (token : Token) : Program Expression :=
  match depth with
  | 0 => cutOff
  | depth + 1 =>
      match token.kind with
      | .operator infixSign => do
          let right ← binding depth token.kind.precedence
          return .binary left infixSign right
      | .delimiter .openParen => do
          let values ← arguments depth
          return .call left values
      | _ => throw (.expected .expression token)

/-- The arguments of a call behind its opening parenthesis, to the closing one. -/
def arguments (depth : Nat) : Program (List Expression) :=
  match depth with
  | 0 => cutOff
  | depth + 1 => do
      if ← nextIs (.delimiter .closeParen) then
        let _ ← advance .argumentSeparator
        return []
      else argumentList depth

/-- One argument or more, to the closing parenthesis. -/
def argumentList (depth : Nat) : Program (List Expression) :=
  match depth with
  | 0 => cutOff
  | depth + 1 => do
      let argument ← binding depth 0
      let token ← advance .argumentSeparator
      match token.kind with
      | .delimiter .comma =>
          let others ← argumentList depth
          return argument :: others
      | .delimiter .closeParen => return [argument]
      | _ => throw (.expected .argumentSeparator token)

end

/-- An expression. -/
def expression (depth : Nat) : Program Expression :=
  binding depth 0

/-! ## Statements -/

/-- A `let`. -/
def letStatement (depth : Nat) : Program Statement := do
  consume (.keyword .letWord)
  let name ← identifier
  consume (.delimiter .equals)
  let initializer ← expression depth
  return .binding name initializer

/-- A `return`. -/
def returnStatement (depth : Nat) : Program Statement := do
  consume (.keyword .returnWord)
  match ← peek with
  | none => return .returning none
  | some token =>
      match token.kind with
      | .delimiter .terminator =>
          let _ ← advance .statement
          return .returning none
      | .keyword .endWord => return .returning none
      | _ =>
          let value ← expression depth
          return .returning (some value)

mutual

/-- A statement, or nothing where a terminator stands. -/
def statement (depth : Nat) : Program (Option Statement) :=
  match depth with
  | 0 => cutOff
  | depth + 1 => do
      match ← peek with
      | none => throw (.unexpectedEnd .statement)
      | some token =>
          match token.kind with
          | .keyword .letWord => some <$> letStatement depth
          | .keyword .returnWord => some <$> returnStatement depth
          | .keyword .doWord => some <$> block depth
          | .delimiter .terminator =>
              let _ ← advance .statement
              return none
          | .keyword _ => throw (.expected .statement token)
          | _ =>
              let value ← expression depth
              return some (.expression value)

/-- A block: statements between `do` and `end`. -/
def block (depth : Nat) : Program Statement :=
  match depth with
  | 0 => cutOff
  | depth + 1 => do
      consume (.keyword .doWord)
      let body ← statements depth
      return .block body

/-- The statements up to and with the word `end`. -/
def statements (depth : Nat) : Program (List Statement) :=
  match depth with
  | 0 => cutOff
  | depth + 1 => do
      match ← peek with
      | none => throw (.unexpectedEnd (.token (.keyword .endWord)))
      | some token =>
          if token.kind = .keyword .endWord then
            let _ ← advance (.token (.keyword .endWord))
            return []
          else
            let first ← statement depth
            let others ← statements depth
            return first.toList ++ others

end

/-- Nothing but terminators to the end of the text. -/
def finish (depth : Nat) : Program Unit :=
  match depth with
  | 0 => cutOff
  | depth + 1 => do
      match ← next with
      | none => return ()
      | some token =>
          if token.kind = .delimiter .terminator then finish depth
          else throw (.expected .endOfInput token)

/-! ## Definitions -/

/-- One parameter or more, to the closing parenthesis. -/
def parameterList (depth : Nat) : Program (List String) :=
  match depth with
  | 0 => cutOff
  | depth + 1 => do
      let name ← identifier
      let token ← advance .argumentSeparator
      match token.kind with
      | .delimiter .comma =>
          let others ← parameterList depth
          return name :: others
      | .delimiter .closeParen => return [name]
      | _ => throw (.expected .argumentSeparator token)

/-- The parameters of a definition behind the opening parenthesis, to the closing one. -/
def parameters (depth : Nat) : Program (List String) := do
  if ← nextIs (.delimiter .closeParen) then
    let _ ← advance .identifier
    return []
  else parameterList depth

/-- The part of a definition behind the word `defun`. -/
def definitionTail (depth : Nat) : Program Definition := do
  let name ← identifier
  consume (.delimiter .openParen)
  let names ← parameters depth
  consume (.delimiter .equals)
  let body ← statements depth
  return ⟨name, names, body⟩

/-- The next definition, past any terminators; nothing at the end of the text. -/
def definition (depth : Nat) : Program (Option Definition) :=
  match depth with
  | 0 => cutOff
  | depth + 1 => do
      match ← peek with
      | none => return none
      | some token =>
          if token.kind = .delimiter .terminator then
            let _ ← advance .definition
            definition depth
          else
            let word ← advance .definition
            if word.kind = .keyword .defunWord then some <$> definitionTail depth
            else throw (.expected .definition word)

/-- All definitions of a source text. -/
def module (depth : Nat) : Program Module :=
  match depth with
  | 0 => cutOff
  | depth + 1 => do
      match ← definition depth with
      | none => return []
      | some first =>
          let others ← module depth
          return first :: others

/-- Run a program, and have its error as a value. -/
def attempt (program : Program α) : Program (Except ParseError α) :=
  ExceptT.lift program.run

/-- The definitions up to the end of the text or to the first error, and that error. -/
def definitions (depth : Nat) : Program (List Definition × Option ParseError) :=
  match depth with
  | 0 => cutOff
  | depth + 1 => do
      match ← attempt (definition depth) with
      | .ok none => return ([], none)
      | .error error => return ([], some error)
      | .ok (some first) =>
          let (others, failure) ← definitions depth
          return (first :: others, failure)

end StackLang.Dialogue
