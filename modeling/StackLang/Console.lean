import StackLang.Session

/-! # The console

A console collects lines until they make a complete input, which it then gives to its session. Blank
lines count only inside an input.

* `Console` — a session and the lines that wait for more.
* `Console.feed` — take a line.
* `Console.linesOf` — the lines of a text. -/

namespace StackLang

/-- The state of a console. -/
structure Console where
  /-- The session. -/
  session : Session
  /-- The lines that make no complete input yet. -/
  pending : List Char

namespace Console

/-- What a console shows for a line. -/
inductive Display where
  /-- Nothing. -/
  | nothing
  /-- The answer to an input. -/
  | answer (text : String)
  /-- Why an input was refused. -/
  | complaint (text : String)

/-- A console to which nothing has been given. -/
def start : Console := ⟨Session.empty, []⟩

/-- The lines that greet the user. -/
def greeting : String :=
  "Welcome to the defunct REPL!\nEOF to exit. (Ctrl+D on *nix, Ctrl+Z on Windows)\n"

/-- What stands before the next line: whether it begins an input or goes on with one. -/
def prompt (console : Console) : String :=
  if console.pending.isEmpty then "> " else ". "

/-- What is shown for a reply. -/
def displayOf : Except SessionError (Option String) → Display
  | .ok (some text) => .answer text
  | .ok none => .nothing
  | .error error => .complaint error.message

/-- Take a line, with its newline if it has one. The result tells the console afterwards, what it
shows, and what is reported. -/
def feed (console : Console) (line : List Char) : Console × Display × List Event :=
  let input := console.pending ++ line
  if input.all Text.isBlank then (⟨console.session, []⟩, .nothing, [])
  else
    let evaluation := console.session.evaluate input
    match evaluation.reply with
    | .error .incomplete => (⟨evaluation.session, input⟩, .nothing, evaluation.reports)
    | reply => (⟨evaluation.session, []⟩, displayOf reply, evaluation.reports)

/-- The lines of a text, each with its newline; the last one may have none. -/
def linesOf : List Char → List (List Char)
  | [] => []
  | '\n' :: rest => ['\n'] :: linesOf rest
  | character :: rest =>
      match linesOf rest with
      | [] => [[character]]
      | first :: others => (character :: first) :: others

/-- The lines of a text make up the text. -/
theorem flatten_linesOf (text : List Char) : (linesOf text).flatten = text := by
  fun_induction linesOf text with
  | case1 => rfl
  | case2 rest inductionHypothesis => simp [inductionHypothesis]
  | case3 character rest _ empty inductionHypothesis =>
      rw [empty] at inductionHypothesis
      simpa using inductionHypothesis
  | case4 character rest _ first others lines inductionHypothesis =>
      rw [lines] at inductionHypothesis
      simpa using inductionHypothesis

end Console

end StackLang
