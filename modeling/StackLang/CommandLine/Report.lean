import StackLang.CommandLine.Arguments
import StackLang.Console
import StackLang.Syntax.Shown

/-! # Reports of commands

A command shows its results, reports what it does as far as that is asked for, and ends with a
message if it fails.

* `CommandLine.Report` — all that a command shows.
* `CommandLine.ReadFailure` — why the file of a command cannot be read.
* `CommandLine.Command.report` — the report of a command on a file.
* `CommandLine.replay` — the report of a console on all its input. -/

namespace StackLang.CommandLine

/-- All that a command shows. -/
structure Report where
  /-- The exit status. -/
  status : UInt32
  /-- The results. -/
  output : String
  /-- The events, and the message of a failure. -/
  errors : String

/-- The report of a command that succeeds. -/
def Report.success (output log : String) : Report :=
  ⟨0, output, log⟩

/-- The report of a command that fails. -/
def Report.failure (output log message : String) : Report :=
  ⟨1, output, log ++ "error: " ++ message ++ "\n"⟩

/-- Why the file of a command cannot be read. -/
inductive ReadFailure where
  /-- The system refuses it, for a reason with a number. -/
  | system (reason : String) (number : Nat)
  /-- It is no text. -/
  | notText

/-- The reason in words. -/
def ReadFailure.reason : ReadFailure → String
  | .system reason number => s!"{reason} (os error {number})"
  | .notText => "stream did not contain valid UTF-8"

/-- The lines that report events, as far as the verbosity asks for them. -/
def logText (verbosity : Nat) (events : List Event) : String :=
  let lines := events.filter fun event => event.level.rank ≤ verbosity
  String.join (lines.map fun event => event.line ++ "\n")

/-- The name and the version of the program. -/
def versionText : String := "defunct 0.1.0\n"

/-- How the program is used. -/
def helpText : String :=
  "Usage: defunct [-v]... [COMMAND]\n\n"
    ++ "Commands:\n"
    ++ "  run FILE [-f NAME] [NUMBER]...  Compile a file and call one of its functions\n"
    ++ "  repl                            Read definitions and expressions interactively\n"
    ++ "  tokens FILE                     Print the token stream of a file\n"
    ++ "  parse FILE                      Print the parsed definitions of a file\n"
    ++ "  disassemble FILE                Print the bytecode of every definition in a file\n"

/-- The table of symbols to which the names of a file belong. -/
def table : Nat := 0

/-- Build a file and call one of its functions. -/
def reportRun (verbosity : Nat) (function : String) (numbers : List Float) (source : List Char) :
    Report :=
  let build := Build.ofSource table source Globals.empty
  let built := logText verbosity build.reports
  match build.error with
  | some error => .failure "" built error.message
  | none =>
      let arguments := numbers.map Value.number
      let start := match (build.globals.find? function).bind build.globals.unit? with
        | some unit => [Machine.startEvent unit arguments]
        | none => []
      let started := built ++ logText verbosity start
      match (Machine.call build.globals function arguments #[]).result with
      | .error error => .failure "" started error.message
      | .ok (some value) => .success (value.toText ++ "\n") started
      | .ok none => .success "" (started ++ logText verbosity [.voidResult function])

/-- A line for each token, up to the first lexical error. The number of the source line stands
before the first token on it. -/
def tokenLines (line : Nat) : List Item → String × Option LexicalError
  | [] => ("", none)
  | .error error :: _ => ("", some error)
  | .ok token :: rest =>
      let start := token.span.start
      let margin :=
        if start.line = line then "   | "
        else Text.rightAligned 4 (toString start.line) ++ " "
      let column := Text.leftAligned 4 (toString start.column)
      let (others, error) := tokenLines start.line rest
      (margin ++ column ++ " " ++ token.kind.toText ++ "\n" ++ others, error)

/-- Show the tokens of a file. -/
def reportTokens (source : List Char) : Report :=
  match tokenLines 0 (itemsOf source) with
  | (output, none) => .success output ""
  | (output, some error) => .failure output "" error.message

/-- Show the definitions of a file. -/
def reportParse (source : List Char) : Report :=
  match Parse.module (itemsOf source) with
  | .done definitions _ => .success (String.ofList (Module.shown definitions)) ""
  | .failed error _ => .failure "" "" error.message

/-- Show the code of the definitions of a file. A function that is defined twice is shown twice,
both times with its last code. -/
def reportListing (verbosity : Nat) (source : List Char) : Report :=
  let build := Build.ofSource table source Globals.empty
  let log := logText verbosity build.reports
  match build.error with
  | some error => .failure "" log error.message
  | none =>
      let units := build.compiled.filterMap fun definition => build.globals.unit? definition.slot
      .success (String.join (units.map fun unit => unit.listing ++ "\n")) log

/-- What a console shows for all its input, line by line: the prompts with the answers, and the
events with the complaints. -/
def transcript (verbosity : Nat) (console : Console) : List (List Char) → String × String
  | [] => (console.prompt, "")
  | line :: rest =>
      let (after, display, events) := console.feed line
      let (output, errors) := transcript verbosity after rest
      let log := logText verbosity events
      match display with
      | .nothing => (console.prompt ++ output, log ++ errors)
      | .answer text => (console.prompt ++ text ++ "\n" ++ output, log ++ errors)
      | .complaint text => (console.prompt ++ output, log ++ text ++ "\n" ++ errors)

/-- The report of a console on all its input. -/
def replay (verbosity : Nat) (input : List Char) : Report :=
  let (output, errors) := transcript verbosity Console.start (Console.linesOf input)
  .success (Console.greeting ++ output) errors

/-- The file that a command reads. -/
def Command.file? : Command → Option String
  | .run file _ _ => some file
  | .repl => none
  | .tokens file => some file
  | .parse file => some file
  | .disassemble file => some file

/-- The report of a command, given what reading its file leads to and the input of a console. -/
def Command.report (verbosity : Nat) (read : String → Except ReadFailure (List Char))
    (input : List Char) (command : Command) : Report :=
  let onFile (file : String) (shown : List Char → Report) : Report :=
    match read file with
    | .ok source => shown source
    | .error failure => .failure "" "" ("Failed to read " ++ file ++ ": " ++ failure.reason)
  match command with
  | .repl => replay verbosity input
  | .run file function numbers => onFile file (reportRun verbosity function numbers)
  | .tokens file => onFile file reportTokens
  | .parse file => onFile file reportParse
  | .disassemble file => onFile file (reportListing verbosity)

end StackLang.CommandLine
