import StackLang.CommandLine.Report

/-! # The program

The command line: reads files and lines, and prints reports. -/

namespace StackLang.CommandLine

/-- Why a file could not be read. -/
def readFailureOf : IO.Error → ReadFailure
  | .noFileOrDirectory _ number _ => .system "No such file or directory" number.toNat
  | .inappropriateType _ number _ => .system "Is a directory" number.toNat
  | .permissionDenied _ number _ => .system "Permission denied" number.toNat
  | error => .system (toString error) 0

/-- Read the text of a file. -/
def readText (file : String) : IO (Except ReadFailure (List Char)) := do
  try
    let bytes ← IO.FS.readBinFile file
    match String.fromUTF8? bytes with
    | some text => return .ok text.toList
    | none => return .error .notText
  catch error => return .error (readFailureOf error)

/-- Serve a console until its input ends. -/
partial def serveConsole (verbosity : Nat) (input : IO.FS.Stream) (console : Console) :
    IO Unit := do
  IO.print console.prompt
  (← IO.getStdout).flush
  let line ← input.getLine
  if line.isEmpty then return
  let (after, display, events) := console.feed line.toList
  IO.eprint (logText verbosity events)
  match display with
  | .nothing => pure ()
  | .answer text => IO.println text
  | .complaint text => IO.eprintln text
  serveConsole verbosity input after

/-- Print a report. -/
def printReport (report : Report) : IO UInt32 := do
  IO.print report.output
  IO.eprint report.errors
  return report.status

/-- Do what the command line asks for. -/
def perform (words : List String) : IO UInt32 := do
  match Invocation.ofWords words with
  | .version => printReport (.success versionText "")
  | .help => printReport (.success helpText "")
  | .misuse => printReport ⟨2, "", helpText⟩
  | .execute verbosity .repl =>
      IO.print Console.greeting
      serveConsole verbosity (← IO.getStdin) Console.start
      return 0
  | .execute verbosity command =>
      let source ← match command.file? with
        | some file => readText file
        | none => pure (.ok [])
      printReport (command.report verbosity (fun _ => source) [])

end StackLang.CommandLine

/-- The program. -/
def main (words : List String) : IO UInt32 :=
  StackLang.CommandLine.perform words
