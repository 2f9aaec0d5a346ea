import StackLang.Build
import StackLang.Machine.Trace

/-! # Sessions

A session takes one input after the other. An input that begins with `defun` is built into the
session; any other is one statement, which is run at once. Nothing but the functions is kept between
inputs.

* `Session` — what is kept.
* `SessionError` — why an input is refused.
* `Session.evaluate` — take an input. -/

namespace StackLang

open Bytecode (CodeUnit)

/-- Why an input is refused. -/
inductive SessionError where
  /-- More text may complete the input. -/
  | incomplete
  /-- The input is a binding, which would be gone at once. -/
  | topLevelBinding (name : String)
  /-- The input cannot be built. -/
  | build (error : BuildError)
  /-- The run of the input has failed. -/
  | runtime (error : RuntimeError)
  deriving DecidableEq, Repr

/-- The message of an error. -/
def SessionError.message : SessionError → String
  | .incomplete => "Input is incomplete"
  | .topLevelBinding name =>
      "Top-level `let " ++ name
        ++ "` is not kept between inputs; bind it inside a definition or a do block"
  | .build error => error.message
  | .runtime error => error.message

/-- A parse error in an input: more text may mend it, or not. -/
def SessionError.ofParse (error : ParseError) : SessionError :=
  if error.isIncomplete then .incomplete else .build (.parse error)

/-- The state of a session. -/
structure Session where
  /-- The functions that were defined. -/
  globals : Globals

/-- What was done for an input. -/
inductive Activity where
  /-- Nothing was built and nothing was run. -/
  | nothing
  /-- Definitions were built. -/
  | built (build : Build)
  /-- A unit was run. -/
  | ran (unit : CodeUnit)

/-- The answer to an input. -/
structure Evaluation where
  /-- A text to show, or why there is none. -/
  reply : Except SessionError (Option String)
  /-- The session afterwards. -/
  session : Session
  /-- What was done. -/
  activity : Activity

namespace Session

/-- A session in which nothing is defined. -/
def empty : Session := ⟨Globals.empty⟩

/-- The table of symbols to which the names of all inputs belong. -/
def table : Nat := 0

/-- Whether an input is to be built: it begins with `defun`. -/
def defines : List Item → Bool
  | .ok token :: _ => token.kind = .keyword .defunWord
  | _ => false

/-- The text that tells what has been defined. -/
def definedText (compiled : List Compiled) : String :=
  "\n".intercalate (compiled.map fun definition => "defined " ++ definition.name)

/-- The reply to definitions. More text is asked for only when none of them is complete; otherwise
what was built would be built twice. -/
def buildReply (build : Build) : Except SessionError (Option String) :=
  match build.error, build.compiled with
  | none, compiled => .ok (some (definedText compiled))
  | some (.parse error), [] => .error (.ofParse error)
  | some error, _ => .error (.build error)

/-- Build an input into a session. -/
def define (session : Session) (items : List Item) : Evaluation :=
  let build := Build.ofItems table items session.globals
  ⟨buildReply build, ⟨build.globals⟩, .built build⟩

/-- Read an input as one statement, or none. -/
def single (items : List Item) : Outcome (Option Statement) :=
  (Parse.statement items).andThen fun found rest => (Parse.finish rest).map fun _ => found

/-- The unit of a statement. The value of an expression is not dropped but shown. -/
def unitOf (session : Session) (statement : Statement) : Except SessionError CodeUnit :=
  let environment : Compile.Environment := ⟨session.globals, table⟩
  let compiled (unit : Except CompileError CodeUnit) : Except SessionError CodeUnit :=
    unit.mapError fun error => .build (.compile error)
  match statement with
  | .binding name _ => .error (.topLevelBinding name)
  | .expression evaluated => compiled (Compile.loneExpression environment evaluated)
  | other => compiled (Compile.loneStatement environment other)

/-- Run a unit for its value. -/
def runReply (session : Session) (unit : CodeUnit) : Except SessionError (Option String) :=
  match (Machine.run session.globals unit []).result with
  | .ok result => .ok (result.map Value.toText)
  | .error error => .error (.runtime error)

/-- Run an input. -/
def execute (session : Session) (items : List Item) : Evaluation :=
  match single items with
  | .failed error _ => ⟨.error (.ofParse error), session, .nothing⟩
  | .done none _ => ⟨.ok none, session, .nothing⟩
  | .done (some statement) _ =>
      match session.unitOf statement with
      | .error error => ⟨.error error, session, .nothing⟩
      | .ok unit => ⟨session.runReply unit, session, .ran unit⟩

/-- Take an input. -/
def evaluate (session : Session) (input : List Char) : Evaluation :=
  let items := itemsOf input
  if defines items then session.define items else session.execute items

end Session

namespace Evaluation

/-- All that is reported of an input. -/
def events (evaluation : Evaluation) : List Event :=
  match evaluation.activity with
  | .nothing => []
  | .built build => build.events
  | .ran unit => Machine.runEvents evaluation.session.globals unit []

/-- What is reported of an input without the code. -/
def reports (evaluation : Evaluation) : List Event :=
  match evaluation.activity with
  | .nothing => []
  | .built build => build.reports
  | .ran unit => [Machine.startEvent unit []]

end Evaluation

end StackLang
