import StackLang.Text.Ranges
import StackLang.Text.Alphabetic
import StackLang.Text.Numeric
import StackLang.Text.Unprintable
import StackLang.Text.Character
import StackLang.Text.Quoted
import StackLang.Numeral.Shortest
import StackLang.Numeral.Written
import StackLang.Numeral.Read
import StackLang.Text.Position
import StackLang.Token
import StackLang.Symbol
import StackLang.Symbol.Shared
import StackLang.Token.Lexeme
import StackLang.Token.Cursor
import StackLang.Token.Lookahead
import StackLang.Syntax
import StackLang.Syntax.Shown
import StackLang.Parse.Outcome
import StackLang.Parse.Expression
import StackLang.Parse.Statement
import StackLang.Parse.Definition
import StackLang.Value
import StackLang.Bytecode.Instruction
import StackLang.Bytecode.CodeUnit
import StackLang.Bytecode.Listing
import StackLang.Globals
import StackLang.Compile.Expression
import StackLang.Compile.Statement
import StackLang.Machine.Step
import StackLang.Machine.Moves
import StackLang.Machine.Potential
import StackLang.Machine.Run
import StackLang.Build
import StackLang.Machine.Trace
import StackLang.Console
import StackLang.CommandLine.Arguments
import StackLang.CommandLine.Report
import StackLang.Main
import StackLang.Proofs.Bytecode.Decoding
import StackLang.Proofs.Globals.Table
import StackLang.Proofs.Compile.Resolution
import StackLang.Proofs.Build.Stages
import StackLang.Proofs.Build.History
import StackLang.Proofs.Build.Contract
import StackLang.Proofs.Grammar.Text
import StackLang.Proofs.Grammar.Expression
import StackLang.Proofs.Grammar.Statement
import StackLang.Proofs.Grammar.Module
import StackLang.Proofs.Evaluation.Interpreter
import StackLang.Proofs.Compile.Code
import StackLang.Proofs.Machine.Running
import StackLang.Proofs.Simulation.Outcome
import StackLang.Proofs.Compile.Pool
import StackLang.Proofs.Simulation.Expression
import StackLang.Proofs.Simulation.Statement
import StackLang.Proofs.Simulation.History
import StackLang.Proofs.Compile.Heights
import StackLang.Proofs.Compile.Units
import StackLang.Proofs.Machine.Settled
import StackLang.Proofs.Machine.Discipline
import StackLang.Proofs.Machine.Limits
import StackLang.Proofs.Machine.Listed
import StackLang.Proofs.Machine.Counterparts
import StackLang.Proofs.Compile.Counterparts
import StackLang.Proofs.Simulation.Lone
import StackLang.Proofs.Build.Counterparts
import StackLang.Proofs.Session.Answers
import StackLang.Proofs.Session.Trace
import StackLang.Proofs.Grammar.Contents
import StackLang.Proofs.Grammar.Concatenation
import StackLang.Proofs.Grammar.Continuation
import StackLang.Proofs.Grammar.Alone
import StackLang.Proofs.Grammar.Lines
import StackLang.Proofs.Grammar.Arithmetic
import StackLang.Proofs.Globals.Names
import StackLang.Proofs.Globals.Spellings
import StackLang.Proofs.Compile.Extension
import StackLang.Proofs.Build.Incremental
import StackLang.Proofs.Build.Order
import StackLang.Proofs.Evaluation.Arithmetic
import StackLang.Proofs.Simulation.Arithmetic
import StackLang.Proofs.Globals.History
import StackLang.Proofs.Text.Counting
import StackLang.Proofs.Token.Lossless
import StackLang.Proofs.Grammar.ExpressionDecision
import StackLang.Proofs.Grammar.StatementDecision
import StackLang.Proofs.Token.Extension
import StackLang.Proofs.Grammar.Finality
import StackLang.Proofs.Grammar.Completion
import StackLang.Proofs.Bytecode.RoundTrip
import StackLang.Proofs.Bytecode.Walking
import StackLang.Proofs.Compile.Acceptance
import StackLang.Proofs.Token.Newlines
import StackLang.Proofs.Token.Peeking
import StackLang.Proofs.Dialogue.Program
import StackLang.Proofs.Dialogue.Progress
import StackLang.Proofs.Console.Grouping
import StackLang.Proofs.Shown.Module
import StackLang.Proofs.Symbol.Identity
import StackLang.Proofs.Symbol.Standing
import StackLang.Proofs.Symbol.Identity
