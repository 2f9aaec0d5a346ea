import StackLang.Numeral.Read

/-! # Arguments of the command line

The words of a command line are read from left to right. A word that starts with a dash is an
option, unless it comes behind the word `--`, or is the dash alone, or is a negative number where
numbers are looked for.

* `CommandLine.Command` — what the program may be asked to do.
* `CommandLine.Invocation` — a command with its verbosity, or a request for the version or for help.
* `CommandLine.Invocation.ofWords` — read the words of a command line. -/

namespace StackLang.CommandLine

/-- What the program may be asked to do. -/
inductive Command where
  /-- Build a file and call one of its functions with numbers. -/
  | run (file function : String) (numbers : List Float)
  /-- Read inputs one after the other. -/
  | repl
  /-- Show the tokens of a file. -/
  | tokens (file : String)
  /-- Show the definitions of a file. -/
  | parse (file : String)
  /-- Show the code of the definitions of a file. -/
  | disassemble (file : String)

/-- What a command line asks for. -/
inductive Invocation where
  /-- A command, and how many times more should be reported. -/
  | execute (verbosity : Nat) (command : Command)
  /-- The version of the program. -/
  | version
  /-- How the program is used. -/
  | help
  /-- The command line is not one that the program understands. -/
  | misuse

/-! ## Words -/

/-- What a word looks like. -/
inductive Word where
  /-- The word `--`, behind which all words are plain. -/
  | separator
  /-- Two dashes and a name, perhaps with a value behind an equals sign. -/
  | long (name : String) (value : Option String)
  /-- One dash and letters. -/
  | short (letters : List Char)
  /-- Any other word. -/
  | plain

/-- A long option: its name, and its value behind the first equals sign. -/
def Word.ofLong (text : List Char) : Word :=
  let name := String.ofList (text.takeWhile (· ≠ '='))
  match text.dropWhile (· ≠ '=') with
  | [] => .long name none
  | _ :: value => .long name (some (String.ofList value))

/-- What a word looks like. -/
def Word.ofText (text : String) : Word :=
  match text.toList with
  | ['-', '-'] => .separator
  | '-' :: '-' :: rest => .ofLong rest
  | ['-'] => .plain
  | '-' :: letters => .short letters
  | _ => .plain

/-- Whether the letters behind a dash make a negative number: digits, a point behind the first of
them, and then an exponent of digits without a sign. -/
def isNumberText (letters : List Char) : Bool :=
  let mantissa := letters.takeWhile fun letter => letter ≠ 'e' && letter ≠ 'E'
  let exponent := (letters.drop mantissa.length).tail
  let whole := mantissa.takeWhile (· ≠ '.')
  let fraction := (mantissa.drop whole.length).tail
  !whole.isEmpty && whole.all Char.isDigit && fraction.all Char.isDigit
    && exponent.all Char.isDigit && (exponent.length != 0 || mantissa.length == letters.length)

/-! ## Behind the name of a command -/

/-- What a command wants besides options. -/
inductive Subject where
  /-- Nothing. -/
  | nothing
  /-- A file. -/
  | file
  /-- A file, the name of a function, and numbers. -/
  | function
  deriving DecidableEq

/-- What has been read behind the name of a command. -/
structure Collected where
  /-- How many times more should be reported. -/
  verbosity : Nat
  /-- The file. -/
  file : Option String
  /-- The name of the function. -/
  function : Option String
  /-- The numbers. -/
  numbers : List Float

/-- Nothing has been read yet. -/
def Collected.empty : Collected := ⟨0, none, none, []⟩

/-- How the words behind the name of a command end. -/
inductive Collection where
  /-- They are all read. -/
  | complete (collected : Collected)
  /-- Help is asked for. -/
  | help
  /-- A word is not understood. -/
  | misuse

/-- Take a plain word: the file, and then numbers. -/
def Collected.place? (subject : Subject) (collected : Collected) (text : String) :
    Option Collected :=
  match subject, collected.file with
  | .nothing, _ => none
  | _, none => if text.isEmpty then none else some { collected with file := some text }
  | .file, some _ => none
  | .function, some _ =>
      (Numeral.read? text.toList).map fun number =>
        { collected with numbers := collected.numbers ++ [number] }

/-- Take the name of the function, which may be given once. -/
def Collected.name? (collected : Collected) (text : String) : Option Collected :=
  match collected.function with
  | none => some { collected with function := some text }
  | some _ => none

/-- What the letters of a short option ask for. -/
inductive Letters where
  /-- More reports. -/
  | louder (times : Nat)
  /-- More reports, and the name of a function, which may be attached. -/
  | function (times : Nat) (attached : Option String)
  /-- Help. -/
  | help
  /-- A letter is not understood. -/
  | misuse

/-- Read the letters of a short option. -/
def Letters.ofText (subject : Subject) : List Char → Letters
  | [] => .louder 0
  | 'h' :: _ => .help
  | 'v' :: rest =>
      match Letters.ofText subject rest with
      | .louder times => .louder (times + 1)
      | .function times attached => .function (times + 1) attached
      | .help => .help
      | .misuse => .misuse
  | 'f' :: rest =>
      if subject = .function then
        match rest with
        | [] => .function 0 none
        | '=' :: attached => .function 0 (some (String.ofList attached))
        | attached => .function 0 (some (String.ofList attached))
      else .misuse
  | _ => .misuse

/-- Whether a negative number may stand at this place. -/
def Collected.takesNumber (subject : Subject) (collected : Collected) (letters : List Char) :
    Bool :=
  subject = .function && collected.file.isSome && isNumberText letters

/-- Whether a word may be the value of the option before it. -/
def Collected.takesValue (subject : Subject) (collected : Collected) (text : String) : Bool :=
  match Word.ofText text with
  | .plain => true
  | .short letters => collected.takesNumber subject letters
  | _ => false

/-- Take plain words to the end. -/
def Collected.placeAll (subject : Subject) (collected : Collected) : List String → Collection
  | [] => .complete collected
  | text :: rest =>
      match collected.place? subject text with
      | some more => more.placeAll subject rest
      | none => .misuse

/-- Report more. -/
def Collected.louder (collected : Collected) (times : Nat) : Collected :=
  { collected with verbosity := collected.verbosity + times }

/-- What a word behind the name of a command leads to. -/
inductive Advance where
  /-- The word is read. -/
  | next (collected : Collected)
  /-- The next word must be the name of the function. -/
  | functionName (collected : Collected)
  /-- All further words are plain. -/
  | plainOnly
  /-- Nothing more is read. -/
  | stop (ending : Collection)

/-- The word is read, if it could be. -/
def Advance.ofOption : Option Collected → Advance
  | some collected => .next collected
  | none => .stop .misuse

/-- Take the option for the name of the function, to which the name may be attached. -/
def Collected.takeFunction (collected : Collected) : Option String → Advance
  | none => .functionName collected
  | some name => .ofOption (collected.name? name)

/-- Take a word. -/
def Collected.take (subject : Subject) (collected : Collected) (text : String) : Advance :=
  match Word.ofText text with
  | .plain => .ofOption (collected.place? subject text)
  | .separator => .plainOnly
  | .long "verbose" none => .next (collected.louder 1)
  | .long "help" none => .stop .help
  | .long "function" value =>
      if subject = .function then collected.takeFunction value else .stop .misuse
  | .long _ _ => .stop .misuse
  | .short letters =>
      if collected.takesNumber subject letters then .ofOption (collected.place? subject text)
      else
        match Letters.ofText subject letters with
        | .louder times => .next (collected.louder times)
        | .function times attached => (collected.louder times).takeFunction attached
        | .help => .stop .help
        | .misuse => .stop .misuse

/-- Read the words behind the name of a command. -/
def Collected.read (subject : Subject) (collected : Collected) : List String → Collection
  | [] => .complete collected
  | text :: rest =>
      match collected.take subject text with
      | .next more => more.read subject rest
      | .plainOnly => collected.placeAll subject rest
      | .stop ending => ending
      | .functionName more =>
          match rest with
          | [] => .misuse
          | name :: others =>
              if more.takesValue subject name then
                match more.name? name with
                | some named => named.read subject others
                | none => .misuse
              else .misuse

/-! ## The whole command line -/

/-- The command of a name, what it wants, and how it is made from what was read. -/
def commandOf? : String → Option (Subject × (Collected → Option Command))
  | "run" => some (.function, fun collected => collected.file.map fun file =>
      .run file (collected.function.getD "main") collected.numbers)
  | "repl" => some (.nothing, fun _ => some .repl)
  | "tokens" => some (.file, fun collected => collected.file.map .tokens)
  | "parse" => some (.file, fun collected => collected.file.map .parse)
  | "disassemble" => some (.file, fun collected => collected.file.map .disassemble)
  | _ => none

/-- Read the words behind `help`: at most one, the name of a command. -/
def helpOn : List String → Invocation
  | [] => .help
  | [name] => if name = "help" || (commandOf? name).isSome then .help else .misuse
  | _ => .misuse

/-- Read the letters of a short option before the name of a command: how many times more should be
reported, unless something else is asked for first. -/
def leadingLetters : List Char → Except Invocation Nat
  | [] => .ok 0
  | 'v' :: rest => (leadingLetters rest).map (· + 1)
  | 'V' :: _ => .error .version
  | 'h' :: _ => .error .help
  | _ => .error .misuse

/-- Read a command line, after it was asked to report more a number of times. What is asked for
behind the name of the command counts instead, if anything is. -/
def Invocation.ofWordsAfter (verbosity : Nat) : List String → Invocation
  | [] => .execute verbosity .repl
  | text :: rest =>
      match Word.ofText text with
      | .separator => if rest.isEmpty then .execute verbosity .repl else .misuse
      | .long "verbose" none => ofWordsAfter (verbosity + 1) rest
      | .long "version" none => .version
      | .long "help" none => .help
      | .long _ _ => .misuse
      | .short letters =>
          match leadingLetters letters with
          | .ok times => ofWordsAfter (verbosity + times) rest
          | .error invocation => invocation
      | .plain =>
          if text = "help" then helpOn rest
          else
            match commandOf? text with
            | none => .misuse
            | some (subject, make) =>
                match Collected.empty.read subject rest with
                | .help => .help
                | .misuse => .misuse
                | .complete collected =>
                    match make collected with
                    | none => .misuse
                    | some command =>
                        let asked := collected.verbosity
                        .execute (if asked = 0 then verbosity else asked) command

/-- Read the words of a command line. -/
def Invocation.ofWords (words : List String) : Invocation :=
  ofWordsAfter 0 words

end StackLang.CommandLine
