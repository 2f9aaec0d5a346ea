import StackLang.Syntax

/-! # The text of a syntax tree

Expressions are shown in a notation that needs no precedence: an operator comes first, and every
operation stands in parentheses. Statements are shown one to a line, indented by two spaces for each
block around them.

* `Expression.shown`, `Statement.shown`, `Definition.shown`, `Module.shown` — the text of a tree. -/

namespace StackLang

/-- Texts with a comma and a space between any two. -/
def commaSeparated : List (List Char) → List Char
  | [] => []
  | [only] => only
  | first :: rest => first ++ ", ".toList ++ commaSeparated rest

mutual

/-- The text of an expression. -/
def Expression.shown : Expression → List Char
  | .number value => Numeral.written value
  | .text contents => Text.Quoted.text contents
  | .name spelling => spelling.toList
  | .binary left infixSign right =>
      '(' :: infixSign.sign :: ' ' :: left.shown ++ ' ' :: right.shown ++ [')']
  | .call callee arguments =>
      callee.shown ++ '(' :: commaSeparated (Expression.shownAll arguments) ++ [')']

/-- The texts of several expressions. -/
def Expression.shownAll : List Expression → List (List Char)
  | [] => []
  | first :: rest => first.shown :: Expression.shownAll rest

end

/-- The spaces in front of a line inside a number of blocks. -/
def indentation (depth : Nat) : List Char :=
  List.replicate (2 * depth) ' '

mutual

/-- The lines of a statement, without a newline behind the last one. -/
def Statement.shownAt (depth : Nat) : Statement → List Char
  | .binding name initializer =>
      indentation depth ++ "let ".toList ++ name.toList ++ " = ".toList ++ initializer.shown
        ++ [';']
  | .returning (some value) => indentation depth ++ "return ".toList ++ value.shown ++ [';']
  | .returning none => indentation depth ++ "return;".toList
  | .expression evaluated => indentation depth ++ evaluated.shown ++ [';']
  | .block statements =>
      indentation depth ++ "do\n".toList ++ Statement.linesAt (depth + 1) statements
        ++ indentation depth ++ "end".toList

/-- The lines of several statements, each line with a newline behind it. -/
def Statement.linesAt (depth : Nat) : List Statement → List Char
  | [] => []
  | first :: rest => first.shownAt depth ++ '\n' :: Statement.linesAt depth rest

end

/-- The text of a statement that stands in no block. -/
def Statement.shown (statement : Statement) : List Char :=
  statement.shownAt 0

/-- The text of a definition, without a newline behind its last line. -/
def Definition.shown (definition : Definition) : List Char :=
  "defun ".toList ++ definition.name.toList
    ++ '(' :: commaSeparated (definition.parameters.map String.toList) ++ ") =\n".toList
    ++ Statement.linesAt 1 definition.body ++ "end".toList

/-- The text of a module: its definitions, each with a newline behind it. -/
def Module.shown (definitions : Module) : List Char :=
  definitions.flatMap fun definition => definition.shown ++ ['\n']

end StackLang
