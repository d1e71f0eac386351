import CompletionRules.Script.Quote
import CompletionRules.Text.Lines

-- A wrapper is a shell function that prints a script instead of defining it, one print command for
-- each line of the script.

namespace CompletionRules.Script

def printCommand : List Char := "printf '%s\\n' ".toList

def wrapperEnd : List Char := "() \x7b".toList

def dropOneLineFeed (text : List Char) : List Char :=
  if text.getLast? = some '\n' then text.dropLast else text

def wrappedLines (script : String) (name : String) : List (List Char) :=
  (name.toList ++ wrapperEnd) ::
    (Text.pieces (· == '\n') (dropOneLineFeed script.toList)).map
      (fun line => ' ' :: ' ' :: printCommand ++ escaped line) ++ ["\x7d".toList]

def wrap (script : String) (name : String) : String :=
  .ofList ((wrappedLines script name).flatMap fun line => line ++ ['\n'])

def after? (start : List Char) (line : List Char) : Option (List Char) :=
  if start.isPrefixOf line then some (line.drop start.length) else none

theorem after?_append (start rest : List Char) : after? start (start ++ rest) = some rest := by
  simp [after?]

-- The script behind the body lines, up to the line that closes the function; what follows that
-- line is not looked at.
def unwrappedBody? : List (List Char) → Option (List Char)
  | [] => none
  | line :: rest =>
    if line = "\x7d".toList then some []
    else do
      let quotedLine ← after? (' ' :: ' ' :: printCommand) line
      let text ← unescaped? quotedLine
      let others ← unwrappedBody? rest
      pure (text ++ '\n' :: others)

def unwrap? (wrapped : String) : Option String :=
  match Text.linesOf wrapped.toList with
  | [] => none
  | header :: body =>
    if wrapperEnd.isSuffixOf header then (unwrappedBody? body).map String.ofList else none

end CompletionRules.Script
