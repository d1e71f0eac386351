import CompletionRules.Text.Pieces

-- Lines end at a line feed. A carriage return right before it belongs to the line end; an empty rest after the
-- last line feed is no line.

namespace CompletionRules.Text

def dropReturn (line : List Char) : List Char :=
  if line.getLast? = some '\r' then line.dropLast else line

def finishLines : List (List Char) → List (List Char)
  | [] => []
  | [last] => if last.isEmpty then [] else [last]
  | line :: next :: others => dropReturn line :: finishLines (next :: others)

def linesOf (text : List Char) : List (List Char) := finishLines (pieces (· == '\n') text)

end CompletionRules.Text
