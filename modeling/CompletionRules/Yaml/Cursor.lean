import CompletionRules.Yaml.Fault

-- A cursor stands before the rest of a text and knows its mark.

namespace CompletionRules.Yaml

def isBreak (c : Char) : Bool :=
  c == '\n' || c == '\r' || c == '\u0085' || c == '\u2028' || c == '\u2029'

def isSpace (c : Char) : Bool := c == ' ' || c == '\t'

def isNameChar (c : Char) : Bool := c.isAlphanum || c == '_' || c == '-'

def isHexDigit (c : Char) : Bool :=
  c.isDigit || ('a' ≤ c && c ≤ 'f') || ('A' ≤ c && c ≤ 'F')

def hexValue (c : Char) : Nat :=
  if c.isDigit then c.toNat - 48 else if 'a' ≤ c && c ≤ 'f' then c.toNat - 87 else c.toNat - 55

structure Cursor where
  rest : List Char
  mark : Mark
  deriving Repr, DecidableEq

namespace Cursor

def ofText (text : List Char) : Cursor := ⟨text, .start⟩

def peek (cursor : Cursor) : Option Char := cursor.rest.head?

def look (cursor : Cursor) (ahead : Nat) : Option Char := cursor.rest[ahead]?

def sees (cursor : Cursor) (c : Char) : Bool := cursor.peek == some c

def atEnd (cursor : Cursor) : Bool := cursor.rest.isEmpty

def seesSpace (cursor : Cursor) : Bool := (cursor.peek.map isSpace).getD false

def seesBreak (cursor : Cursor) : Bool := (cursor.peek.map isBreak).getD false

def lineEnds (cursor : Cursor) : Bool := (cursor.peek.map isBreak).getD true

def blankAhead (cursor : Cursor) (ahead : Nat) : Bool :=
  ((cursor.look ahead).map fun c => isSpace c || isBreak c).getD true

def skip (cursor : Cursor) (count : Nat) : Cursor :=
  ⟨cursor.rest.drop count, cursor.mark.right (cursor.rest.take count)⟩

def span (cursor : Cursor) (within : Char → Bool) : List Char × Cursor :=
  let taken := cursor.rest.takeWhile within
  (taken, cursor.skip taken.length)

def skipWhile (cursor : Cursor) (within : Char → Bool) : Cursor := (cursor.span within).2

-- Past one break, with the text it stands for: a carriage return with a line feed is one break, and
-- all but the two Unicode separators stand for a line feed.
def takeBreak (cursor : Cursor) : String × Cursor :=
  match cursor.rest with
  | '\r' :: '\n' :: rest => ("\n", ⟨rest, cursor.mark.newLine ['\r', '\n']⟩)
  | c :: rest =>
    if isBreak c then
      (if c == '\u2028' || c == '\u2029' then String.singleton c else "\n",
        ⟨rest, cursor.mark.newLine [c]⟩)
    else ("", cursor)
  | [] => ("", cursor)

def skipBreak (cursor : Cursor) : Cursor := cursor.takeBreak.2

def seesDocumentMark (cursor : Cursor) (c : Char) : Bool :=
  cursor.mark.column == 0 && cursor.look 0 == some c && cursor.look 1 == some c &&
    cursor.look 2 == some c && cursor.blankAhead 3

def skipLineRest (cursor : Cursor) : Cursor :=
  let shown := cursor.skipWhile isSpace
  if shown.sees '#' then shown.skipWhile fun c => !isBreak c else shown

def fault (cursor : Cursor) (problem : Problem) (activity : Activity) (began : Mark) : Fault :=
  .at problem cursor.mark (some (activity, began))

end Cursor

structure Gap where
  spaces : String
  firstBreak : String
  otherBreaks : String
  broken : Bool
  deriving Repr, DecidableEq

namespace Gap

def none : Gap := ⟨"", "", "", false⟩

-- One line feed folds to a space, more keep all but the first; a break that does not stand for a
-- line feed is kept.
def text (gap : Gap) : String :=
  if gap.broken then
    if gap.firstBreak = "\n" then if gap.otherBreaks.isEmpty then " " else gap.otherBreaks
    else gap.firstBreak ++ gap.otherBreaks
  else gap.spaces

def read (indent : Nat) : Nat → Gap → Cursor → Except Cursor (Gap × Cursor)
  | 0, gap, cursor => .ok (gap, cursor)
  | room + 1, gap, cursor =>
    if cursor.seesSpace then
      if gap.broken && cursor.mark.column < indent && cursor.sees '\t' then .error cursor
      else
        let spaces := if gap.broken then gap.spaces else
          match cursor.peek with
          | some c => gap.spaces.push c
          | .none => gap.spaces
        read indent room { gap with spaces } (cursor.skip 1)
    else if cursor.seesBreak then
      let (text, after) := cursor.takeBreak
      if gap.broken then read indent room { gap with otherBreaks := gap.otherBreaks ++ text } after
      else read indent room { gap with spaces := "", firstBreak := text, broken := true } after
    else .ok (gap, cursor)

end Gap

end CompletionRules.Yaml
