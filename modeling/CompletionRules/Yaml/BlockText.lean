import CompletionRules.Yaml.Token

namespace CompletionRules.Yaml.BlockText

inductive Chomping where
  | clip
  | strip
  | keep
  deriving Repr, DecidableEq

def chomping? (cursor : Cursor) : Option Chomping :=
  if cursor.sees '+' then some .keep else if cursor.sees '-' then some .strip else none

structure Header where
  chomping : Chomping
  increment : Option Nat
  deriving Repr, DecidableEq

def takeIncrement (began : Mark) (cursor : Cursor) : Except Fault (Option Nat × Cursor) :=
  match cursor.peek with
  | some c =>
    if c == '0' then .error (cursor.fault .zeroIndent .blockScalar began)
    else if c.isDigit then .ok (some (c.toNat - 48), cursor.skip 1)
    else .ok (none, cursor)
  | none => .ok (none, cursor)

def takeHeader (began : Mark) (cursor : Cursor) : Except Fault (Header × Cursor) := do
  match chomping? cursor with
  | some chomping =>
    let (increment, after) ← takeIncrement began (cursor.skip 1)
    pure (⟨chomping, increment⟩, after)
  | none =>
    let (increment, after) ← takeIncrement began cursor
    match increment, chomping? after with
    | some _, some chomping => pure (⟨chomping, increment⟩, after.skip 1)
    | _, _ => pure (⟨.clip, increment⟩, after)

-- The blank lines before a line of text: their breaks, the deepest column met, the place after the
-- last break. An indent of zero is one not yet known.
structure Blanks where
  breaks : String
  deepest : Nat
  stop : Mark
  deriving Repr, DecidableEq

def takeBlanks (began : Mark) (indent : Nat) : Nat → Blanks → Cursor → Except Fault (Blanks × Cursor)
  | 0, blanks, cursor => .ok (blanks, cursor)
  | room + 1, blanks, cursor =>
    let column := cursor.mark.column
    let spaces := (cursor.rest.takeWhile (· == ' ')).length
    let indented := cursor.skip (if indent = 0 then spaces else min spaces (indent - column))
    let deepest := max blanks.deepest indented.mark.column
    if (indent = 0 || indented.mark.column < indent) && indented.sees '\t' then
      .error (indented.fault .tabForIndent .blockScalar began)
    else if indented.seesBreak then
      let (text, after) := indented.takeBreak
      takeBlanks began indent room ⟨blanks.breaks ++ text, deepest, after.mark⟩ after
    else .ok ({ blanks with deepest }, indented)

-- Breaks before a line of text, the indent of the block, and where the block ends if no line
-- follows.
def takeBreaks (began : Mark) (parentIndent : Int) (indent : Nat) (cursor : Cursor) :
    Except Fault (String × Nat × Mark × Cursor) := do
  let (blanks, after) ← takeBlanks began indent (cursor.rest.length + 1) ⟨"", 0, cursor.mark⟩ cursor
  let found := if indent = 0 then max (max blanks.deepest (parentIndent + 1).toNat) 1 else indent
  pure (blanks.breaks, found, blanks.stop, after)

structure Reading where
  text : String
  firstBreak : String
  otherBreaks : String
  afterSpaced : Bool
  stop : Mark
  deriving Repr, DecidableEq

def breakText (folded : Bool) (spaced : Bool) (reading : Reading) : String :=
  if folded && reading.firstBreak = "\n" && !reading.afterSpaced && !spaced then
    if reading.otherBreaks.isEmpty then " " else reading.otherBreaks
  else reading.firstBreak ++ reading.otherBreaks

def takeLines (folded : Bool) (began : Mark) (indent : Nat) :
    Nat → Reading → Cursor → Except Fault (Reading × Cursor)
  | 0, reading, cursor => .ok (reading, cursor)
  | room + 1, reading, cursor =>
    if cursor.mark.column = indent && !cursor.atEnd then do
      let spaced := cursor.seesSpace
      let (line, lineEnd) := cursor.span fun c => !isBreak c
      let (firstBreak, next) := lineEnd.takeBreak
      let (otherBreaks, _, stop, after) ← takeBreaks began 0 indent next
      takeLines folded began indent room
        ⟨reading.text ++ breakText folded spaced reading ++ .ofList line, firstBreak, otherBreaks,
          spaced, stop⟩ after
    else .ok (reading, cursor)

def chomped (chomping : Chomping) (reading : Reading) : String :=
  match chomping with
  | .strip => reading.text
  | .clip => reading.text ++ reading.firstBreak
  | .keep => reading.text ++ reading.firstBreak ++ reading.otherBreaks

def scan (folded : Bool) (parentIndent : Int) (cursor : Cursor) : Except Fault (Token × Cursor) := do
  let began := cursor.mark
  let (header, afterHeader) ← takeHeader began (cursor.skip 1)
  let lineEnd := afterHeader.skipLineRest
  if !lineEnd.lineEnds then throw (lineEnd.fault .noCommentOrBreak .blockScalar began)
  let firstLine := lineEnd.skipBreak
  let given := match header.increment with
    | some increment => (max parentIndent 0).toNat + increment
    | none => 0
  let (breaks, indent, stop, after) ← takeBreaks began parentIndent given firstLine
  let (reading, beyond) ← takeLines folded began indent (after.rest.length + 1)
    ⟨"", "", breaks, false, stop⟩ after
  pure (⟨.scalar (chomped header.chomping reading) false, began, reading.stop⟩, beyond)

end CompletionRules.Yaml.BlockText
