import CompletionRules.Yaml.Token

-- Scalars without quotes. They end at a colon with a blank behind it, at a comment, at a document
-- mark, at a line that is not indented enough, and between brackets also at the flow indicators.

namespace CompletionRules.Yaml.Plain

def isFlowEnd (c : Char) : Bool := c == ',' || c == '[' || c == ']' || c == '\x7b' || c == '\x7d'

def takePiece (inFlow : Bool) (began : Mark) : Nat → String → Cursor → Except Fault (String × Cursor)
  | 0, text, cursor => .ok (text, cursor)
  | room + 1, text, cursor =>
    match cursor.peek with
    | none => .ok (text, cursor)
    | some c =>
      if isSpace c || isBreak c then .ok (text, cursor)
      else if inFlow && c == ':' && ((cursor.look 1).map fun d => isFlowEnd d || d == '?').getD false then
        .error (cursor.fault .unexpectedColon .plainScalar began)
      else if (c == ':' && cursor.blankAhead 1) || (inFlow && isFlowEnd c) then .ok (text, cursor)
      else takePiece inFlow began room (text.push c) (cursor.skip 1)

-- What was read so far ends at `stop`; `gap` waits to be written before the next piece.
structure Reading where
  text : String
  stop : Mark
  gap : Gap
  deriving Repr, DecidableEq

def takeRest (inFlow : Bool) (indent : Nat) (began : Mark) :
    Nat → Reading → Cursor → Except Fault (Reading × Cursor)
  | 0, reading, cursor => .ok (reading, cursor)
  | room + 1, reading, cursor => do
    if cursor.seesDocumentMark '-' || cursor.seesDocumentMark '.' || cursor.sees '#' then
      pure (reading, cursor)
    else
      let (piece, after) ← takePiece inFlow began (cursor.rest.length + 1) "" cursor
      let grown := if piece.isEmpty then reading
        else ⟨reading.text ++ reading.gap.text ++ piece, after.mark, Gap.none⟩
      if !(after.seesSpace || after.seesBreak) then pure (grown, after)
      else
        match Gap.read indent (after.rest.length + 1) Gap.none after with
        | .error tab => throw (tab.fault .tabBreaksIndent .plainScalar began)
        | .ok (gap, beyond) =>
          let waiting := { grown with gap }
          if !inFlow && beyond.mark.column < indent then pure (waiting, beyond)
          else takeRest inFlow indent began room waiting beyond

def scan (inFlow : Bool) (indent : Nat) (cursor : Cursor) : Except Fault (Token × Bool × Cursor) := do
  let (reading, after) ← takeRest inFlow indent cursor.mark (cursor.rest.length + 1)
    ⟨"", cursor.mark, Gap.none⟩ cursor
  pure (⟨.scalar reading.text true, cursor.mark, reading.stop⟩, reading.gap.broken, after)

end CompletionRules.Yaml.Plain
