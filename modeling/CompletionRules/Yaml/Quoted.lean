import CompletionRules.Yaml.Token

-- Scalars in single or double quotes. Breaks fold like those of plain text; between double quotes a
-- backslash escapes, and before a break it joins the lines without a space.

namespace CompletionRules.Yaml.Quoted

def escaped? : Char → Option Char
  | '0' => some '\x00'
  | 'a' => some '\x07'
  | 'b' => some '\x08'
  | 't' | '\t' => some '\t'
  | 'n' => some '\n'
  | 'v' => some '\x0b'
  | 'f' => some '\x0c'
  | 'r' => some '\r'
  | 'e' => some '\x1b'
  | ' ' => some ' '
  | '"' => some '"'
  | '/' => some '/'
  | '\\' => some '\\'
  | 'N' => some '\u0085'
  | '_' => some '\u00a0'
  | 'L' => some '\u2028'
  | 'P' => some '\u2029'
  | _ => none

def codeLength? : Char → Option Nat
  | 'x' => some 2
  | 'u' => some 4
  | 'U' => some 8
  | _ => none

def codePoint (digits : List Char) : Nat := digits.foldl (fun value c => value * 16 + hexValue c) 0

def takeEscape (began : Mark) (cursor : Cursor) : Except Fault (Char × Cursor) :=
  match cursor.look 1 with
  | none => .error (cursor.fault .unknownEscape .quotedEscape began)
  | some letter =>
    match escaped? letter, codeLength? letter with
    | some c, _ => .ok (c, cursor.skip 2)
    | none, some count =>
      let code := cursor.skip 2
      let digits := code.rest.take count
      if digits.length < count || !digits.all isHexDigit then
        .error (code.fault .noHexDigit .quotedEscape began)
      else if h : (codePoint digits).isValidChar then
        .ok (Char.ofNatAux (codePoint digits) h, code.skip count)
      else .error (code.fault .badCodePoint .quotedEscape began)
    | none, none => .error (cursor.fault .unknownEscape .quotedEscape began)

-- The characters up to a blank, a break, the end of the text or the closing quote, and whether the
-- line ended in a backslash, which is read together with its break.
def takePiece (double : Bool) (began : Mark) : Nat → String → Cursor → Except Fault (String × Bool × Cursor)
  | 0, text, cursor => .ok (text, false, cursor)
  | room + 1, text, cursor =>
    if cursor.blankAhead 0 then .ok (text, false, cursor)
    else if !double && cursor.sees '\'' && cursor.look 1 == some '\'' then
      takePiece double began room (text.push '\'') (cursor.skip 2)
    else if cursor.sees (if double then '"' else '\'') then .ok (text, false, cursor)
    else if double && cursor.sees '\\' then
      if ((cursor.look 1).map isBreak).getD false then
        .ok (text, true, (cursor.skip 1).skipBreak)
      else do
        let (c, after) ← takeEscape began cursor
        takePiece double began room (text.push c) after
    else match cursor.peek with
      | none => .ok (text, false, cursor)
      | some c => takePiece double began room (text.push c) (cursor.skip 1)

def takeRest (double : Bool) (began : Mark) : Nat → String → Cursor → Except Fault (String × Cursor)
  | 0, text, cursor => .ok (text, cursor)
  | room + 1, text, cursor => do
    if cursor.seesDocumentMark '-' || cursor.seesDocumentMark '.' then
      throw (cursor.fault .documentInQuotes .quotedScalar began)
    if cursor.atEnd then throw (cursor.fault .endInQuotes .quotedScalar began)
    let (piece, joined, after) ← takePiece double began (cursor.rest.length + 1) text cursor
    if after.sees (if double then '"' else '\'') then pure (piece, after.skip 1)
    else
      -- With no indent no tab is refused, so reading the gap does not fail.
      match Gap.read 0 (after.rest.length + 1) { Gap.none with broken := joined } after with
      | .error stopped => pure (piece, stopped)
      | .ok (gap, beyond) => takeRest double began room (piece ++ gap.text) beyond

def scan (double : Bool) (cursor : Cursor) : Except Fault (Token × Cursor) := do
  let (text, after) ← takeRest double cursor.mark (cursor.rest.length + 1) "" (cursor.skip 1)
  pure (⟨.scalar text false, cursor.mark, after.mark⟩, after)

end CompletionRules.Yaml.Quoted
