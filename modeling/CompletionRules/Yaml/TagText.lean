import CompletionRules.Yaml.Token

-- What a tag's text stands for is a list of bytes, because its escapes spell bytes.

namespace CompletionRules.Yaml

namespace TagText

def isUriChar (c : Char) : Bool := isNameChar c || ";/?:@&=+$.%!~*'()".toList.contains c

def isWideUriChar (c : Char) : Bool := isUriChar c || c == ',' || c == '[' || c == ']'

def sequenceWidth (octet : Nat) : Nat :=
  if octet < 0x80 then 1
  else if octet / 0x20 = 6 then 2
  else if octet / 0x10 = 14 then 3
  else if octet / 0x08 = 30 then 4
  else 0

def octet? (cursor : Cursor) : Option Nat :=
  match cursor.rest with
  | '%' :: high :: low :: _ =>
    if isHexDigit high && isHexDigit low then some (hexValue high * 16 + hexValue low) else none
  | _ => none

def takeTrailing (activity : Activity) (began : Mark) :
    Nat → List UInt8 → Cursor → Except Fault (List UInt8 × Cursor)
  | 0, octets, cursor => .ok (octets, cursor)
  | count + 1, octets, cursor =>
    match octet? cursor with
    | none => .error (cursor.fault .noEscapedOctet activity began)
    | some octet =>
      if octet / 0x40 ≠ 2 then .error (cursor.fault .badTrailingOctet activity began)
      else takeTrailing activity began count (octets ++ [octet.toUInt8]) (cursor.skip 3)

def takeEscapes (activity : Activity) (began : Mark) (cursor : Cursor) :
    Except Fault (List UInt8 × Cursor) :=
  match octet? cursor with
  | none => .error (cursor.fault .noEscapedOctet activity began)
  | some octet =>
    if sequenceWidth octet = 0 then .error (cursor.fault .badLeadingOctet activity began)
    else takeTrailing activity began (sequenceWidth octet - 1) [octet.toUInt8] (cursor.skip 3)

def takeUriRest (wide : Bool) (activity : Activity) (began : Mark) :
    Nat → List UInt8 → Cursor → Except Fault (List UInt8 × Cursor)
  | 0, octets, cursor => .ok (octets, cursor)
  | room + 1, octets, cursor =>
    match cursor.peek with
    | none => .ok (octets, cursor)
    | some c =>
      if !(if wide then isWideUriChar c else isUriChar c) then .ok (octets, cursor)
      else if c == '%' then do
        let (escaped, after) ← takeEscapes activity began cursor
        takeUriRest wide activity began room (octets ++ escaped) after
      else takeUriRest wide activity began room (octets ++ [c.toNat.toUInt8]) (cursor.skip 1)

-- `head` is what was already read of the tag; a tag of nothing at all is refused. An escaped NUL and
-- what follows it say nothing.
def takeUri (wide : Bool) (activity : Activity) (head : List Char) (began : Mark) (cursor : Cursor) :
    Except Fault (List UInt8 × Cursor) := do
  let (octets, after) ← takeUriRest wide activity began (cursor.rest.length + 1)
    (head.drop 1 |>.map fun c => c.toNat.toUInt8) cursor
  if head.isEmpty && octets.isEmpty then throw (after.fault .noTagUri activity began)
  pure (octets.takeWhile (· ≠ 0), after)

def takeHandle (cursor : Cursor) : List Char × Cursor :=
  let (name, after) := (cursor.skip 1).span isNameChar
  if after.sees '!' then ('!' :: name ++ ['!'], after.skip 1) else ('!' :: name, after)

def isFullHandle (handle : List Char) : Bool := handle.length > 1 && handle.getLast? == some '!'

def takeVerbatim (began : Mark) (cursor : Cursor) : Except Fault (TokenKind × Cursor) := do
  let (suffix, after) ← takeUri true .tagUri [] began (cursor.skip 2)
  if !after.sees '>' then throw (after.fault .noTagEnd .tag began)
  pure (.tag "" suffix, after.skip 1)

-- What looked like a handle and does not end in a bang is the start of a suffix. A bang alone is a
-- tag of its own, without a handle.
def takeShort (began : Mark) (cursor : Cursor) : Except Fault (TokenKind × Cursor) := do
  let (handle, afterHandle) := takeHandle cursor
  if isFullHandle handle then
    let (suffix, after) ← takeUri false .tagUri [] began afterHandle
    pure (.tag (.ofList handle) suffix, after)
  else
    let (suffix, after) ← takeUri false .tagUri handle began afterHandle
    if suffix.isEmpty then pure (.tag "" [0x21], after) else pure (.tag "!" suffix, after)

def scan (inFlow : Bool) (cursor : Cursor) : Except Fault (Token × Cursor) := do
  let (kind, after) ←
    if cursor.look 1 == some '<' then takeVerbatim cursor.mark cursor
    else takeShort cursor.mark cursor
  if !after.blankAhead 0 && !(inFlow && after.sees ',') then
    throw (after.fault .noSpaceOrBreak .tag cursor.mark)
  pure (⟨kind, cursor.mark, after.mark⟩, after)

end TagText

namespace Directive

def takeNumber (began : Mark) (cursor : Cursor) : Except Fault (Nat × Cursor) := do
  let (digits, after) := cursor.span Char.isDigit
  if digits.length > 9 then throw ((cursor.skip 9).fault .longVersionNumber .versionDirective began)
  if digits.isEmpty then throw (cursor.fault .noVersionNumber .versionDirective began)
  pure (digits.foldl (fun value c => value * 10 + (c.toNat - 48)) 0, after)

def takeVersion (began : Mark) (cursor : Cursor) : Except Fault (TokenKind × Cursor) := do
  let (major, afterMajor) ← takeNumber began (cursor.skipWhile isSpace)
  if !afterMajor.sees '.' then throw (afterMajor.fault .noVersionDot .versionDirective began)
  let (minor, after) ← takeNumber began (afterMajor.skip 1)
  pure (.version major minor, after)

def takeTagMeaning (began : Mark) (cursor : Cursor) : Except Fault (TokenKind × Cursor) := do
  let start := cursor.skipWhile isSpace
  if !start.sees '!' then throw (start.fault .noBang .tagDirectiveStart began)
  let (handle, afterHandle) := TagText.takeHandle start
  if handle ≠ ['!'] && !TagText.isFullHandle handle then
    throw (afterHandle.fault .noBang .tagDirectiveHandle began)
  if !afterHandle.seesSpace then throw (afterHandle.fault .noSpace .tagDirective began)
  let (meaning, after) ← TagText.takeUri true .tagDirectiveUri [] began (afterHandle.skipWhile isSpace)
  if !after.blankAhead 0 then throw (after.fault .noSpaceOrBreak .tagDirective began)
  pure (.tagHandle (.ofList handle) meaning, after)

def scan (cursor : Cursor) : Except Fault (Token × Cursor) := do
  let began := cursor.mark
  let start := cursor.skip 1
  let (name, afterName) := start.span isNameChar
  if name.isEmpty then throw (afterName.fault .noDirectiveName .directive began)
  if !afterName.blankAhead 0 then throw (afterName.fault .badDirectiveName .directive began)
  let (kind, after) ←
    if name = "YAML".toList then takeVersion began afterName
    else if name = "TAG".toList then takeTagMeaning began afterName
    else throw (afterName.fault .unknownDirective .directive began)
  let lineEnd := after.skipLineRest
  if !lineEnd.lineEnds then throw (lineEnd.fault .noCommentOrBreak .directive began)
  pure (⟨kind, began, after.mark⟩, lineEnd.skipBreak)

end Directive

end CompletionRules.Yaml
