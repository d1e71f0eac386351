import CompletionRules.Yaml.BlockText
import CompletionRules.Yaml.Plain
import CompletionRules.Yaml.Quoted
import CompletionRules.Yaml.TagText

-- The token stream of a text. Whether something is the key of a mapping shows only at the colon behind it;
-- until then it is a candidate key, and its token and those after it wait to be handed out.

namespace CompletionRules.Yaml

-- A candidate key must be decided on its own line and within 1024 bytes. Where the indentation
-- leaves no other reading it is required.
structure CandidateKey where
  possible : Bool
  required : Bool
  number : Nat
  mark : Mark
  deriving Repr, DecidableEq

def CandidateKey.none : CandidateKey := ⟨false, false, 0, .start⟩

-- `keys` has one candidate for each open flow collection, innermost first, and one for the block around them.
-- An indent of -1 stands outside of every block.
structure Reader where
  cursor : Cursor
  waiting : List Token
  given : Nat
  indent : Int
  outerIndents : List Int
  key : CandidateKey
  outerKeys : List CandidateKey
  keyAllowed : Bool
  ended : Bool
  deriving Repr, DecidableEq

namespace Reader

def ofText (text : List Char) : Reader where
  cursor := .ofText text
  waiting := [⟨.streamStart, .start, .start⟩]
  given := 0
  indent := -1
  outerIndents := []
  key := .none
  outerKeys := []
  keyAllowed := true
  ended := false

def inFlow (reader : Reader) : Bool := !reader.outerKeys.isEmpty

def mark (reader : Reader) : Mark := reader.cursor.mark

def column (reader : Reader) : Int := reader.cursor.mark.column

def enqueue (reader : Reader) (token : Token) : Reader :=
  { reader with waiting := reader.waiting ++ [token] }

def insert (reader : Reader) (number : Nat) (token : Token) : Reader :=
  let place := number - reader.given
  { reader with waiting := reader.waiting.take place ++ token :: reader.waiting.drop place }

def refuse {α : Type} (reader : Reader) (problem : Problem) : Except Fault α :=
  .error (.at problem reader.mark none)

def missedKey {α : Type} (reader : Reader) (key : CandidateKey) : Except Fault α :=
  .error (reader.cursor.fault .noColon .simpleKey key.mark)

def isStale (mark : Mark) (key : CandidateKey) : Bool :=
  key.possible && (key.mark.line < mark.line || key.mark.index + 1024 < mark.index)

def dropStale (reader : Reader) (key : CandidateKey) : Except Fault CandidateKey :=
  if isStale reader.mark key then
    if key.required then reader.missedKey key else .ok { key with possible := false }
  else .ok key

def dropStaleKeys (reader : Reader) : Except Fault Reader := do
  let outer ← reader.outerKeys.reverse.mapM reader.dropStale
  let key ← reader.dropStale reader.key
  pure { reader with key, outerKeys := outer.reverse }

def forgetKey (reader : Reader) : Except Fault Reader :=
  if reader.key.possible && reader.key.required then reader.missedKey reader.key
  else .ok { reader with key := { reader.key with possible := false } }

def saveKey (reader : Reader) : Except Fault Reader :=
  if reader.keyAllowed then do
    let cleared ← reader.forgetKey
    pure { cleared with key :=
      { possible := true
        required := !reader.inFlow && reader.indent == reader.column
        number := reader.given + reader.waiting.length
        mark := reader.mark } }
  else .ok reader

def indentTo (reader : Reader) (column : Int) (number : Option Nat) (token : Token) : Reader :=
  if reader.inFlow || column ≤ reader.indent then reader
  else
    let deeper := { reader with indent := column, outerIndents := reader.indent :: reader.outerIndents }
    match number with
    | some number => deeper.insert number token
    | none => deeper.enqueue token

def closedBy (column : Int) : Int → List Int → Nat × Int × List Int
  | indent, [] => (0, indent, [])
  | indent, outer :: others =>
    if indent ≤ column then (0, indent, outer :: others)
    else
      let (count, left, rest) := closedBy column outer others
      (count + 1, left, rest)

def unindentTo (reader : Reader) (column : Int) : Reader :=
  if reader.inFlow then reader
  else
    let (count, indent, outerIndents) := closedBy column reader.indent reader.outerIndents
    let ending : Token := ⟨.blockEnd, reader.mark, reader.mark⟩
    { reader with indent, outerIndents, waiting := reader.waiting ++ List.replicate count ending }

-- Blanks, comments and breaks up to the next token. A byte order mark may start any line. In a block a
-- tab is no blank where a key could start; a break lets a key start again.
def skipToToken : Nat → Reader → Reader
  | 0, reader => reader
  | room + 1, reader =>
    let start :=
      if reader.mark.column == 0 && reader.cursor.sees '\ufeff' then reader.cursor.skip 1
      else reader.cursor
    let blank := fun c => c == ' ' || ((reader.inFlow || !reader.keyAllowed) && c == '\t')
    let shown := start.skipWhile blank
    let rest := if shown.sees '#' then shown.skipWhile fun c => !isBreak c else shown
    if rest.seesBreak then
      skipToToken room { reader with
        cursor := rest.skipBreak
        keyAllowed := reader.keyAllowed || !reader.inFlow }
    else { reader with cursor := rest }

def takeIndicator (reader : Reader) (kind : TokenKind) (width : Nat) : Reader :=
  let after := reader.cursor.skip width
  { reader.enqueue ⟨kind, reader.mark, after.mark⟩ with cursor := after }

def takeStreamEnd (reader : Reader) : Except Fault Reader := do
  let cursor := reader.cursor
  let mark := if cursor.mark.column = 0 then cursor.mark
    else ⟨cursor.mark.index, cursor.mark.line + 1, 0⟩
  let cleared ← (unindentTo { reader with cursor := { cursor with mark } } (-1)).forgetKey
  pure { cleared.enqueue ⟨.streamEnd, mark, mark⟩ with keyAllowed := false, ended := true }

def takeDirective (reader : Reader) : Except Fault Reader := do
  let cleared ← (reader.unindentTo (-1)).forgetKey
  let (token, after) ← Directive.scan cleared.cursor
  pure { cleared.enqueue token with cursor := after, keyAllowed := false }

def takeDocumentMark (reader : Reader) (kind : TokenKind) : Except Fault Reader := do
  let cleared ← (reader.unindentTo (-1)).forgetKey
  pure { cleared.takeIndicator kind 3 with keyAllowed := false }

def takeFlowStart (reader : Reader) (kind : TokenKind) : Except Fault Reader := do
  let saved ← reader.saveKey
  let deeper := { saved with key := CandidateKey.none, outerKeys := saved.key :: saved.outerKeys }
  pure { deeper.takeIndicator kind 1 with keyAllowed := true }

def takeFlowEnd (reader : Reader) (kind : TokenKind) : Except Fault Reader := do
  let cleared ← reader.forgetKey
  let outer := match cleared.outerKeys with
    | [] => cleared
    | key :: outerKeys => { cleared with key, outerKeys }
  pure { outer.takeIndicator kind 1 with keyAllowed := false }

def takeFlowEntry (reader : Reader) : Except Fault Reader := do
  let cleared ← reader.forgetKey
  pure { cleared.takeIndicator .flowEntry 1 with keyAllowed := true }

-- Between brackets the indicator is let through; it is refused where the collection is read.
def takeBlockEntry (reader : Reader) : Except Fault Reader := do
  if !reader.inFlow && !reader.keyAllowed then reader.refuse .entryNotAllowed
  let indented := reader.indentTo reader.column none ⟨.blockSequenceStart, reader.mark, reader.mark⟩
  let cleared ← indented.forgetKey
  pure { cleared.takeIndicator .blockEntry 1 with keyAllowed := true }

def takeKey (reader : Reader) : Except Fault Reader := do
  if !reader.inFlow && !reader.keyAllowed then reader.refuse .keyNotAllowed
  let indented := reader.indentTo reader.column none ⟨.blockMappingStart, reader.mark, reader.mark⟩
  let cleared ← indented.forgetKey
  pure { cleared.takeIndicator .key 1 with keyAllowed := !reader.inFlow }

def takeValue (reader : Reader) : Except Fault Reader := do
  let key := reader.key
  if key.possible then
    let keyed := reader.insert key.number ⟨.key, key.mark, key.mark⟩
    let indented := keyed.indentTo key.mark.column (some key.number)
      ⟨.blockMappingStart, key.mark, key.mark⟩
    let done := { indented with key := { key with possible := false } }
    pure { done.takeIndicator .value 1 with keyAllowed := false }
  else
    if !reader.inFlow && !reader.keyAllowed then reader.refuse .valueNotAllowed
    let indented := reader.indentTo reader.column none ⟨.blockMappingStart, reader.mark, reader.mark⟩
    pure { indented.takeIndicator .value 1 with keyAllowed := !reader.inFlow }

def takeName (reader : Reader) (activity : Activity) (kind : String → TokenKind) :
    Except Fault Reader := do
  let saved ← reader.saveKey
  let began := saved.mark
  let (name, after) := (saved.cursor.skip 1).span isNameChar
  let ends := after.blankAhead 0 || (after.peek.map "?:,]\x7d%@\x60".toList.contains).getD true
  if name.isEmpty || !ends then throw (after.fault .noName activity began)
  pure { saved.enqueue ⟨kind (.ofList name), began, after.mark⟩ with
    cursor := after, keyAllowed := false }

def takeTag (reader : Reader) : Except Fault Reader := do
  let saved ← reader.saveKey
  let (token, after) ← TagText.scan saved.inFlow saved.cursor
  pure { saved.enqueue token with cursor := after, keyAllowed := false }

def takeBlockText (reader : Reader) (folded : Bool) : Except Fault Reader := do
  let cleared ← reader.forgetKey
  let (token, after) ← BlockText.scan folded cleared.indent cleared.cursor
  pure { cleared.enqueue token with cursor := after, keyAllowed := true }

def takeQuoted (reader : Reader) (double : Bool) : Except Fault Reader := do
  let saved ← reader.saveKey
  let (token, after) ← Quoted.scan double saved.cursor
  pure { saved.enqueue token with cursor := after, keyAllowed := false }

def takePlain (reader : Reader) : Except Fault Reader := do
  let saved ← reader.saveKey
  let (token, broken, after) ← Plain.scan saved.inFlow (saved.indent + 1).toNat saved.cursor
  pure { saved.enqueue token with cursor := after, keyAllowed := broken }

def isIndicator (c : Char) : Bool := "-?:,[]\x7b\x7d#&*!|>'\"%@\x60".toList.contains c

def startsPlain (reader : Reader) (c : Char) : Bool :=
  let cursor := reader.cursor
  !(isSpace c || isBreak c || isIndicator c) ||
    (c == '-' && !((cursor.look 1).map isSpace).getD false) ||
    (!reader.inFlow && (c == '?' || c == ':') && !cursor.blankAhead 1)

def takeToken (reader : Reader) : Except Fault Reader :=
  let cursor := reader.cursor
  let flow := reader.inFlow
  match cursor.peek with
  | none => reader.takeStreamEnd
  | some c =>
    if cursor.mark.column == 0 && c == '%' then reader.takeDirective
    else if cursor.seesDocumentMark '-' then reader.takeDocumentMark .documentStart
    else if cursor.seesDocumentMark '.' then reader.takeDocumentMark .documentEnd
    else if c == '[' then reader.takeFlowStart .flowSequenceStart
    else if c == '\x7b' then reader.takeFlowStart .flowMappingStart
    else if c == ']' then reader.takeFlowEnd .flowSequenceEnd
    else if c == '\x7d' then reader.takeFlowEnd .flowMappingEnd
    else if c == ',' then reader.takeFlowEntry
    else if c == '-' && cursor.blankAhead 1 then reader.takeBlockEntry
    else if c == '?' && (flow || cursor.blankAhead 1) then reader.takeKey
    else if c == ':' && (flow || cursor.blankAhead 1) then reader.takeValue
    else if c == '*' then reader.takeName .alias .alias
    else if c == '&' then reader.takeName .anchor .anchor
    else if c == '!' then reader.takeTag
    else if c == '|' && !flow then reader.takeBlockText false
    else if c == '>' && !flow then reader.takeBlockText true
    else if c == '\'' then reader.takeQuoted false
    else if c == '"' then reader.takeQuoted true
    else if reader.startsPlain c then reader.takePlain
    else .error (cursor.fault .noToken .nextToken cursor.mark)

def fetch (reader : Reader) : Except Fault Reader := do
  let shown := skipToToken (reader.cursor.rest.length + 1) reader
  let fresh ← shown.dropStaleKeys
  (fresh.unindentTo fresh.column).takeToken

def mayStillBeKey (reader : Reader) (number : Nat) : Bool :=
  (reader.key :: reader.outerKeys).any fun key => key.possible && key.number == number

def readyCount (reader : Reader) : Nat → List Token → Nat
  | _, [] => 0
  | number, _ :: rest =>
    if reader.mayStillBeKey number then 0 else readyCount reader (number + 1) rest + 1

def release (reader : Reader) : Except Fault (List Token × Reader) := do
  let fresh ← reader.dropStaleKeys
  let count := fresh.readyCount fresh.given fresh.waiting
  pure (fresh.waiting.take count,
    { fresh with waiting := fresh.waiting.drop count, given := fresh.given + count })

def readAll : Nat → Reader → List Token × Option Fault
  | 0, _ => ([], none)
  | room + 1, reader =>
    match reader.release with
    | .error fault => ([], some fault)
    | .ok (ready, left) =>
      if left.ended && left.waiting.isEmpty then (ready, none)
      else match left.fetch with
        | .error fault => (ready, some fault)
        | .ok next =>
          let (others, fault) := readAll room next
          (ready ++ others, fault)

end Reader

def isReadable (c : Char) : Bool :=
  let code := c.toNat
  code == 9 || code == 10 || code == 13 || (0x20 ≤ code && code ≤ 0x7E) || code == 0x85 ||
    (0xA0 ≤ code && code ≠ 0xFFFE && code ≠ 0xFFFF)

def unreadable? (offset : Nat) : List Char → Option Nat
  | [] => none
  | c :: rest => if isReadable c then unreadable? (offset + c.utf8Size) rest else some offset

-- The tokens that can be handed out, and the fault that keeps the rest of the text from being read.
-- Every round but the last takes at least one character.
def Token.ofText (text : List Char) : List Token × Option Fault :=
  match unreadable? 0 text with
  | some offset => ([], some (.unreadable offset))
  | none => Reader.readAll (text.length + 2) (.ofText text)

end CompletionRules.Yaml
