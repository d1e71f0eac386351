import CompletionRules.Shell.Search

-- How searches are written: the basic way has a backslash before the signs that the extended way has bare, and
-- an editor's way also names characters. A strict way takes no repetition of nothing.

namespace CompletionRules.Shell

structure Writing where
  extended : Bool
  named : Bool
  strict : Bool
  deriving Repr, DecidableEq

structure Written where
  rest : ByteText
  opened : Nat
  closed : List Nat
  deriving Repr, DecidableEq

abbrev Reading := StateT Written Option

namespace Reading

def refuse {α : Type} : Reading α := fun _ => none

def rest : Reading ByteText := do pure (← get).rest

def continueAt (text : ByteText) : Reading Unit := modify fun written => { written with rest := text }

def endpoint : ByteText → Option (Char × ByteText)
  | '[' :: '.' :: c :: '.' :: ']' :: after => some (c, after)
  | '[' :: '.' :: _ | '[' :: '=' :: _ | [] => none
  | c :: after => some (c, after)

def item (text : ByteText) : Option (CharRanges × ByteText) := do
  match text with
  | '[' :: ':' :: rest => do
    let (name, after) ← CharClass.named? (':' :: rest)
    pure (← CharClass.ranges? name, after)
  | '[' :: '=' :: c :: '=' :: ']' :: after => pure ([(c, c)], after)
  | _ => do
    let (low, after) ← endpoint text
    match after with
    | '-' :: ']' :: _ => pure ([(low, low)], after)
    | '-' :: rest => do
      let (high, left) ← endpoint rest
      if low ≤ high then pure ([(low, high)], left) else none
    | _ => pure ([(low, low)], after)

def itemsWithin : Nat → Bool → ByteText → Option (CharRanges × ByteText)
  | 0, _, _ => none
  | room + 1, first, text =>
    if text.head? = some ']' && !first then some ([], text.drop 1)
    else do
      let (held, after) ← item text
      let (others, left) ← itemsWithin room false after
      pure (held ++ others, left)

def isBareClass (text : ByteText) : Bool :=
  let inside := text.takeWhile (· ≠ ']')
  inside.head? = some ':' && inside.getLast? = some ':' && inside.any (· ≠ ':') &&
    inside.all fun c => c ≠ '-' && c ≠ '['

def bracket (text : ByteText) : Option (Mark × ByteText) :=
  let negated := text.head? = some '^'
  let inside := if negated then text.drop 1 else text
  if isBareClass inside then none
  else (itemsWithin (text.length + 1) true inside).map fun (held, after) => (.oneOf negated held, after)

def number (digits : ByteText) : Option Nat := (String.ofList digits).toNat?

inductive Count where
  | times (least : Nat) (most : Option Nat)
  | unreadable
  | absent
  deriving Repr, DecidableEq

def largestCount : Nat := 32767

def interval (writing : Writing) (text : ByteText) : Count × ByteText :=
  let closing : ByteText := if writing.extended then ['\x7d'] else ['\\', '\x7d']
  let inside := text.takeWhile fun c => c.isDigit || c == ','
  let after := text.drop inside.length
  let counts : Count := match Text.pieces (· == ',') inside with
    | [only] => match number only with
      | some count => .times count (some count)
      | none => .unreadable
    | [low, high] => .times ((number low).getD 0) (number high)
    | _ => .absent
  if !closing.isPrefixOf after then (.absent, text)
  else match counts with
    | .times least most =>
      if most.all (least ≤ ·) && max least (most.getD 0) ≤ largestCount then
        (counts, after.drop closing.length)
      else (.unreadable, text)
    | other => (other, text)

def count (writing : Writing) (text : ByteText) : Count × ByteText :=
  match writing.extended, text with
  | _, '*' :: after => (.times 0 none, after)
  | true, '+' :: after | false, '\\' :: '+' :: after => (.times 1 none, after)
  | true, '?' :: after | false, '\\' :: '?' :: after => (.times 0 (some 1), after)
  | true, '\x7b' :: after =>
    match interval writing after with
    | (.absent, _) => (if writing.strict then .unreadable else .absent, text)
    | held => held
  | false, '\\' :: '\x7b' :: after =>
    match interval writing after with
    | (.absent, _) => (.unreadable, text)
    | held => held
  | _, _ => (.absent, text)

def isDoubled (writing : Writing) (text : ByteText) : Bool :=
  writing.strict && !writing.extended &&
    (text.head? = some '*' || ['\\', '\x7b'].isPrefixOf text)

def wordMark (negated : Bool) : Search := .one (.oneOf negated CharClass.wordRanges)

def blankMark (negated : Bool) : Search :=
  .one (.oneOf negated ((CharClass.ranges? "space").getD []))

def namedChar? : Char → Option Char
  | 'n' => some '\n'
  | 't' => some '\t'
  | 'f' => some '\x0c'
  | 'r' => some '\r'
  | 'v' => some '\x0b'
  | 'a' => some '\x07'
  | _ => none

def escaped (writing : Writing) (c : Char) : Reading Search := do
  match c with
  | '<' => pure .wordStart
  | '>' => pure .wordEnd
  | 'b' => pure (.wordEdge true)
  | 'B' => pure (.wordEdge false)
  | 'w' => pure (wordMark false)
  | 'W' => pure (wordMark true)
  | 's' => pure (blankMark false)
  | 'S' => pure (blankMark true)
  | '\x60' => pure .textStart
  | '\'' => pure .textEnd
  | _ =>
    if '1' ≤ c && c ≤ '9' then
      let number := c.toNat - 48
      if (← get).closed.contains number then pure (.again number) else refuse
    else match if writing.named then namedChar? c else none with
      | some meant => pure (.one (.exactly meant))
      | none => pure (.one (.exactly c))

def closes (writing : Writing) (text : ByteText) : Bool :=
  match writing.extended, text with
  | true, ')' :: _ | false, '\\' :: ')' :: _ => true
  | _, _ => false

def divides (writing : Writing) (text : ByteText) : Bool :=
  match writing.extended, text with
  | true, '|' :: _ | false, '\\' :: '|' :: _ => true
  | _, _ => false

def signLength (writing : Writing) : Nat := if writing.extended then 1 else 2

mutual

def branches : Nat → Writing → Nat → Reading Search
  | 0, _, _ => refuse
  | depth + 1, writing, level => do
    let first ← branch depth writing level true
    let text ← rest
    if divides writing text then do
      continueAt (text.drop (signLength writing))
      let others ← branches depth writing level
      pure (.either first others)
    else pure first

-- `atStart` holds where there is nothing before that could be repeated. What marks a place is repeated
-- in the lenient extended way only.
def branch : Nat → Writing → Nat → Bool → Reading Search
  | 0, _, _, _ => refuse
  | depth + 1, writing, level, atStart => do
    let text ← rest
    if text.isEmpty || divides writing text then pure .nothing
    else if closes writing text && level > 0 then pure .nothing
    else if closes writing text && (writing.named || !writing.extended) then refuse
    else do
      let first ← single depth writing level atStart
      let atStart := match first with
        | .nothing => true
        | .lineStart | .lineEnd | .textStart | .textEnd | .wordStart | .wordEnd | .wordEdge _ =>
          !writing.extended || writing.strict
        | _ => false
      let whole ← if atStart then pure first else repeats depth writing first
      let others ← branch depth writing level atStart
      pure (.both whole others)

def repeats : Nat → Writing → Search → Reading Search
  | 0, _, _ => refuse
  | depth + 1, writing, body => do
    match count writing (← rest) with
    | (.absent, _) => pure body
    | (.unreadable, _) => refuse
    | (.times least most, after) =>
      if isDoubled writing after then refuse
      else do
        continueAt after
        repeats depth writing (.repeated least most body)

def single : Nat → Writing → Nat → Bool → Reading Search
  | 0, _, _, _ => refuse
  | depth + 1, writing, level, atStart => do
    match ← rest with
    | [] => refuse
    | ['\\'] => refuse
    | '[' :: text =>
      match bracket text with
      | none => refuse
      | some (mark, after) => do
        continueAt after
        pure (.one mark)
    | '.' :: text => do
      continueAt text
      pure (.one .anyChar)
    | '^' :: text => do
      continueAt text
      pure (if writing.extended || atStart then .lineStart else .one (.exactly '^'))
    | '$' :: text => do
      continueAt text
      pure (if writing.extended || text.isEmpty || closes writing text || divides writing text then
        .lineEnd else .one (.exactly '$'))
    | '\\' :: c :: text => do
      if c == '(' && !writing.extended then do
        continueAt text
        grouped depth writing level
      else if c == '\x7b' && !writing.extended && writing.strict then refuse
      else do
        continueAt text
        escaped writing c
    | c :: text => do
      if c == '(' && writing.extended then do
        continueAt text
        grouped depth writing level
      else if writing.extended && atStart && ['*', '+', '?', '\x7b'].contains c then
        match writing.strict, count writing (c :: text) with
        | true, _ | _, (.unreadable, _) => refuse
        | _, (.times _ _, after) => do
          continueAt after
          pure .nothing
        | _, (.absent, _) => do
          continueAt text
          pure (.one (.exactly c))
      else do
        continueAt text
        pure (.one (.exactly c))

def grouped : Nat → Writing → Nat → Reading Search
  | 0, _, _ => refuse
  | depth + 1, writing, level => do
    let number := (← get).opened + 1
    modify fun written => { written with opened := number }
    let body ← branches depth writing (level + 1)
    let text ← rest
    if closes writing text then do
      continueAt (text.drop (signLength writing))
      modify fun written => { written with closed := number :: written.closed }
      pure (.group number body)
    else refuse

end

end Reading

namespace Search

def read? (writing : Writing) (text : ByteText) : Option (Search × Nat) := do
  let (search, written) ← (Reading.branches (4 * text.length + 8) writing 0).run ⟨text, 0, []⟩
  if written.rest.isEmpty then pure (search, written.opened) else none

def ofText (text : ByteText) : Search :=
  text.foldr (fun c others => .both (.one (.exactly c)) others) .nothing

end Search

end CompletionRules.Shell
