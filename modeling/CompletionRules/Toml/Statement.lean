import CompletionRules.Toml.Token

-- The statements of a settings text: headers that open a table, and keys with their values. What keys and
-- scalars mean is looked at once the whole text is known to be made of statements.

namespace CompletionRules.Toml

-- A key or a scalar as written. One that is missing is an empty bare text.
structure Written where
  quoting : Quoting
  text : List Char
  span : Span
  deriving Repr, DecidableEq

inductive WrittenValue where
  | scalar (written : Written)
  | array (items : List WrittenValue) (span : Span)
  | table (entries : List (List Written × WrittenValue)) (span : Span)

inductive Statement where
  | header (isArray : Bool) (keys : List Written) (span : Span)
  | assign (keys : List Written) (value : WrittenValue)

namespace Statement

def missing (token : Token) : Written := ⟨.bare, [], token.span.before⟩

def written (token : Token) (quoting : Quoting) : Written := ⟨quoting, token.text, token.span⟩

def refuse {α : Type} (span : Span) (cause : Cause) : Except Fault α := .error ⟨span, cause⟩

def isCommentChar (c : Char) : Bool := c == '\t' || (0x20 ≤ c.toNat && c.toNat ≠ 0x7f)

def badComment? : Nat → List Char → Option Nat
  | _, [] => none
  | place, c :: rest => if isCommentChar c then badComment? (place + c.utf8Size) rest else some place

def checkTrivia (token : Token) : Except Fault Unit :=
  match token.kind with
  | .comment =>
    match badComment? token.span.start token.text with
    | some place => refuse ⟨place, place⟩ .badComment
    | none => .ok ()
  | .lineEnd =>
    if token.text = ['\r'] then
      refuse token.span.after .loneReturn
    else .ok ()
  | _ => .ok ()

def dropBlanks : List Token → List Token
  | ⟨.blank, _, _⟩ :: rest => dropBlanks rest
  | tokens => tokens

-- The keys that follow a key, or a dot: each dot asks for one more. With them whether the last dot
-- got its key.
def moreKeys : Bool → List Token → List Written × Bool × List Token
  | _, [] => ([], true, [])
  | afterDot, token :: rest =>
    match afterDot, token.kind with
    | _, .blank => moreKeys afterDot rest
    | false, .dot => moreKeys true rest
    | false, _ => ([], true, token :: rest)
    | true, .dot =>
      let (others, complete, after) := moreKeys true rest
      (missing token :: others, complete, after)
    | true, .content quoting =>
      let (others, complete, after) := moreKeys false rest
      (written token quoting :: others, complete, after)
    | true, _ => ([missing token], false, token :: rest)

def keys (tokens : List Token) : List Written × Bool × List Token := moreKeys true tokens

def lineRest : List Token → Except Fault (List Token)
  | [] => .ok []
  | token :: rest =>
    match token.kind with
    | .blank => lineRest rest
    | .comment | .lineEnd => do
      checkTrivia token
      pure rest
    | .textEnd => .ok (token :: rest)
    | _ => refuse token.span.before .afterStatement

def skipLine : List Token → Except Fault (List Token)
  | [] => .ok []
  | token :: rest =>
    match token.kind with
    | .comment | .lineEnd => do
      checkTrivia token
      pure rest
    | .textEnd => .ok (token :: rest)
    | _ => skipLine rest

-- A bare scalar goes on over dots, and over blanks to the next bare text: a date may have its time
-- there, and what else stands there is shown with it.
def bareRest (held : Written) : List Token → Written × List Token
  | ⟨.dot, text, span⟩ :: rest | ⟨.content .bare, text, span⟩ :: rest =>
    bareRest ⟨.bare, held.text ++ text, held.span.through span⟩ rest
  | ⟨.blank, blanks, _⟩ :: ⟨.content .bare, text, span⟩ :: rest =>
    bareRest ⟨.bare, held.text ++ blanks ++ text, held.span.through span⟩ rest
  | tokens => (held, tokens)

def scalar (token : Token) (quoting : Quoting) (rest : List Token) : Written × List Token :=
  match quoting with
  | .bare => bareRest (written token .bare) rest
  | _ => (written token quoting, rest)

def deepest : Nat := 80

inductive Awaits where
  | key
  | assignment (keys : List Written)
  | value (keys : List Written)
  | comma

def Awaits.awaited : Awaits → Awaited
  | .key => .key
  | .assignment _ => .equals
  | .value _ => .value
  | .comma => .comma

def noValue (token : Token) : WrittenValue := .scalar ⟨.literal, [], token.span.before⟩

mutual

def value : Nat → Nat → List Token → Except Fault (WrittenValue × Bool × List Token)
  | 0, _, _ => refuse ⟨0, 0⟩ .tooDeep
  | _, _, [] => refuse ⟨0, 0⟩ .arrayNotClosed
  | room + 1, level, token :: rest =>
    match token.kind with
    | .blank => value room level rest
    | .comment | .comma | .lineEnd | .textEnd => .ok (.scalar (missing token), false, token :: rest)
    | .equals => refuse token.span .secondEquals
    | .closeCurly => refuse token.span.before .inlineTableNotOpened
    | .closeSquare => refuse token.span.before .arrayNotOpened
    | .openSquare =>
      if level ≥ deepest then refuse token.span .tooDeep
      else do
        let (held, after) ← array room (level + 1) token.span token.span false [] rest
        pure (held, true, after)
    | .openCurly =>
      if level ≥ deepest then refuse token.span .tooDeep
      else do
        let (held, after) ← inlineTable room (level + 1) token.span token.span .key [] rest
        pure (held, true, after)
    | .dot =>
      let (held, after) := scalar token .bare rest
      .ok (.scalar held, true, after)
    | .content quoting =>
      let (held, after) := scalar token quoting rest
      .ok (.scalar held, true, after)

-- `last` is the stretch of the last token that was no blank, comment or line end.
def array : Nat → Nat → Span → Span → Bool → List WrittenValue → List Token →
    Except Fault (WrittenValue × List Token)
  | 0, _, _, _, _, _, _ => refuse ⟨0, 0⟩ .tooDeep
  | _, _, _, last, _, _, [] => refuse last.after .arrayNotClosed
  | room + 1, level, start, last, needsComma, items, token :: rest =>
    match token.kind with
    | .blank => array room level start last needsComma items rest
    | .comment | .lineEnd => do
      checkTrivia token
      array room level start last needsComma items rest
    | .textEnd => refuse last.after .arrayNotClosed
    | .comma =>
      if needsComma then array room level start token.span false items rest
      else refuse token.span .emptyItem
    | .equals => refuse token.span .equalsInArray
    | .closeSquare => .ok (.array items (start.through token.span), rest)
    | _ =>
      if needsComma then refuse token.span.before .itemsNotSeparated
      else do
        let (item, _, after) ← value room level (token :: rest)
        array room level start token.span true (items ++ [item]) after

def inlineTable : Nat → Nat → Span → Span → Awaits → List (List Written × WrittenValue) →
    List Token → Except Fault (WrittenValue × List Token)
  | 0, _, _, _, _, _, _ => refuse ⟨0, 0⟩ .tooDeep
  | _, _, _, last, _, _, [] => refuse last.after .inlineTableNotClosed
  | room + 1, level, start, last, awaits, entries, token :: rest =>
    match token.kind with
    | .blank => inlineTable room level start last awaits entries rest
    | .comment | .lineEnd => do
      checkTrivia token
      inlineTable room level start last awaits entries rest
    | .textEnd => refuse last.after .inlineTableNotClosed
    | .comma =>
      match awaits with
      | .comma => inlineTable room level start token.span .key entries rest
      | other => refuse token.span.before (.emptyEntry other.awaited)
    | .equals =>
      match awaits with
      | .assignment keys => inlineTable room level start token.span (.value keys) entries rest
      | .key => inlineTable room level start token.span (.value [missing token]) entries rest
      | other => refuse token.span.before (.entryWithTwoEquals other.awaited)
    | .closeCurly =>
      let closed := match awaits with
        | .key | .comma => entries
        | .assignment keys | .value keys => entries ++ [(keys, noValue token)]
      .ok (.table closed (start.through token.span), rest)
    | .closeSquare =>
      match awaits with
      | .value _ => refuse token.span.before .arrayNotOpened
      | other => refuse token.span.before (.badEntry other.awaited)
    | _ =>
      match awaits with
      | .key =>
        if token.kind = .openCurly || token.kind = .openSquare then
          refuse token.span.before (.entryWithoutKey .key)
        else
          let (held, _, after) := keys (token :: rest)
          inlineTable room level start token.span (.assignment held) entries after
      | .assignment _ => refuse token.span.before .entryWithoutEquals
      | .value keys => do
        let (held, _, after) ← value room level (token :: rest)
        inlineTable room level start token.span .comma (entries ++ [(keys, held)]) after
      | .comma =>
        if token.kind = .openCurly || token.kind = .openSquare then
          refuse token.span.before (.entryWithoutKey .comma)
        else refuse token.span.before .entriesNotSeparated

end

abbrev Reading := Statement × Bool × List Token

def lastKey (opening : Span) (keys : List Written) : Span := ((keys.getLast?).map Written.span).getD opening

-- A header that does not close after a whole key is refused here; the key of another is at fault.
def closeTable (opening : Span) (keys : List Written) (complete : Bool) (tokens : List Token) :
    Except Fault Reading :=
  match tokens with
  | ⟨.closeSquare, _, span⟩ :: rest => .ok (.header false keys (opening.through span), true, rest)
  | _ =>
    if complete then refuse (lastKey opening keys).after .tableNotClosed
    else .ok (.header false keys opening, false, tokens)

def closeArrayTable (opening : Span) (keys : List Written) (complete : Bool) (tokens : List Token) :
    Except Fault Reading :=
  match tokens with
  | ⟨.closeSquare, _, _⟩ :: ⟨.closeSquare, _, span⟩ :: rest =>
    .ok (.header true keys (opening.through span), true, rest)
  | ⟨.closeSquare, _, span⟩ :: _ => refuse span.after .arrayTableHalfClosed
  | _ =>
    if complete then refuse (lastKey opening keys).after .arrayTableNotClosed
    else .ok (.header true keys opening, false, tokens)

def headerAfter (opening : Span) (tokens : List Token) : Except Fault Reading :=
  match tokens with
  | ⟨.openSquare, _, second⟩ :: rest =>
    let (held, complete, after) := keys (dropBlanks rest)
    closeArrayTable (opening.through second) held complete (dropBlanks after)
  | _ =>
    let (held, complete, after) := keys (dropBlanks tokens)
    closeTable opening held complete (dropBlanks after)

def assignment (held : List Written) (absent : Cause) (tokens : List Token) : Except Fault Reading :=
  match dropBlanks tokens with
  | [] => refuse ⟨0, 0⟩ absent
  | token :: rest =>
    match token.kind with
    | .equals => do
      let (read, complete, after) ← value (rest.length + 1) 0 rest
      pure (.assign held read, complete, after)
    | _ => refuse token.span.before absent

def keyed (absent : Cause) (tokens : List Token) : Except Fault Reading :=
  let (held, complete, after) := keys tokens
  if complete then assignment held absent after
  else .ok (.assign held (.array [] ⟨0, 0⟩), false, after)

def one (token : Token) (rest : List Token) : Except Fault Reading :=
  match token.kind with
  | .openSquare => headerAfter token.span rest
  | .closeSquare => refuse token.span.before .tableNotOpened
  | .content _ => keyed .noAssignment (token :: rest)
  | .dot => keyed .noAssignmentAfterDot (token :: rest)
  | .equals => assignment [missing token] .noAssignment (token :: rest)
  | _ => refuse token.span.before .noStatement

def all : Nat → List Token → Except Fault (List Statement)
  | 0, _ => .ok []
  | _, [] => .ok []
  | room + 1, token :: rest =>
    match token.kind with
    | .blank => all room rest
    | .comment | .lineEnd => do
      checkTrivia token
      all room rest
    | .textEnd => .ok []
    | _ => do
      let (first, complete, after) ← one token rest
      let left ← if complete then lineRest after else skipLine after
      let others ← all room left
      pure (first :: others)

def ofText (text : List Char) : Except Fault (List Statement) :=
  let tokens := Token.ofText text
  all tokens.length tokens

end Statement

end CompletionRules.Toml
