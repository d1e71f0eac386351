import CompletionRules.Yaml.Event
import CompletionRules.Yaml.TokenStream

-- The event stream of a token list. What may come next is a state; the states to return to after a
-- node, and the marks where open collections began, are stacks beside it.

namespace CompletionRules.Yaml

inductive Expecting where
  | implicitDocument
  | explicitDocument
  | documentContent
  | documentEnd
  | blockNode
  | blockSequenceFirst
  | blockSequenceNext
  | indentlessSequenceNext
  | blockMappingFirst
  | blockMappingKey
  | blockMappingValue
  | flowSequenceFirst
  | flowSequenceNext
  | flowPairKey
  | flowPairValue
  | flowPairEnd
  | flowMappingFirst
  | flowMappingKey
  | flowMappingValue
  | flowMappingEmptyValue
  | nothing
  deriving Repr, DecidableEq

structure Outline where
  tokens : List Token
  fault : Option Fault
  expecting : Expecting
  returns : List Expecting
  openMarks : List Mark
  handles : List (String × List UInt8)
  deriving Repr, DecidableEq

namespace Outline

def ofText (text : List Char) : Outline :=
  let (tokens, fault) := Token.ofText text
  ⟨tokens.drop 1, fault, .implicitDocument, [], [], []⟩

def refuse {α : Type} (problem : Problem) (mark : Mark) : Except Fault α :=
  .error (.at problem mark .none)

def refuseIn {α : Type} (outline : Outline) (activity : Activity) (problem : Problem) (mark : Mark) :
    Except Fault α :=
  .error (.at problem mark (some (activity, outline.openMarks.head?.getD .start)))

def next (outline : Outline) : Except Fault Token :=
  match outline.tokens, outline.fault with
  | token :: _, _ => .ok token
  | [], some fault => .error fault
  | [], .none => .ok ⟨.streamEnd, .start, .start⟩

def skip (outline : Outline) : Outline := { outline with tokens := outline.tokens.drop 1 }

def expect (outline : Outline) (expecting : Expecting) : Outline := { outline with expecting }

def returnTo (outline : Outline) (state : Expecting) : Outline :=
  { outline with returns := state :: outline.returns }

def goBack (outline : Outline) : Outline :=
  match outline.returns with
  | [] => { outline with expecting := .nothing }
  | state :: returns => { outline with expecting := state, returns }

def openAt (outline : Outline) (mark : Mark) : Outline :=
  { outline with openMarks := mark :: outline.openMarks }

def close (outline : Outline) : Outline :=
  { outline with openMarks := outline.openMarks.drop 1 }

abbrev Step := Except Fault (Event × Outline)

def emptyScalar (mark : Mark) (outline : Outline) : Step :=
  .ok (⟨.scalar .none "" true, mark⟩, outline)

def defaultHandles : List (String × List UInt8) :=
  [("!", [0x21]), ("!!", "tag:yaml.org,2002:".toUTF8.toList)]

structure Directives where
  version : Bool
  handles : List (String × List UInt8)
  outline : Outline
  deriving Repr, DecidableEq

def takeDirectives : Nat → Directives → Except Fault Directives
  | 0, directives => .ok directives
  | room + 1, directives => do
    let token ← directives.outline.next
    match token.kind with
    | .version major minor =>
      if directives.version then refuse .duplicateVersion token.start
      else if major ≠ 1 || (minor ≠ 1 && minor ≠ 2) then refuse .incompatible token.start
      else takeDirectives room { directives with version := true, outline := directives.outline.skip }
    | .tagHandle handle meaning =>
      if directives.handles.any (·.1 == handle) then refuse .duplicateTag token.start
      else takeDirectives room { directives with
        handles := directives.handles ++ [(handle, meaning)], outline := directives.outline.skip }
    | _ => pure directives

def skipDocumentEnds : Nat → Outline → Except Fault Outline
  | 0, outline => .ok outline
  | room + 1, outline => do
    let token ← outline.next
    if token.kind = .documentEnd then skipDocumentEnds room outline.skip else pure outline

def isDirective : TokenKind → Bool
  | .version .. | .tagHandle .. => true
  | _ => false

def startDocument (outline : Outline) (implicit : Bool) : Step := do
  let outline ← if implicit then pure outline
    else skipDocumentEnds (outline.tokens.length + 1) outline
  let token ← outline.next
  if token.kind = .streamEnd then
    pure (⟨.streamEnd, token.start⟩, outline.skip.expect .nothing)
  else if implicit && token.kind ≠ .documentStart && !isDirective token.kind then
    pure (⟨.documentStart, token.start⟩,
      { outline.returnTo .documentEnd with expecting := .blockNode, handles := defaultHandles })
  else
    let directives ← takeDirectives (outline.tokens.length + 1) ⟨false, [], outline⟩
    let start ← directives.outline.next
    if start.kind ≠ .documentStart then refuse .noDocumentStart start.start
    pure (⟨.documentStart, token.start⟩,
      { directives.outline.skip.returnTo .documentEnd with
        expecting := .documentContent, handles := directives.handles ++ defaultHandles })

def endDocument (outline : Outline) : Step := do
  let token ← outline.next
  let after := if token.kind = .documentEnd then outline.skip else outline
  pure (⟨.documentEnd, token.start⟩, { after with expecting := .explicitDocument, handles := [] })

structure Front where
  anchor : Option String
  tag : Option (String × List UInt8 × Mark)
  outline : Outline
  deriving Repr, DecidableEq

def takeAnchor (front : Front) : Except Fault Front := do
  let token ← front.outline.next
  match token.kind with
  | .anchor name => pure { front with anchor := some name, outline := front.outline.skip }
  | _ => pure front

def takeTag (front : Front) : Except Fault Front := do
  let token ← front.outline.next
  match token.kind with
  | .tag handle suffix =>
    pure { front with tag := some (handle, suffix, token.start), outline := front.outline.skip }
  | _ => pure front

def takeFront (outline : Outline) : Except Fault Front := do
  let anchored ← takeAnchor ⟨.none, .none, outline⟩
  if anchored.anchor.isSome then takeTag anchored
  else
    let tagged ← takeTag anchored
    if tagged.tag.isSome then takeAnchor tagged else pure tagged

def fullTag (front : Front) (start : Mark) : Except Fault (Option (List UInt8)) :=
  match front.tag with
  | .none => .ok .none
  | some (handle, suffix, mark) =>
    if handle.isEmpty then .ok (some suffix)
    else match front.outline.handles.find? (·.1 == handle) with
      | some (_, meaning) => .ok (some (meaning ++ suffix))
      | .none => .error (.at .undefinedHandle mark (some (.node, start)))

def startNode (outline : Outline) (block indentless : Bool) : Step := do
  let first ← outline.next
  let start := first.start
  match first.kind with
  | .alias name => pure (⟨.alias name, start⟩, outline.skip.goBack)
  | _ =>
    let front ← takeFront outline
    let after := front.outline
    -- The next token has to be there before the tag is looked into.
    let token ← after.next
    let tag ← fullTag front start
    let properties : Properties := ⟨front.anchor, tag⟩
    match token.kind, block with
    | .scalar text plain, _ =>
      pure (⟨.scalar properties text plain, start⟩, after.skip.goBack)
    | .flowSequenceStart, _ => pure (⟨.sequenceStart properties, start⟩, after.expect .flowSequenceFirst)
    | .flowMappingStart, _ => pure (⟨.mappingStart properties, start⟩, after.expect .flowMappingFirst)
    | .blockSequenceStart, true =>
      pure (⟨.sequenceStart properties, start⟩, after.expect .blockSequenceFirst)
    | .blockMappingStart, true =>
      pure (⟨.mappingStart properties, start⟩, after.expect .blockMappingFirst)
    | kind, _ =>
      if indentless && kind = .blockEntry then
        pure (⟨.sequenceStart properties, start⟩, after.expect .indentlessSequenceNext)
      else if front.anchor.isSome || tag.isSome then
        pure (⟨.scalar properties "" true, start⟩, after.goBack)
      else .error (.at .noNodeContent token.start
        (some (if block then .blockNode else .flowNode, start)))

def documentContent (outline : Outline) : Step := do
  let token ← outline.next
  match token.kind with
  | .version .. | .tagHandle .. | .documentStart | .documentEnd | .streamEnd =>
    emptyScalar token.start outline.goBack
  | _ => startNode outline true false

def enter (outline : Outline) : Except Fault Outline := do
  let token ← outline.next
  pure (outline.skip.openAt token.start)

def nodeUnless (ends : TokenKind → Bool) (after : Expecting) (block indentless : Bool)
    (left : Mark) (outline : Outline) : Step := do
  let token ← outline.next
  if ends token.kind then emptyScalar left (outline.expect after)
  else startNode (outline.returnTo after) block indentless

def blockSequenceNext (outline : Outline) : Step := do
  let token ← outline.next
  match token.kind with
  | .blockEntry =>
    nodeUnless (fun kind => kind = .blockEntry || kind = .blockEnd) .blockSequenceNext true false
      token.stop outline.skip
  | .blockEnd => pure (⟨.sequenceEnd, token.start⟩, outline.skip.close.goBack)
  | _ => outline.refuseIn .blockCollection .noDash token.start

def indentlessSequenceNext (outline : Outline) : Step := do
  let token ← outline.next
  match token.kind with
  | .blockEntry =>
    nodeUnless (fun kind => kind = .blockEntry || kind = .key || kind = .value || kind = .blockEnd)
      .indentlessSequenceNext true false token.stop outline.skip
  | _ => pure (⟨.sequenceEnd, token.start⟩, outline.goBack)

def endsBlockPart (kind : TokenKind) : Bool := kind = .key || kind = .value || kind = .blockEnd

def blockMappingKey (outline : Outline) : Step := do
  let token ← outline.next
  match token.kind with
  | .key => nodeUnless endsBlockPart .blockMappingValue true true token.stop outline.skip
  | .blockEnd => pure (⟨.mappingEnd, token.start⟩, outline.skip.close.goBack)
  | _ => outline.refuseIn .blockMapping .noKey token.start

def blockMappingValue (outline : Outline) : Step := do
  let token ← outline.next
  match token.kind with
  | .value => nodeUnless endsBlockPart .blockMappingKey true true token.stop outline.skip
  | _ => emptyScalar token.start (outline.expect .blockMappingKey)

def takeComma (outline : Outline) (first : Bool) (stop : TokenKind) (activity : Activity)
    (problem : Problem) : Except Fault Outline := do
  let token ← outline.next
  if first || token.kind = stop then pure outline
  else if token.kind = .flowEntry then pure outline.skip
  else outline.refuseIn activity problem token.start

def flowSequenceNext (outline : Outline) (first : Bool) : Step := do
  let outline ← outline.takeComma first .flowSequenceEnd .flowSequence .noCommaOrBracket
  let token ← outline.next
  match token.kind with
  | .flowSequenceEnd => pure (⟨.sequenceEnd, token.start⟩, outline.skip.close.goBack)
  | .key => pure (⟨.mappingStart .none, token.start⟩, outline.skip.expect .flowPairKey)
  | _ => startNode (outline.returnTo .flowSequenceNext) false false

def flowPairKey (outline : Outline) : Step := do
  let token ← outline.next
  match token.kind with
  | .value | .flowEntry | .flowSequenceEnd =>
    emptyScalar token.stop (outline.skip.expect .flowPairValue)
  | _ => startNode (outline.returnTo .flowPairValue) false false

def flowPairValue (outline : Outline) : Step := do
  let token ← outline.next
  if token.kind = .value then
    let after ← outline.skip.next
    nodeUnless (fun kind => kind = .flowEntry || kind = .flowSequenceEnd) .flowPairEnd false false
      after.start outline.skip
  else emptyScalar token.start (outline.expect .flowPairEnd)

def flowPairEnd (outline : Outline) : Step := do
  let token ← outline.next
  pure (⟨.mappingEnd, token.start⟩, outline.expect .flowSequenceNext)

def flowMappingKey (outline : Outline) (first : Bool) : Step := do
  let outline ← outline.takeComma first .flowMappingEnd .flowMapping .noCommaOrBrace
  let token ← outline.next
  match token.kind with
  | .flowMappingEnd => pure (⟨.mappingEnd, token.start⟩, outline.skip.close.goBack)
  | .key =>
    let after ← outline.skip.next
    nodeUnless (fun kind => kind = .value || kind = .flowEntry || kind = .flowMappingEnd)
      .flowMappingValue false false after.start outline.skip
  | _ => startNode (outline.returnTo .flowMappingEmptyValue) false false

def flowMappingValue (outline : Outline) : Step := do
  let token ← outline.next
  if token.kind = .value then
    let after ← outline.skip.next
    nodeUnless (fun kind => kind = .flowEntry || kind = .flowMappingEnd) .flowMappingKey false false
      after.start outline.skip
  else emptyScalar token.start (outline.expect .flowMappingKey)

def step (outline : Outline) : Step :=
  match outline.expecting with
  | .implicitDocument => outline.startDocument true
  | .explicitDocument => outline.startDocument false
  | .documentContent => outline.documentContent
  | .documentEnd => outline.endDocument
  | .blockNode => outline.startNode true false
  | .blockSequenceFirst => outline.enter >>= blockSequenceNext
  | .blockSequenceNext => outline.blockSequenceNext
  | .indentlessSequenceNext => outline.indentlessSequenceNext
  | .blockMappingFirst => outline.enter >>= blockMappingKey
  | .blockMappingKey => outline.blockMappingKey
  | .blockMappingValue => outline.blockMappingValue
  | .flowSequenceFirst => do flowSequenceNext (← outline.enter) true
  | .flowSequenceNext => outline.flowSequenceNext false
  | .flowPairKey => outline.flowPairKey
  | .flowPairValue => outline.flowPairValue
  | .flowPairEnd => outline.flowPairEnd
  | .flowMappingFirst => do flowMappingKey (← outline.enter) true
  | .flowMappingKey => outline.flowMappingKey false
  | .flowMappingValue => outline.flowMappingValue
  | .flowMappingEmptyValue => do
    let token ← outline.next
    emptyScalar token.start (outline.expect .flowMappingKey)
  | .nothing => .ok (⟨.streamEnd, .start⟩, outline)

def events : Nat → Outline → List Event × Option Fault
  | 0, _ => ([], .none)
  | room + 1, outline =>
    match outline.step with
    | .error fault => ([], some fault)
    | .ok (event, left) =>
      if event.kind = .streamEnd then ([event], .none)
      else
        let (others, fault) := events room left
        (event :: others, fault)

end Outline

-- The events up to the end of the stream or to the fault that ended it. Between two tokens there are
-- never more than four events without a token of their own.
def Event.ofText (text : List Char) : List Event × Option Fault :=
  let outline := Outline.ofText text
  outline.events (5 * outline.tokens.length + 5)

end CompletionRules.Yaml
