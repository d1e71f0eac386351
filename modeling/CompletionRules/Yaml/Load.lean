import CompletionRules.Text.Shown
import CompletionRules.Yaml.Node
import CompletionRules.Yaml.Scalar

-- From the text of one document to its value. Faults are met in the order of the document: what is
-- wrong with a value wins over a text that breaks off behind it.

namespace CompletionRules.Yaml

inductive ValuePath where
  | root
  | item (parent : ValuePath) (index : Nat)
  | field (parent : ValuePath) (key : String)
  | alias (parent : ValuePath)
  | unnamed (parent : ValuePath)
  deriving Repr, DecidableEq

namespace ValuePath

def asParent (path : ValuePath) (text : String) : String :=
  match path with
  | .root => ""
  | _ => text ++ "."

def text : ValuePath → String
  | .root => "."
  | .item parent index => parent.text ++ "[" ++ toString index ++ "]"
  | .field parent key => parent.asParent parent.text ++ key
  | .alias parent => parent.text
  | .unnamed parent => parent.asParent parent.text ++ "?"

end ValuePath

namespace LoadFault

def mark? : LoadFault → Option Mark
  | .malformed fault => some fault.mark
  | .unknownAnchor mark | .tooDeep mark | .refused _ _ mark => some mark
  | .tooManyAliases | .severalDocuments => none

def message : LoadFault → String
  | .malformed fault => fault.message
  | .unknownAnchor mark => "unknown anchor" ++ mark.text
  | .tooDeep mark => "recursion limit exceeded" ++ mark.text
  | .tooManyAliases => "repetition limit exceeded"
  | .severalDocuments =>
    "deserializing from YAML containing more than one document is not supported"
  | .refused message path mark =>
    (if path = "." then "" else path ++ ": ") ++ message ++ mark.text

end LoadFault

abbrev Loading := StateT Nat (Except LoadFault)

namespace Loading

def refuse {α : Type} (message : String) (path : ValuePath) (mark : Mark) : Loading α :=
  throw (.refused message path.text mark)

def refusalText : Scalar.Refusal → String
  | .tooWide value =>
    "invalid type: integer \x60" ++ toString value ++ "\x60 as " ++
      (if value < 0 then "i128" else "u128") ++ ", expected any YAML value"
  | .notA text wanted => "invalid value: string " ++ Text.shown text ++ ", expected " ++ wanted

def duplicateText : Value → String
  | .null => "duplicate entry with null key"
  | .boolean value => "duplicate entry with key \x60" ++ toString value ++ "\x60"
  | .number value => "duplicate entry with key " ++ value.text
  | .string value => "duplicate entry with key " ++ Text.shown value
  | .list _ | .mapping _ | .tagged _ _ => "duplicate entry in YAML map"

-- Aliases may be followed a hundred times as often as the document has events.
def follow (composed : Composed) (path : ValuePath) (node : Node) : Loading (ValuePath × Node) :=
  match node with
  | .alias place => do
    let followed := (← get) + 1
    set followed
    if followed > composed.builder.eventCount * 100 then throw .tooManyAliases
    pure (.alias path, composed.target place)
  | other => pure (path, other)

def scalar (path : ValuePath) (mark : Mark) (read : Except Scalar.Refusal Value) : Loading Value :=
  match read with
  | .ok value => pure value
  | .error refusal => refuse (refusalText refusal) path mark

def underTag (tag : Option (List UInt8)) (content : Loading Value) : Loading Value :=
  match Scalar.localTag? tag with
  | none => content
  | some name => do pure (.tagged name (← content))

def items (value : ValuePath → Node → Loading Value) (path : ValuePath) :
    Nat → List Node → Loading (List Value)
  | _, [] => pure []
  | index, node :: rest => do
    let first ← value (.item path index) node
    let others ← items value path (index + 1) rest
    pure (first :: others)

def valuePath (path : ValuePath) : Node → ValuePath
  | .scalar _ text _ _ => .field path text
  | _ => .unnamed path

def pairs (value : ValuePath → Node → Loading Value) (path : ValuePath) (mark : Mark)
    (met : List Value) : List (Node × Node) → Loading (List (Value × Value))
  | [] => pure []
  | (keyNode, valueNode) :: rest => do
    let key ← value path keyNode
    if met.any key.same then refuse (duplicateText key) path mark
    let first ← value (valuePath path keyNode) valueNode
    let others ← pairs value path mark (key :: met) rest
    pure ((key, first) :: others)

def value (composed : Composed) : Nat → ValuePath → Node → Loading Value
  | depth, path, node => do
    let (path, node) ← follow composed path node
    match node, depth with
    | .missing, _ => throw (composed.fault.getD .severalDocuments)
    | .alias _, _ => throw .tooManyAliases
    | .scalar tag text plain mark, _ =>
      match Scalar.localTag? tag with
      | some name => do
        pure (.tagged name (← scalar path mark (Scalar.untagged text plain)))
      | none => scalar path mark (Scalar.read tag text plain)
    | .list tag _ mark, 0 => underTag tag (throw (.tooDeep mark))
    | .mapping tag _ mark, 0 => underTag tag (throw (.tooDeep mark))
    | .list tag nodes _, depth + 1 =>
      underTag tag do
        let held ← items (value composed depth) path 0 nodes
        pure (.list (.ofList held))
    | .mapping tag nodes mark, depth + 1 =>
      underTag tag do
        let held ← pairs (value composed depth) path mark [] nodes
        pure (.mapping (.ofList held))

end Loading

def Value.ofText (text : List Char) : Except LoadFault Value := do
  let (events, fault) := Event.ofText text
  let (composed, rest) := Composed.ofEvents fault events .start
  let (value, _) ← (Loading.value composed 128 .root composed.root).run 0
  match composed.fault, rest with
  | some fault, _ => throw fault
  | none, next :: _ => if next.kind = .streamEnd then pure value else throw .severalDocuments
  | none, [] => throw .severalDocuments

end CompletionRules.Yaml
