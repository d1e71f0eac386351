import CompletionRules.Rules.Document
import CompletionRules.Yaml.Load

-- Reading a document: its mappings are branches, its lists and strings leaves, and one reserved key
-- at the top holds the options. The first offence in the order of the text is reported.

namespace CompletionRules

def optionsKey : String := "comptree_options"

inductive ValueKind where
  | null | boolean | number | string | list | mapping | tagged
  deriving Repr, DecidableEq

namespace ValueKind

def text : ValueKind → String
  | .null => "null"
  | .boolean => "a boolean"
  | .number => "a number"
  | .string => "a string"
  | .list => "a list"
  | .mapping => "a mapping"
  | .tagged => "a tagged value"

def of : Yaml.Value → ValueKind
  | .null => .null
  | .boolean _ => .boolean
  | .number _ => .number
  | .string _ => .string
  | .list _ => .list
  | .mapping _ => .mapping
  | .tagged _ _ => .tagged

end ValueKind

inductive KeyOffence where
  | notAWord (found : ValueKind)
  | blank
  deriving Repr, DecidableEq

def KeyOffence.text : KeyOffence → String
  | .notAWord found => "keys must be words, found " ++ found.text
  | .blank => "keys must contain at least one word"

inductive OptionsOffence where
  | notAMapping (found : ValueKind)
  | nameNotText (found : ValueKind)
  | valueNotText (name : String) (found : ValueKind)
  deriving Repr, DecidableEq

def OptionsOffence.text : OptionsOffence → String
  | .notAMapping found => "expected a mapping, found " ++ found.text
  | .nameNotText found => "option names must be strings, found " ++ found.text
  | .valueNotText name found =>
    "option '" ++ name ++ "' must have a string value, found " ++ found.text

-- `item` is the place in a list of the item that was refused.
inductive LoadError where
  | undecodable
  | notYaml (fault : Yaml.LoadFault)
  | notAMapping (found : ValueKind)
  | invalidKey (path : KeyPath) (offence : KeyOffence)
  | unsupportedValue (path : KeyPath) (found : ValueKind) (item : Option Nat)
  | malformedOptions (offence : OptionsOffence)
  deriving Repr, DecidableEq

def LoadError.message : LoadError → String
  | .undecodable => "failed to read configuration: stream did not contain valid UTF-8"
  | .notYaml fault => "invalid configuration syntax: " ++ fault.message
  | .notAMapping found =>
    "configuration must be a mapping at the top level; found " ++ found.text
  | .invalidKey path offence => "invalid key under '" ++ path.text ++ "': " ++ offence.text
  | .unsupportedValue path found item =>
    "unsupported value at '" ++ path.text ++
      "': expected a list of words, a command string, or a mapping; found " ++ found.text ++
      (match item with
        | some index => " as list item " ++ toString index
        | none => "")
  | .malformedOptions offence => "malformed 'comptree_options': " ++ offence.text

def scalarText? : Yaml.Value → Option String
  | .string text => some text
  | .number number => some number.text
  | .boolean value => some (toString value)
  | _ => none

def Key.ofValue (path : KeyPath) (value : Yaml.Value) : Except LoadError Key :=
  match scalarText? value with
  | none => .error (.invalidKey path (.notAWord (.of value)))
  | some raw =>
    match Key.ofText? raw with
    | none => .error (.invalidKey path .blank)
    | some key => .ok key

def listWords (path : KeyPath) : Nat → List Yaml.Value → Except LoadError (List String)
  | _, [] => .ok []
  | index, value :: rest =>
    match scalarText? value with
    | none => .error (.unsupportedValue path (.of value) (some index))
    | some word => do
      let others ← listWords path (index + 1) rest
      pure (word :: others)

mutual

def Tree.ofValue (path : KeyPath) : Yaml.Value → Except LoadError Tree
  | .null => .ok (.leaf (.words []))
  | .string command => .ok (.leaf (.command command))
  | .list items => do
    let words ← listWords path 0 items.toList
    pure (.leaf (.words words))
  | .mapping pairs => do
    let children ← Children.ofPairs path pairs
    pure (.branch children)
  | .boolean _ => .error (.unsupportedValue path .boolean none)
  | .number _ => .error (.unsupportedValue path .number none)
  | .tagged _ _ => .error (.unsupportedValue path .tagged none)

def Children.ofPairs (path : KeyPath) : Yaml.Pairs → Except LoadError Children
  | .nil => .ok .nil
  | .cons keyValue value rest => do
    let key ← Key.ofValue path keyValue
    let tree ← Tree.ofValue (path ++ [key.raw]) value
    let others ← Children.ofPairs path rest
    pure (.cons key tree others)

end

def optionPairs : List (Yaml.Value × Yaml.Value) → Except LoadError (List (String × String))
  | [] => .ok []
  | (nameValue, value) :: rest =>
    match nameValue with
    | .string name =>
      match scalarText? value with
      | some text => do
        let others ← optionPairs rest
        pure ((name, text) :: others)
      | none => .error (.malformedOptions (.valueNotText name (.of value)))
    | other => .error (.malformedOptions (.nameNotText (.of other)))

def optionsOf : Option Yaml.Value → Except LoadError (List (String × String))
  | none => .ok []
  | some (.mapping pairs) => optionPairs pairs.toList
  | some other => .error (.malformedOptions (.notAMapping (.of other)))

def isOptionsKey : Yaml.Value → Bool
  | .string text => text == optionsKey
  | _ => false

def optionsValue? (pairs : Yaml.Pairs) : Option Yaml.Value :=
  (pairs.toList.find? fun pair => isOptionsKey pair.1).map Prod.snd

def rulePairs (pairs : Yaml.Pairs) : Yaml.Pairs :=
  .ofList (pairs.toList.filter fun pair => !isOptionsKey pair.1)

namespace Document

-- A document of nothing is an empty tree. Options are looked at before any rule.
def ofValue : Yaml.Value → Except LoadError Document
  | .null => .ok .empty
  | .mapping pairs => do
    let options ← optionsOf (optionsValue? pairs)
    let children ← Children.ofPairs [] (rulePairs pairs)
    pure (.build (.branch children) options)
  | other => .error (.notAMapping (.of other))

def valueOf (text : String) : Except LoadError Yaml.Value :=
  (Yaml.Value.ofText text.toList).mapError .notYaml

def ofText (text : String) : Except LoadError Document := do
  let value ← valueOf text
  ofValue value

def ofBytes (bytes : List UInt8) : Except LoadError Document :=
  match Text.decode? bytes with
  | none => .error .undecodable
  | some text => ofText text

end Document

end CompletionRules
