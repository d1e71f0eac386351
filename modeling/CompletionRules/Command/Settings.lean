import CompletionRules.Command.Topic
import CompletionRules.Text.Shown
import CompletionRules.Toml.Document

-- The user's settings. What a settings text leaves out stays as it is by default, and names that
-- mean nothing here are passed over.

namespace CompletionRules

structure Settings where
  wrapper : Option String
  directories : Option (List String)
  useSudo : Option Bool
  topics : List Topic
  deriving Repr, DecidableEq

namespace Settings

def default : Settings := ⟨none, none, none, []⟩

open Toml

def integerText (value : Int) : String :=
  "integer `" ++ toString value ++ "`" ++
    (if -(twoTo 63) ≤ value && value < twoTo 64 then ""
    else if value < twoTo 127 then " as i128"
    else " as u128")

def found : Value → String
  | .string text => "string " ++ Text.shown text
  | .integer value => integerText value
  | .real value => "floating point `" ++ value.plainText ++ "`"
  | .unreadable => "integer"
  | .tooLarge => "floating point"
  | .boolean value => "boolean `" ++ toString value ++ "`"
  | .array _ _ => "sequence"
  | .dateTime | .table _ _ => "map"

def rangeFault? (span : Span) : Value → Option Fault
  | .integer value =>
    if -(twoTo 127) ≤ value && value < twoTo 128 then none else some ⟨span, .integerOverflow⟩
  | .unreadable => some ⟨span, .integerOverflow⟩
  | .tooLarge => some ⟨span, .realOverflow⟩
  | _ => none

def refused {α : Type} (span : Span) (value : Value) (expected : String) : Except Fault α :=
  .error ((rangeFault? span value).getD ⟨span, .wrongType (found value) expected⟩)

def text (expected : String) (span : Span) : Value → Except Fault String
  | .string held => .ok held
  | value => refused span value expected

def boolean (span : Span) : Value → Except Fault Bool
  | .boolean held => .ok held
  | value => refused span value "a boolean"

def list {α : Type} (item : Span → Value → Except Fault α) (span : Span) :
    Value → Except Fault (List α)
  | .array _ items => items.mapM fun (place, value) => item place value
  | value => refused span value "a sequence"

def topicNamed (span : Span) (name : String) : Except Fault Topic :=
  match Topic.ofName? name with
  | some topic => .ok topic
  | none => .error ⟨span, .unknownName name (Topic.all.map Topic.name)⟩

def topic (span : Span) : Value → Except Fault Topic
  | .string name => topicNamed span name
  | .table _ [(key, place, value)] => do
    let named ← topicNamed key.span key.name
    match value with
    | .array _ [] | .table _ [] => pure named
    | .array _ _ => .error ⟨place, .nameWithContent "empty array"⟩
    | .table _ _ => .error ⟨place, .nameWithContent "empty table"⟩
    | other => .error ⟨place, .nameWithContent ("table, found " ++ other.kind)⟩
  | .table _ entries => .error ⟨span, .noSingleName (!entries.isEmpty)⟩
  | _ => .error ⟨span, .notAName⟩

def passOver : Nat → Span → Value → Except Fault Unit
  | 0, _, _ => .ok ()
  | depth + 1, span, value =>
    match value with
    | .array _ items => items.forM fun (place, item) => passOver depth place item
    | .table _ entries => entries.forM fun (_, place, held) => passOver depth place held
    | other => match rangeFault? span other with
      | some fault => .error fault
      | none => .ok ()

structure Field (α : Type) where
  name : String
  set : Span → Value → α → Except Fault α

def setEntry {α : Type} (fields : List (Field α)) (held : α) (entry : Toml.Key × Span × Value) :
    Except Fault α :=
  let (key, span, value) := entry
  match fields.find? fun field => field.name == key.name with
  | some field => field.set span value held
  | none => do
    passOver 1000 span value
    pure held

def sorted (entries : Entries) : Entries :=
  entries.mergeSort fun left right => left.1.name ≤ right.1.name

def record {α : Type} (name : String) (fields : List (Field α)) (start : α) (span : Span) :
    Value → Except Fault α
  | .table _ entries => (sorted entries).foldlM (setEntry fields) start
  | .array _ items =>
    (fields.zip items).foldlM (fun held (field, place, value) => field.set place value held) start
  | value => refused span value ("struct " ++ name)

def generateFields : List (Field Settings) :=
  [⟨"wrap", fun span value settings => do
    pure { settings with wrapper := some (← text "a string" span value) }⟩]

def installFields : List (Field Settings) :=
  [⟨"target-directories", fun span value settings => do
      pure { settings with directories := some (← list (text "path string") span value) }⟩,
    ⟨"use-sudo", fun span value settings => do
      pure { settings with useSudo := some (← boolean span value) }⟩]

def loggingFields : List (Field Settings) :=
  [⟨"debug-events", fun span value settings => do
    pure { settings with topics := ← list topic span value }⟩]

def sections : List (Field Settings) :=
  [⟨"generate", fun span value settings => record "GenerateConfig" generateFields settings span value⟩,
    ⟨"install", fun span value settings => record "InstallConfig" installFields settings span value⟩,
    ⟨"logging", fun span value settings => record "LoggingConfig" loggingFields settings span value⟩]

def ofText (text : String) : Except Fault Settings := do
  let entries ← Entries.ofText text
  (sorted entries).foldlM (setEntry sections) default

end Settings

end CompletionRules
