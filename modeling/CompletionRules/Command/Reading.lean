import CompletionRules.Command.Grammar
import CompletionRules.Rules.Pairs

-- Reading the words of one level. A pending value is checked and noted down before anything else is.

namespace CompletionRules.Command

inductive Refusal where
  | help
  | version
  | nothingGiven
  | missingTask
  | unknownTask
  | unknownArgument
  | invalidValue
  | tooManyValues
  | conflict
  | missingOperand
  deriving Repr, DecidableEq

def Refusal.exitCode : Refusal → Nat
  | .help | .version => 0
  | _ => 1

structure Pending where
  field : Field
  usage : Usage
  value : Option String
  deriving Repr, DecidableEq

structure Reading where
  given : List (Field × Option String)
  pending : Option Pending
  operands : List Field
  trailing : Bool
  deriving Repr, DecidableEq

namespace Reading

def start (level : Level) : Reading := ⟨[], none, level.operands, false⟩

def isGiven (reading : Reading) (field : Field) : Bool :=
  reading.given.any fun entry => entry.1 = field

def values (reading : Reading) (field : Field) : List String :=
  reading.given.filterMap fun entry => if entry.1 = field then entry.2 else none

def value? (reading : Reading) (field : Field) : Option String := (reading.values field).head?

def note (reading : Reading) (field : Field) (usage : Usage) (value : Option String) :
    Except Refusal Reading :=
  if usage ≠ .repeated && reading.isGiven field then .error .conflict
  else if value.all field.accepts then
    .ok { reading with given := reading.given ++ [(field, value)] }
  else .error .invalidValue

def settle (reading : Reading) : Except Refusal Reading :=
  match reading.pending with
  | none => .ok reading
  | some ⟨_, _, none⟩ => .error .invalidValue
  | some ⟨field, usage, some value⟩ => { reading with pending := none }.note field usage (some value)

def awaitsValue (reading : Reading) : Bool :=
  match reading.pending with
  | some ⟨_, _, none⟩ => true
  | _ => false

def takeFlag (reading : Reading) (switch : Switch) : Except Refusal Reading := do
  let settled ← reading.settle
  match switch.field with
  | .help => .error .help
  | .version => .error .version
  | field => settled.note field switch.usage none

def takeValue (reading : Reading) (switch : Switch) (attached : Option String) :
    Except Refusal Reading := do
  let settled ← reading.settle
  match attached with
  | some value => settled.note switch.field switch.usage (some value)
  | none => pure { settled with pending := some ⟨switch.field, switch.usage, none⟩ }

def splitLong (text : List Char) : String × Option String :=
  let name := text.takeWhile (· ≠ '=')
  match text.dropWhile (· ≠ '=') with
  | [] => (.ofList name, none)
  | _ :: value => (.ofList name, some (.ofList value))

def takeLong (level : Level) (reading : Reading) (text : List Char) : Except Refusal Reading :=
  let (name, attached) := splitLong text
  match level.long? name with
  | none => .error .unknownArgument
  | some switch =>
    match switch.usage, attached with
    | .flag, some _ => .error .tooManyValues
    | .flag, none => reading.takeFlag switch
    | _, _ => reading.takeValue switch attached

def attachedValue : List Char → Option String
  | [] => none
  | '=' :: value => some (.ofList value)
  | value => some (.ofList value)

def takeShorts (level : Level) (reading : Reading) : List Char → Except Refusal Reading
  | [] => .ok reading
  | letter :: rest =>
    match level.short? letter with
    | none => .error .unknownArgument
    | some switch =>
      match switch.usage with
      | .flag => do
        let next ← reading.takeFlag switch
        takeShorts level next rest
      | _ => reading.takeValue switch (attachedValue rest)

def helpName : String := "help"

def namesTask (word : String) : Bool := word == helpName || (TaskName.ofName? word).isSome

-- A word too many is taken for a misspelt task where a task is expected, but not when it is spelt
-- right and only stands behind the end of the options.
def surplus (level : Level) (reading : Reading) (word : String) : Refusal :=
  if level.takesTask && !(reading.trailing && namesTask word) then .unknownTask else .unknownArgument

def takeOperand (level : Level) (reading : Reading) (word : String) : Except Refusal Reading :=
  match reading.operands with
  | [] => .error (surplus level reading word)
  | field :: others => do
    let settled ← reading.settle
    pure { settled with pending := some ⟨field, .once, some word⟩, operands := others }

def takePlain (level : Level) (reading : Reading) (word : String) : Except Refusal Reading :=
  match reading.pending with
  | some ⟨field, usage, none⟩ =>
    if reading.trailing then reading.takeOperand level word
    else .ok { reading with pending := some ⟨field, usage, some word⟩ }
  | _ => reading.takeOperand level word

def takeWord (level : Level) (reading : Reading) (word : String) : Except Refusal Reading :=
  if reading.trailing then reading.takePlain level word
  else
    match word.toList with
    | ['-', '-'] => .ok { reading with trailing := true }
    | '-' :: '-' :: text => reading.takeLong level text
    | '-' :: letter :: letters => reading.takeShorts level (letter :: letters)
    | _ => reading.takePlain level word

def startsTask (level : Level) (reading : Reading) (word : String) : Bool :=
  level.takesTask && !reading.trailing && !reading.awaitsValue && namesTask word

def read (level : Level) (reading : Reading) :
    List String → Except Refusal (Reading × Option (String × List String))
  | [] => .ok (reading, none)
  | word :: rest =>
    if reading.startsTask level word then .ok (reading, some (word, rest))
    else do
      let next ← reading.takeWord level word
      next.read level rest

def addFallbacks (environment : List (String × String)) (reading : Reading) :
    List (Field × String) → Except Refusal Reading
  | [] => .ok reading
  | (field, variableName) :: rest =>
    match Pairs.find? variableName environment with
    | some value =>
      if reading.isGiven field then reading.addFallbacks environment rest
      else do
        let next ← reading.note field .once (some value)
        next.addFallbacks environment rest
    | none => reading.addFallbacks environment rest

def checked (level : Level) (reading : Reading) : Except Refusal Reading :=
  if reading.isGiven .noSettings && reading.isGiven .settings then .error .conflict
  else if level.required.all reading.isGiven then .ok reading
  else .error .missingOperand

def finish (environment : List (String × String)) (level : Level) (reading : Reading) :
    Except Refusal Reading := do
  let settled ← reading.settle
  let filled ← settled.addFallbacks environment level.fallbacks
  filled.checked level

end Reading

end CompletionRules.Command
