import CompletionRules.Host.Machine
import CompletionRules.Shell.Script

-- What a shell holds while it runs a script, and how it prints and reads. Where descriptors lead is
-- part of that state, so that a redirection is a change that is undone afterwards.

namespace CompletionRules.Shell

-- A pipe is known by its number: what is written to it waits there until it is read. A file is
-- written at its end.
inductive Channel where
  | pipe (number : Nat)
  | file (path : String)
  | nowhere
  | full
  deriving Repr, DecidableEq

-- Of the `options`, e ends the script when a command fails, but not where the session is `guarded`; u ends it
-- for a parameter that is not set. `traps` has the text to run at the end under number zero.
structure Session where
  name : ByteText
  values : List (String × ByteText)
  exported : List String
  fixed : List String
  kept : Option (List (String × Option ByteText))
  arguments : List ByteText
  functions : List (String × Command)
  aliases : List (String × ByteText)
  documents : List (Nat × Word)
  documentCount : Nat
  options : List Char
  optionPlace : Nat
  loops : Nat
  beside : Option Nat
  line : Nat
  status : Nat
  signal : Option Nat
  failed : Bool
  guarded : Bool
  traps : List (Nat × ByteText)
  pending : List ByteText
  captured : Option Nat
  directory : String
  descriptors : List (Nat × Channel)
  pipes : List (Nat × ByteText)
  pipeCount : Nat

inductive Flow where
  | go
  | leave (loops : Nat)
  | again (loops : Nat)
  | back
  | stop
  deriving Repr, DecidableEq

def processNumber : Nat := 2

def parentNumber : Nat := 1

def besideNumber : Nat := 3

namespace Session

def firstValues : List (String × ByteText) :=
  [("IFS", [' ', '\t', '\n']), ("OPTIND", ['1']), ("PPID", ByteText.ofNat parentNumber), ("PS1", ['#', ' ']),
    ("PS2", ['>', ' ']), ("PS4", ['+', ' '])]

def start (environment : Environment) (directory : String) : Session where
  name := ['s', 'h']
  values :=
    let given := (environment.filter fun entry => entry.1 != "IFS").map fun (name, value) =>
      (name, ByteText.ofString value)
    let place := ("PWD", ByteText.ofString directory)
    given.filter (fun entry => entry.1 != "PWD") ++ place ::
      firstValues.filter fun entry => !given.any fun other => other.1 == entry.1
  exported := "PWD" :: environment.map Prod.fst
  fixed := []
  kept := none
  arguments := []
  functions := []
  aliases := []
  documents := []
  documentCount := 0
  options := []
  optionPlace := 0
  loops := 0
  beside := none
  line := 1
  status := 0
  signal := none
  failed := false
  guarded := false
  traps := []
  pending := []
  captured := none
  directory := ""
  descriptors := [(0, .nowhere), (1, .pipe 0), (2, .nowhere)]
  pipes := [(0, [])]
  pipeCount := 1

def exitStatus (session : Session) : ExitStatus :=
  match session.signal with
  | some number => .killed number
  | none => .exited (session.status % 256)

def value? (session : Session) (name : String) : Option ByteText :=
  Pairs.find? name session.values

def isStrict (session : Session) : Bool := session.options.contains 'e'

def isCareful (session : Session) : Bool := session.options.contains 'u'

def assign (session : Session) (name : String) (value : ByteText) : Session :=
  { session with
    values := (name, value) :: Pairs.erase name session.values
    exported := if session.options.contains 'a' then name :: session.exported else session.exported
    optionPlace := if name = "OPTIND" then 0 else session.optionPlace }

def erase (session : Session) (name : String) : Session :=
  { session with
    values := Pairs.erase name session.values
    exported := session.exported.filter (· != name) }

def restore (session : Session) : String × Option ByteText → Session
  | (name, some value) => session.assign name value
  | (name, none) => session.erase name

def environment (session : Session) : Environment :=
  (session.values.filter fun entry => session.exported.contains entry.1).map fun (name, value) =>
    (name, value.toText)

def located (session : Session) (path : String) : String :=
  if path.isEmpty then path else Path.join session.directory path

def channel? (session : Session) (descriptor : Nat) : Option Channel :=
  Pairs.find? descriptor session.descriptors

def lead (session : Session) (descriptor : Nat) (channel : Channel) : Session :=
  { session with descriptors := (descriptor, channel) :: Pairs.erase descriptor session.descriptors }

def close (session : Session) (descriptor : Nat) : Session :=
  { session with descriptors := Pairs.erase descriptor session.descriptors }

def pipeText (session : Session) (number : Nat) : ByteText := (Pairs.find? number session.pipes).getD []

def setPipe (session : Session) (number : Nat) (text : ByteText) : Session :=
  { session with pipes := (number, text) :: Pairs.erase number session.pipes }

def openPipe (session : Session) (text : ByteText) : Nat × Session :=
  (session.pipeCount,
    { session with
      pipes := (session.pipeCount, text) :: session.pipes
      pipeCount := session.pipeCount + 1 })

def dropPipe (session : Session) (number : Nat) : Session :=
  { session with pipes := Pairs.erase number session.pipes }

def input (session : Session) : ByteText :=
  match session.channel? 0 with
  | some (.pipe number) => session.pipeText number
  | _ => []

def leaveInput (session : Session) (text : ByteText) : Session :=
  match session.channel? 0 with
  | some (.pipe number) => session.setPipe number text
  | _ => session

def rejoin (session inner : Session) : Session :=
  { session with
    pipes := inner.pipes
    pipeCount := inner.pipeCount
    status := inner.status % 256
    signal := inner.signal }

end Session

abbrev Run (m : Type → Type) := StateT Session m

section

variable {m : Type → Type} [Monad m] [Disk m]

def emitTo (descriptor : Nat) (text : ByteText) : Run m Bool := do
  match (← get).channel? descriptor with
  | none => pure false
  | some .full => pure text.isEmpty
  | some .nowhere => pure true
  | some (.pipe number) => do
    modify fun session => session.setPipe number (session.pipeText number ++ text)
    pure true
  | some (.file path) => do
    let held ← (Disk.read path : m (Except FileError String))
    let before := match held with
      | .ok found => ByteText.ofString found
      | .error _ => []
    let _ ← (Disk.write path (before ++ text).toText : m (Except FileError Unit))
    pure true

def finish (status : Nat) : Run m Flow := do
  modify fun session => { session with status := status }
  pure .go

def report (text : String) : Run m Unit := do
  let _ ← emitTo 2 (ByteText.ofString (text ++ "\n"))

def complain (text : String) : Run m Unit := do
  let session ← get
  report (session.name.toText ++ ": " ++ toString session.line ++ ": " ++ text)

def say (text : ByteText) (status : Nat) : Run m Flow := do
  if ← emitTo 1 text then finish status
  else do
    report "write error"
    finish 1

def setFailed : Run m Unit := modify fun session => { session with failed := true }

def assignValue (name : String) (value : ByteText) : Run m Unit := do
  if (← get).fixed.contains name then do
    complain (name ++ ": is read only")
    setFailed
  else modify fun session => session.assign name value

inductive Device where
  | nothing
  | full
  | descriptor (number : Nat)
  deriving Repr, DecidableEq

def device? (path : ByteText) : Option Device :=
  match ByteText.name path with
  | "/dev/null" | "/dev/zero" | "/dev/tty" | "/dev/random" | "/dev/urandom" => some .nothing
  | "/dev/full" => some .full
  | "/dev/stdin" => some (.descriptor 0)
  | "/dev/stdout" => some (.descriptor 1)
  | "/dev/stderr" => some (.descriptor 2)
  | name =>
    if name.startsWith "/dev/fd/" then
      ((String.ofList (name.toList.drop 8)).toNat?).map .descriptor
    else none

def readAll (descriptor : Nat) : Run m ByteText := do
  let session ← get
  match session.channel? descriptor with
  | some (.pipe number) => do
    set (session.setPipe number [])
    pure (session.pipeText number)
  | _ => pure []

def readFile (path : ByteText) : Run m (Except FileError ByteText) := do
  match device? path with
  | some (.descriptor number) => do pure (.ok (← readAll number))
  | some _ => pure (.ok [])
  | none => do
    let place := (← get).located path.toText
    match ← (Disk.read place : m (Except FileError String)) with
    | .ok text => pure (.ok (ByteText.ofString text))
    | .error error => pure (.error error)

def writeFile (path text : ByteText) : Run m (Except FileError Unit) := do
  match device? path with
  | some (.descriptor number) => do
    let _ ← emitTo number text
    pure (.ok ())
  | some _ => pure (.ok ())
  | none => do
    let place := (← get).located path.toText
    let written ← (Disk.write place text.toText : m (Except FileError Unit))
    pure written

end

end CompletionRules.Shell
