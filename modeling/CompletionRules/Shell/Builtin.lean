import CompletionRules.Shell.Expansion
import CompletionRules.Shell.Format
import CompletionRules.Shell.Test

-- The commands that a shell carries out itself. Each is given its arguments after all expansion.

namespace CompletionRules.Shell

abbrev Action (m : Type → Type) := List ByteText → Run m Flow

variable {m : Type → Type} [Monad m] [Disk m]

def isSuccess (held : Bool) : Nat := if held then 0 else 1

def endWith (message : String) : Run m Flow := do
  complain message
  let _ ← finish 2
  pure .stop

def illegalNumber (text : ByteText) : String := "Illegal number: " ++ ByteText.toText text

def leaveWith (name : String) (flow : Flow) (arguments : List ByteText) : Run m Flow := do
  match arguments with
  | [] => pure flow
  | argument :: _ =>
    match number? argument with
    | some number => do
      let _ ← finish number
      pure flow
    | none => endWith (name ++ ": " ++ illegalNumber argument)

def leaveLoops (name : String) (flow : Nat → Flow) (arguments : List ByteText) : Run m Flow := do
  let count := match arguments.head? with
    | none => some 1
    | some argument => number? argument
  match count with
  | none | some 0 => endWith (name ++ ": " ++ illegalNumber (arguments.head?.getD []))
  | some count => do
    let _ ← finish 0
    let loops := (← get).loops
    pure (if loops = 0 then .go else flow (min count loops))

def signalNumber? (text : ByteText) : Option Nat :=
  match number? text with
  | some number => some number
  | none =>
    let name := (ByteText.name text).toUpper
    (ExitStatus.signalNames.idxOf? (if name.startsWith "SIG" then name else "SIG" ++ name)).map (· + 1)

def isHarmless (signal : Nat) : Bool := [0, 17, 18, 23, 28].contains signal

def isFinal (signal : Nat) : Bool := signal = 9 || signal = 19

def sendSignal (signal : Nat) (processes : List ByteText) : Run m Flow := do
  if processes.isEmpty then do
    complain "kill: Usage: kill [-s sigspec | -signum | -sigspec] [pid | job]... or\nkill -l [exitstatus]"
    finish 2
  else if processes = [ByteText.ofNat processNumber] then
    match Pairs.find? signal (← get).traps, signal == 0 || isFinal signal with
    | some text, false => do
      modify fun session => { session with pending := session.pending ++ [text] }
      finish 0
    | _, _ =>
      if isHarmless signal then finish 0
      else do
        modify fun session => { session with signal := some signal }
        pure .stop
  else do
    complain "kill: No such process"
    finish 1

def signalName (number : Nat) : Option ByteText :=
  (ExitStatus.signalNames[number - 1]?).map fun name => name.toList.drop 3

def kill (arguments : List ByteText) : Run m Flow := do
  match arguments with
  | ['-', 'l'] :: given =>
    match given.head?.map number? with
    | some number =>
      match number.bind fun number => signalName (number % 128) with
      | some name => say (name ++ ['\n']) 0
      | none => finish 2
    | none => say (ByteText.ofLines (ExitStatus.signalNames.map fun name => name.toList.drop 3)) 0
  | ['-', 's'] :: signal :: rest =>
    match signalNumber? signal with
    | some number => sendSignal number rest
    | none => finish 2
  | ['-', '-'] :: rest => sendSignal 15 rest
  | ('-' :: c :: signal) :: rest =>
    match signalNumber? (c :: signal) with
    | some number => sendSignal number rest
    | none => finish 2
  | rest => sendSignal 15 rest

def inQuotes (text : ByteText) : ByteText :=
  ['\''] ++ (text.flatMap fun c => if c = '\'' then ['\'', '"', '\'', '"', '\''] else [c]) ++ ['\'']

def trapNumber? (text : ByteText) : Option Nat :=
  if text = "EXIT".toList then some 0 else signalNumber? text

def trapLine (entry : Nat × ByteText) : ByteText :=
  "trap -- ".toList ++ inQuotes entry.2 ++ [' '] ++
    (if entry.1 = 0 then "EXIT".toList else (signalName entry.1).getD (ByteText.ofNat entry.1))

def setTrap (arguments : List ByteText) : Run m Flow := do
  let arguments := if arguments.head? = some ['-', '-'] then arguments.drop 1 else arguments
  let (action, names) : Option ByteText × List ByteText := match arguments with
    | [] => (none, [])
    | action :: [] => (none, [action])
    | action :: names =>
      if action = ['-'] then (none, names)
      else if (number? action).isSome then (none, action :: names)
      else (some action, names)
  if arguments.isEmpty then do
    let traps := (← get).traps.mergeSort fun left right => left.1 ≤ right.1
    say (ByteText.ofLines (traps.map trapLine)) 0
  else match names.mapM trapNumber? with
    | none => do
      complain ("trap: " ++ ((names.find? fun name => (trapNumber? name).isNone).getD []).toText ++ ": bad trap")
      finish 1
    | some numbers => do
      modify fun session =>
        let others := session.traps.filter fun entry => !numbers.contains entry.1
        { session with
          traps := others ++ (action.toList.flatMap fun text => numbers.map fun number => (number, text)) }
      finish 0

def settled (components : List String) : List String :=
  components.foldl (fun met component =>
    if component = "." then met else if component = ".." then met.dropLast else met ++ [component]) []

def currentDirectory : Run m String := do
  let base ← (Disk.workingDirectory : m String)
  let components := Path.components (Path.join base (← get).directory)
  pure ("/" ++ Text.joined "/" (settled components))

def changeDirectory (arguments : List ByteText) : Run m Flow := do
  let session ← get
  let operands := arguments.filter fun argument => !([['-', 'L'], ['-', 'P'], ['-', '-']].contains argument)
  let goesBack := operands.head? = some ['-']
  let target := match operands with
    | [] => ((session.value? "HOME").map ByteText.toText).getD ""
    | argument :: _ =>
      if goesBack then ((session.value? "OLDPWD").getD []).toText else ByteText.toText argument
  let place := session.located target
  match ← (Disk.look place : m (Except FileError FileKind)) with
  | .ok .directory => do
    let before := session.value? "PWD"
    set { session with directory := place }
    let path := ByteText.ofString (← currentDirectory)
    modify fun session => (session.assign "OLDPWD" (before.getD [])).assign "PWD" path
    if goesBack then say (path ++ ['\n']) 0 else finish 0
  | _ => do
    complain ("cd: can't cd to " ++ target)
    finish 2

def printDirectory : Run m Flow := do
  let path ← currentDirectory
  say (ByteText.ofString (path ++ "\n")) 0

def declare (command : String) (argument : ByteText) : Run m String := do
  let name := argument.takeWhile (· ≠ '=')
  if !ByteText.isName name then do
    complain (command ++ ": " ++ ByteText.toText name ++ ": bad variable name")
    setFailed
  else match argument.dropWhile (· ≠ '=') with
    | _ :: value => assignValue (ByteText.name name) value
    | [] => pure ()
  pure (ByteText.name name)

def declared (names : List String) (note : List String → Session → Session) : Run m Flow := do
  modify (note names)
  if (← get).failed then do
    let _ ← finish 2
    pure .stop
  else finish 0

def listing (command : String) (names : List String) : Run m Flow := do
  let session ← get
  let sorted := ByteText.sorted (names.eraseDups.map fun name => name.toList)
  let start := if command.isEmpty then "" else command ++ " "
  say (ByteText.ofLines (sorted.map fun name =>
    start.toList ++ name ++ match session.value? (ByteText.name name) with
      | some value => '=' :: inQuotes value
      | none => [])) 0

def declareAll (command : String) (held : Session → List String)
    (note : List String → Session → Session) (arguments : List ByteText) : Run m Flow := do
  let arguments := if arguments.head? = some ['-', '-'] then arguments.drop 1 else arguments
  if arguments.isEmpty || arguments = [['-', 'p']] then listing command (held (← get))
  else declared (← arguments.mapM (declare command)) note

def declareLocal (arguments : List ByteText) : Run m Flow := do
  match (← get).kept with
  | none => endWith "local: not in a function"
  | some kept => do
    let before ← get
    let names ← arguments.mapM (declare "local")
    declared names fun names session =>
      { session with kept := some ((names.map fun name => (name, before.value? name)) ++ kept) }

def unset (arguments : List ByteText) : Run m Flow := do
  let session ← get
  match arguments with
  | ['-', 'f'] :: names => do
    set { session with
      functions := session.functions.filter fun entry => !names.contains entry.1.toList }
    finish 0
  | _ => do
    let names := (if arguments.head? = some ['-', 'v'] then arguments.drop 1 else arguments).map ByteText.name
    match names.find? session.fixed.contains with
    | some name => endWith ("unset: " ++ name ++ ": is read only")
    | none => do
      set (names.foldl Session.erase session)
      finish 0

def optionNames : List (Char × String) :=
  [('e', "errexit"), ('f', "noglob"), ('I', "ignoreeof"), ('i', "interactive"), ('m', "monitor"),
    ('n', "noexec"), ('s', "stdin"), ('x', "xtrace"), ('v', "verbose"), ('V', "vi"), ('E', "emacs"),
    ('C', "noclobber"), ('a', "allexport"), ('b', "notify"), ('u', "nounset"), ('p', "privileged")]

def setOption (on : Bool) (letter : Char) : Run m Unit :=
  modify fun session =>
    let others := session.options.filter (· != letter)
    { session with options := if on then letter :: others else others }

def optionLines (on : Bool) : Run m ByteText := do
  let session ← get
  let line := fun ((letter, name) : Char × String) =>
    let isOn := session.options.contains letter
    if on then name.toList ++ List.replicate (16 - name.length) ' ' ++ (if isOn then "on" else "off").toList
    else "set ".toList ++ [if isOn then '-' else '+', 'o', ' '] ++ name.toList
  pure (ByteText.ofLines ((if on then ["Current option settings".toList] else []) ++
    (optionNames ++ [('?', "nolog"), ('?', "debug")]).map line))

def setArguments : List ByteText → Run m Flow
  | [] => finish 0
  | argument :: rest =>
    match argument with
    | ['-', '-'] => do
      modify fun session => { session with arguments := rest }
      finish 0
    | ['-'] =>
      if rest.isEmpty then finish 0
      else do
        modify fun session => { session with arguments := rest }
        finish 0
    | sign :: letters =>
      if sign = '-' || sign = '+' then
        let single := letters.filter (· ≠ 'o')
        match single.find? fun c => (Pairs.find? c optionNames).isNone with
        | some c => endWith ("set: Illegal option -" ++ String.singleton c)
        | none => do
          let _ ← single.mapM (setOption (sign = '-'))
          if letters.contains 'o' then
            match rest with
            | [] => do
              let text ← optionLines (sign = '-')
              say text 0
            | name :: others =>
              match optionNames.find? fun entry => entry.2 == ByteText.name name with
              | none => endWith ("set: Illegal option -o " ++ ByteText.toText name)
              | some (letter, _) => do
                setOption (sign = '-') letter
                setArguments others
          else setArguments rest
      else do
        modify fun session => { session with arguments := argument :: rest }
        finish 0
    | [] => do
      modify fun session => { session with arguments := argument :: rest }
      finish 0

def setOrList (arguments : List ByteText) : Run m Flow := do
  if arguments.isEmpty then listing "" ((← get).values.map Prod.fst) else setArguments arguments

def shift (arguments : List ByteText) : Run m Flow := do
  match match arguments.head? with
    | none => some 1
    | some argument => number? argument with
  | none => endWith ("shift: " ++ illegalNumber (arguments.head?.getD []))
  | some count => do
    let session ← get
    if session.arguments.length < count then endWith "shift: can't shift that many"
    else do
      set { session with arguments := session.arguments.drop count }
      finish 0

-- A line on its way into names: the values met, the one under way, how many names are left, whether
-- blanks have just ended a value, and where what is left would be cut off if it ended here.
structure Sharing where
  done : List ByteText
  current : ByteText
  left : Nat
  spaced : Bool
  ending : Option Nat

namespace Sharing

def isBlank (c : Char) : Bool := c == ' ' || c == '\t' || c == '\n'

def add (separators : ByteText) (sharing : Sharing) (c : Char) : Sharing :=
  let separates := separators.contains c
  let blank := separates && isBlank c
  let longer := { sharing with current := sharing.current ++ [c] }
  if sharing.left = 0 then
    if blank then { longer with ending := some (sharing.ending.getD sharing.current.length) }
    else { longer with
      ending := if separates && sharing.spaced then sharing.ending else none
      spaced := false }
  else if separates && sharing.spaced then { sharing with spaced := blank }
  else if !separates then { longer with spaced := false }
  else if blank && sharing.current.isEmpty then sharing
  else if sharing.left = 1 then
    { longer with left := 0, spaced := blank, ending := some sharing.current.length }
  else
    { sharing with
      done := sharing.done ++ [sharing.current], current := [], left := sharing.left - 1, spaced := blank }

def addFixed (sharing : Sharing) (c : Char) : Sharing :=
  { sharing with current := sharing.current ++ [c], spaced := false }

def values (sharing : Sharing) : List ByteText :=
  sharing.done ++ [match sharing.ending with
    | some length => sharing.current.take length
    | none => sharing.current]

end Sharing

-- One line of the input: its characters, each with whether it is fixed, what follows, and whether it
-- was ended. A backslash fixes the next character or lets the line go on.
def takeLine (raw : Bool) : ByteText → List (Char × Bool) × ByteText × Bool
  | [] => ([], [], false)
  | '\n' :: rest => ([], rest, true)
  | '\\' :: c :: rest =>
    if raw then
      let (line, after, ended) := takeLine raw (c :: rest)
      (('\\', false) :: line, after, ended)
    else
      let (line, after, ended) := takeLine raw rest
      (if c = '\n' then line else (c, true) :: line, after, ended)
  | c :: rest =>
    let (line, after, ended) := takeLine raw rest
    ((c, false) :: line, after, ended)

def assignEach : List String → List ByteText → Run m Unit
  | [], _ => pure ()
  | name :: names, values => do
    assignValue name (values.head?.getD [])
    assignEach names (values.drop 1)

def readLine (arguments : List ByteText) : Run m Flow := do
  match Options.readLeading ⟨['r'], ['p'], []⟩ arguments with
  | none => do
    complain "read: Illegal option"
    finish 2
  | some options =>
    match options.operands.find? fun name => !ByteText.isName name with
    | some name => do
      complain ("read: " ++ ByteText.toText name ++ ": bad variable name")
      finish 2
    | none =>
      if options.operands.isEmpty then do
        complain "read: arg count"
        finish 2
      else do
        let session ← get
        let (line, after, ended) := takeLine (options.has 'r') session.input
        let raw := if !ended && !options.has 'r' && line.getLast? = some ('\\', false) then line.dropLast else line
        let shared := (raw.filter fun held => held.1 ≠ '\x00').foldl (fun sharing (c, fixed) =>
          if fixed then sharing.addFixed c else sharing.add (separators session) c)
          (⟨[], [], options.operands.length, false, none⟩ : Sharing)
        set (session.leaveInput after)
        assignEach (options.operands.map ByteText.name) shared.values
        finish (isSuccess ended)

def printFormatted (arguments : List ByteText) : Run m Flow := do
  let ended := arguments.head? = some ['-', '-']
  match if ended then arguments.drop 1 else arguments with
  | [] => do
    complain "printf: usage: printf format [arg ...]"
    finish 2
  | format :: values => do
    if !ended && Options.isOption format then do
      complain ("printf: Illegal option " ++ ByteText.toText (format.take 2))
      finish 2
    else do
      let (text, status) := Format.print format values
      say text status

def optionKind (wanted : ByteText) (letter : Char) : Option Bool :=
  match wanted with
  | [] => none
  | c :: ':' :: rest => if c = letter then some true else optionKind rest letter
  | c :: rest => if c = letter then some false else optionKind rest letter

structure OptionStep where
  letter : Char
  value : Option ByteText
  place : Nat
  within : Nat
  ended : Bool
  message : Option String

def nextOption (wanted : ByteText) (words : List ByteText) (place within : Nat) : OptionStep :=
  let silent := wanted.head? = some ':'
  let wanted := if silent then wanted.drop 1 else wanted
  let current := if place ≤ 1 || within = 0 then [] else (words[place - 2]?.getD []).drop within
  let (letters, place, within) := if current.isEmpty then
      match words[place - 1]? with
      | some ('-' :: c :: rest) => (c :: rest, place + 1, 1)
      | _ => ([], place, 0)
    else (current, place, within)
  match letters with
  | [] => ⟨'?', none, place, 0, true, none⟩
  | letter :: rest =>
    if letter = '-' && rest.isEmpty && within = 1 then ⟨'?', none, place, 0, true, none⟩
    else
      let next := if rest.isEmpty then 0 else within + 1
      match optionKind wanted letter with
      | none =>
        if silent then ⟨'?', some [letter], place, next, false, none⟩
        else ⟨'?', none, place, next, false, some ("Illegal option -" ++ String.singleton letter)⟩
      | some false => ⟨letter, some [], place, next, false, none⟩
      | some true =>
        if !rest.isEmpty then ⟨letter, some rest, place, 0, false, none⟩
        else match words[place - 1]? with
          | some value => ⟨letter, some value, place + 1, 0, false, none⟩
          | none =>
            if silent then ⟨':', some [letter], place, 0, false, none⟩
            else ⟨'?', none, place, 0, false,
              some ("No arg for -" ++ String.singleton letter ++ " option")⟩

def takeOption (arguments : List ByteText) : Run m Flow := do
  match arguments with
  | wanted :: name :: words => do
    let session ← get
    let words := if words.isEmpty then session.arguments else words
    let place := ((session.value? "OPTIND").bind number?).getD 1
    let step := nextOption wanted words (if place > words.length + 1 then 1 else place) session.optionPlace
    match step.message with
    | some message => report message
    | none => pure ()
    if step.ended then pure ()
    else modify fun session =>
      match step.value with
      | some value => session.assign "OPTARG" value
      | none => session.erase "OPTARG"
    modify fun session =>
      { (session.assign "OPTIND" (ByteText.ofNat step.place)).assign (ByteText.name name) [step.letter] with
        optionPlace := step.within }
    finish (isSuccess (!step.ended))
  | _ => do
    complain "getopts: Usage: getopts optstring var [arg]"
    finish 2

def setAlias (status : Nat) (argument : ByteText) : Run m Nat := do
  let name := argument.takeWhile (· ≠ '=')
  match argument.dropWhile (· ≠ '=') with
  | _ :: value => do
    modify fun session =>
      { session with aliases := (ByteText.name name, value) :: Pairs.erase (ByteText.name name) session.aliases }
    pure status
  | [] =>
    match Pairs.find? (ByteText.name name) (← get).aliases with
    | some value => do
      let _ ← say (name ++ ['='] ++ inQuotes value ++ ['\n']) 0
      pure status
    | none => do
      complain ("alias: " ++ ByteText.toText name ++ " not found")
      pure 1

def setOrListAliases (arguments : List ByteText) : Run m Flow := do
  if arguments.isEmpty then
    let held := (← get).aliases.map fun (name, value) => name.toList ++ ['='] ++ inQuotes value
    say (ByteText.ofLines (ByteText.sorted held)) 0
  else do
    let status ← arguments.foldlM setAlias 0
    finish status

def dropAliases (arguments : List ByteText) : Run m Flow := do
  let session ← get
  if arguments.head? = some ['-', 'a'] then do
    set { session with aliases := [] }
    finish 0
  else do
    let names := arguments.map ByteText.name
    set { session with aliases := session.aliases.filter fun entry => !names.contains entry.1 }
    finish (isSuccess (names.all fun name => session.aliases.any fun entry => entry.1 == name))

def wait (arguments : List ByteText) : Run m Flow := do
  match arguments.getLast? with
  | none => finish 0
  | some last =>
    let session ← get
    match session.beside with
    | some status => finish (if last = ByteText.ofNat besideNumber || last = ['%', '1'] then status else 127)
    | none => finish (if last.head? = some '%' then 2 else 127)

def simply (status : Nat) : Action m := fun _ => finish status

def builtin? (name : String) : Option (Action m) :=
  match name with
  | ":" | "true" | "jobs" => some (simply 0)
  | "false" => some (simply 1)
  | "times" => some fun _ => say (ByteText.ofLines (List.replicate 2 "0m0.000000s 0m0.000000s".toList)) 0
  | "wait" => some wait
  | "trap" => some setTrap
  | "echo" => some fun arguments => say (Format.echo arguments) 0
  | "printf" => some printFormatted
  | "exit" => some (leaveWith "exit" .stop)
  | "return" => some (leaveWith "return" .back)
  | "break" => some (leaveLoops "break" .leave)
  | "continue" => some (leaveLoops "continue" .again)
  | "test" => some (Test.run "test")
  | "[" => some fun arguments =>
    if (arguments.getLast?.bind List.head?) = some ']' then Test.run "[" arguments.dropLast
    else do
      complain "[: missing ]"
      finish 2
  | "cd" | "chdir" => some changeDirectory
  | "pwd" => some fun _ => printDirectory
  | "umask" => some fun arguments =>
    match arguments with
    | [] => say "0022\n".toList 0
    | [['-', 'S']] => say "u=rwx,g=rx,o=rx\n".toList 0
    | _ => finish 0
  | "ulimit" => some fun _ => say "unlimited\n".toList 0
  | "export" =>
    some (declareAll "export" Session.exported fun names session =>
      { session with exported := names ++ session.exported })
  | "readonly" =>
    some (declareAll "readonly" Session.fixed fun names session =>
      { session with fixed := names ++ session.fixed })
  | "local" => some declareLocal
  | "unset" => some unset
  | "set" => some setOrList
  | "shift" => some shift
  | "read" => some readLine
  | "getopts" => some takeOption
  | "alias" => some setOrListAliases
  | "unalias" => some dropAliases
  | "kill" => some kill
  | "bg" | "fg" => some (simply 2)
  | _ => none

end CompletionRules.Shell
