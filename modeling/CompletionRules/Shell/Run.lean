import CompletionRules.Shell.Parser
import CompletionRules.Shell.Program

-- Running a script. Every command takes one from a depth that bounds how long a script may go on;
-- what a command leaves behind is its status and whether the script goes on after it.

namespace CompletionRules.Shell

variable {m : Type → Type} [Monad m] [Disk m]

def apart (body : Run m Flow) : Run m Flow := do
  let before ← get
  let _ ← body
  let after ← get
  set (before.rejoin after)
  pure (if after.signal.isSome then .stop else .go)

def guarded (body : Run m Flow) : Run m Flow := do
  let before := (← get).guarded
  modify fun session => { session with guarded := true }
  let flow ← body
  modify fun session => { session with guarded := before }
  pure flow

def checked (flow : Flow) : Run m Flow := do
  let session ← get
  pure (if flow = .go && session.isStrict && !session.guarded && session.status ≠ 0 then .stop else flow)

def afterBody : Flow → Option Flow
  | .go | .again 0 | .again 1 => none
  | .again (loops + 1) => some (.again loops)
  | .leave 0 | .leave 1 => some .go
  | .leave (loops + 1) => some (.leave loops)
  | .back => some .back
  | .stop => some .stop

def inLoop (body : Run m Flow) : Run m Flow := do
  modify fun session => { session with loops := session.loops + 1 }
  let flow ← body
  modify fun session => { session with loops := session.loops - 1 }
  pure flow

def repeated (untilTrue : Bool) (condition body : Run m Flow) : Nat → Nat → Run m Flow
  | 0, _ => pure .stop
  | rounds + 1, last => do
    let asked ← guarded condition
    match asked, afterBody asked with
    | _, some flow => pure flow
    | .again _, none => repeated untilTrue condition body rounds last
    | _, none =>
      if ((← get).status == 0) == untilTrue then finish last
      else do
        let flow ← body
        match afterBody flow with
        | some ended => pure ended
        | none => do repeated untilTrue condition body rounds (← get).status

def eachValue (name : String) (body : Run m Flow) : List ByteText → Run m Flow
  | [] => pure .go
  | value :: rest => do
    assignValue name value
    if (← get).failed then do
      let _ ← finish 2
      pure .stop
    else do
      let flow ← body
      match afterBody flow with
      | some ended => pure ended
      | none => eachValue name body rest

def chosen (run : Command → Run m Flow) (subject : ByteText) :
    List (List Word × Command) → Run m (Option Command)
  | [] => pure none
  | (patterns, body) :: rest => do
    let fields ← patterns.mapM (wholeOf run)
    if fields.any fun field => (Pattern.ofField field).accepts subject then pure (some body)
    else chosen run subject rest

def openFailure (text : String) : Run m Bool := do
  complain text
  pure false

def openForWriting (descriptor : Nat) (opening : Opening) (path : ByteText) : Run m Bool := do
  let session ← get
  let place := session.located path.toText
  let taken ← (Disk.look place : m (Except FileError FileKind))
  match taken, opening == .write && session.options.contains 'C' with
  | .ok .file, true => openFailure ("cannot create " ++ path.toText ++ ": File exists")
  | _, _ => do
    let kept ← if opening = .append then do
        match ← (Disk.read place : m (Except FileError String)) with
        | .ok text => pure text
        | .error _ => pure ""
      else pure ""
    match ← (Disk.write place kept : m (Except FileError Unit)) with
    | .error error =>
      let reason := if error = .notFound then "Directory nonexistent" else error.reason
      openFailure ("cannot create " ++ path.toText ++ ": " ++ reason)
    | .ok _ => do
      modify fun session => session.lead descriptor (.file place)
      pure true

def openDevice (descriptor : Nat) : Device → Run m Bool
  | .nothing => do
    modify fun session => session.lead descriptor .nowhere
    pure true
  | .full => do
    modify fun session => session.lead descriptor .full
    pure true
  | .descriptor number => do
    match (← get).channel? number with
    | some channel => do
      modify fun session => session.lead descriptor channel
      pure true
    | none => openFailure ("cannot open /dev/fd/" ++ toString number ++ ": No such file")

def openText (descriptor : Nat) (text : ByteText) : Run m Bool := do
  modify fun session =>
    let (number, opened) := session.openPipe text
    opened.lead descriptor (.pipe number)
  pure true

def redirect (run : Command → Run m Flow) : Redirect → Run m Bool
  | .document descriptor number => do
    let word := Pairs.find? number (← get).documents
    let text ← textOf run (word.getD [])
    openText descriptor text
  | .duplicate descriptor target => do
    let name ← textOf run target
    if name = ['-'] then do
      modify fun session => session.close descriptor
      pure true
    else
      match number? name with
      | none => do
        complain "Syntax error: Bad fd number"
        setFailed
        pure false
      | some number =>
        match (← get).channel? number with
        | some channel => do
          modify fun session => session.lead descriptor channel
          pure true
        | none => openFailure (name.toText ++ ": Bad file descriptor")
  | .file descriptor opening target => do
    let path ← textOf run target
    match device? path with
    | some device => openDevice descriptor device
    | none =>
      if opening = .read then do
        match ← readFile path with
        | .ok text => openText descriptor text
        | .error .isADirectory => openText descriptor []
        | .error .notFound => openFailure ("cannot open " ++ path.toText ++ ": No such file")
        | .error error => openFailure ("cannot open " ++ path.toText ++ ": " ++ error.reason)
      else if opening = .readWrite then do
        let held ← readFile path
        match held with
        | .ok text => openText descriptor text
        | .error _ => openForWriting descriptor .append path
      else openForWriting descriptor opening path

def redirectAll (run : Command → Run m Flow) : List Redirect → Run m Bool
  | [] => pure true
  | first :: rest => do
    let opened ← redirect run first
    if opened && !(← get).failed then redirectAll run rest else pure false

def withRedirects (run : Command → Run m Flow) (redirects : List Redirect) (refused : Flow)
    (body : Run m Flow) : Run m Flow := do
  let before := (← get).descriptors
  let flow ← if ← redirectAll run redirects then body
    else do
      let _ ← finish 2
      pure (if (← get).failed then .stop else refused)
  modify fun session => { session with descriptors := before }
  pure flow

def assignAll (run : Command → Run m Flow) : List (String × Word) → Run m Unit
  | [] => pure ()
  | (name, word) :: rest => do
    let value ← textOf run word
    if (← get).failed then pure ()
    else do
      assignValue name value
      assignAll run rest

def runLines (run : Command → Run m Flow) : Nat → Reader → Run m Flow
  | 0, _ => pure .go
  | lines + 1, reader => do
    let session ← get
    match reader.next session.aliases with
    | .finished => pure .go
    | .broken => do
      complain "Syntax error"
      let _ ← finish 2
      pure .stop
    | .command held after => do
      set { session with
        documents := session.documents ++ after.documents
        documentCount := after.count }
      let flow ← run held
      if flow = .go then runLines run lines after else pure flow

def runText (run : Command → Run m Flow) (text : ByteText) : Run m Flow := do
  let session ← get
  let reader := Reader.ofText text session.documentCount
  let flow ← runLines run (text.length + 1) reader
  modify fun after => { after with line := session.line }
  if text.all fun c => c == ' ' || c == '\n' || c == '\t' then finish 0 else pure flow

def runPending (run : Command → Run m Flow) : List ByteText → Run m Flow
  | [] => pure .go
  | text :: rest => do
    let status := (← get).status
    let flow ← runText run text
    if flow = .stop then pure flow
    else do
      let _ ← finish status
      runPending run rest

-- What a script has asked for at its end. Its own status stays unless that ends with another.
def farewell (run : Command → Run m Flow) : Run m Unit := do
  let session ← get
  match Pairs.find? 0 session.traps, session.signal with
  | some text, none => do
    set { session with traps := [], failed := false }
    let flow ← runText run text
    if flow = .stop then pure () else modify fun after => { after with status := session.status }
  | _, _ => pure ()

def asShell (run : Command → Run m Flow) (body : Command) : Run m Flow := do
  modify fun session => { session with traps := [] }
  let flow ← run body
  farewell run
  pure flow

def piped (run : Command → Run m Flow) (left right : Command) : Run m Flow := do
  let before ← get
  let (number, opened) := before.openPipe []
  set (opened.lead 1 (.pipe number))
  let _ ← asShell run left
  let between ← get
  set ((before.rejoin between).lead 0 (.pipe number))
  let _ ← asShell run right
  let after ← get
  set { (before.rejoin after).dropPipe number with
    status := after.status
    signal := between.signal.or after.signal }
  if (between.signal.or after.signal).isSome then pure .stop else checked .go

structure Call where
  options : List Char
  text : Option ByteText
  name : ByteText
  arguments : List ByteText
  deriving Repr, DecidableEq

def callOf? (words : List ByteText) : Option Call :=
  let isCluster := fun (word : ByteText) =>
    match word with
    | '-' :: c :: rest => c ≠ '-' && (c :: rest).all fun letter => letter = 'c' || letter = 's' || letter = 'l' ||
        (Pairs.find? letter optionNames).isSome
    | _ => false
  let letters := (words.takeWhile isCluster).flatMap (List.drop 1)
  let rest := words.dropWhile isCluster
  let rest := if rest.head? = some ['-', '-'] then rest.drop 1 else rest
  if letters.contains 'c' then
    match rest with
    | [] => none
    | text :: arguments => some ⟨letters, some text, arguments.head?.getD ['s', 'h'], arguments.drop 1⟩
  else if rest.head?.any Options.isOption then none
  else some ⟨letters, none, if letters.contains 's' then ['s', 'h'] else rest.head?.getD ['s', 'h'], rest⟩

def runShell (run : Command → Run m Flow) (words : List ByteText) : Run m Flow := do
  match callOf? words with
  | none => do
    report "sh: 0: Illegal option"
    finish 2
  | some call => do
    let before ← get
    let source ← match call.text, call.options.contains 's', call.arguments with
      | some text, _, _ => pure (some (text, call.arguments))
      | none, false, path :: arguments => do
        match ← readFile path with
        | .ok text => pure (some (text, arguments))
        | .error _ => pure none
      | none, _, arguments => do pure (some (← readAll 0, arguments))
    match source with
    | none => do
      report ("sh: 0: cannot open " ++ ((call.arguments.head?.getD []).toText) ++ ": No such file")
      finish 2
    | some (text, arguments) => do
      let now ← get
      let fresh := Session.start now.environment ""
      set { now with
        values := fresh.values.map fun (name, value) => (name, if name = "PWD" then (now.value? name).getD value else value)
        exported := fresh.exported
        name := call.name
        arguments := arguments
        functions := []
        aliases := []
        traps := []
        fixed := []
        kept := none
        loops := 0
        guarded := false
        options := call.options.filter fun letter => (Pairs.find? letter optionNames).isSome && letter ≠ 's'
        line := 1 }
      let _ ← runText run text
      farewell run
      let after ← get
      set (before.rejoin after)
      match after.signal with
      | some signal => do
        modify fun session => { session with signal := none }
        finish (128 + signal)
      | none => finish (after.status % 256)

def callFunction (run : Command → Run m Flow) (body : Command) (arguments : List ByteText) :
    Run m Flow := do
  let before ← get
  set { before with arguments := arguments, kept := some [], loops := 0 }
  let flow ← run body
  modify fun session =>
    { (session.kept.getD []).foldl Session.restore session with
      arguments := before.arguments
      kept := before.kept
      loops := before.loops }
  pure (match flow with
    | .stop => .stop
    | _ => .go)

def notFound (name : ByteText) : Run m Flow := do
  let place := (← get).located name.toText
  if name.contains '/' && (← (Disk.holds place : m Bool)) then do
    complain (name.toText ++ ": Permission denied")
    finish 126
  else do
    complain (name.toText ++ ": not found")
    finish 127

def programName? (session : Session) (name : ByteText) : Option String :=
  if name.contains '/' then
    if Environment.isProgramDirectory (Calculation.upperPath name).toText then
      some (ByteText.name (Calculation.lastName name))
    else none
  else
    let path := (session.value? "PATH").map fun path => ("PATH", path.toText)
    if Environment.findsPrograms path.toList then some (ByteText.name name) else none

inductive Meaning where
  | keyword
  | alias (value : ByteText)
  | function
  | builtin
  | program
  | nothing
  deriving Repr, DecidableEq

def keywords : List String :=
  ["!", "case", "do", "done", "elif", "else", "esac", "fi", "for", "if", "in", "then", "until", "while",
    "\x7b", "\x7d"]

def specialBuiltins : List String :=
  [":", ".", "break", "continue", "eval", "exec", "exit", "export", "local", "readonly", "return", "set",
    "shift", "times", "trap", "unset"]

def runningBuiltins : List String := ["eval", ".", "exec", "command", "type", "hash"]

def isProgramName (name : String) : Run m Bool := do
  pure (runnerNames.contains name || otherNames.contains name ||
    (program? name : Option (Action m)).isSome)

def meaning (name : ByteText) : Run m Meaning := do
  let session ← get
  let text := ByteText.name name
  let found ← match programName? session name with
    | some known => isProgramName known
    | none => pure false
  pure (
    if keywords.contains text then .keyword
    else match Pairs.find? text session.aliases with
      | some value => .alias value
      | none =>
        if session.functions.any fun entry => entry.1 == text then .function
        else if runningBuiltins.contains text || (builtin? text : Option (Action m)).isSome then .builtin
        else if found then .program
        else .nothing)

def programPath (name : ByteText) : ByteText :=
  if name.contains '/' then name else "/usr/bin/".toList ++ name

def describeMeaning (name : ByteText) : Run m Nat := do
  let tell := fun (text : ByteText) => do
    let _ ← emitTo 1 (name ++ text ++ ['\n'])
    pure 0
  match ← meaning name with
  | .keyword => tell " is a shell keyword".toList
  | .alias value => tell (" is an alias for ".toList ++ value)
  | .function => tell " is a shell function".toList
  | .builtin =>
    tell (if specialBuiltins.contains (ByteText.name name) then " is a special shell builtin".toList
      else " is a shell builtin".toList)
  | .program => tell (" is ".toList ++ programPath name)
  | .nothing => do
    let _ ← tell ": not found".toList
    pure 127

def describeCommand (names : List ByteText) : Run m Flow := do
  match names with
  | [] => finish 0
  | name :: _ =>
    match ← meaning name with
    | .keyword | .function | .builtin => say (name ++ ['\n']) 0
    | .alias value => say ("alias ".toList ++ name ++ ['='] ++ inQuotes value ++ ['\n']) 0
    | .program => say (programPath name ++ ['\n']) 0
    | .nothing => finish 127

def locate (names : List ByteText) : Run m Flow := do
  let statuses ← names.mapM fun name => do
    let found ← match programName? (← get) name with
      | some known => isProgramName known
      | none => pure false
    if found then do
      let _ ← emitTo 1 (programPath name ++ ['\n'])
      pure 0
    else pure 1
  finish (if names.isEmpty then 1 else statuses.foldl max 0)

def withValues (values : List (String × ByteText)) (body : Run m Flow) : Run m Flow := do
  let before ← get
  set { values.foldl (fun session (name, value) => session.assign name value) before with
    exported := values.map Prod.fst ++ before.exported }
  let flow ← body
  modify fun session => { session with values := before.values, exported := before.exported }
  pure flow

def isAssignment (word : ByteText) : Bool := word.contains '='

def assignmentOf (word : ByteText) : String × ByteText :=
  (ByteText.name (word.takeWhile (· ≠ '=')), (word.dropWhile (· ≠ '=')).drop 1)

def runWithEnvironment (call : List ByteText → Run m Flow) (arguments : List ByteText) : Run m Flow := do
  match Options.readLeading ⟨['i', '0'], ['u', 'S', 'C'], [("ignore-environment", 'i'), ("unset", 'u')]⟩ arguments with
  | none => finish 125
  | some options => do
    let empty := options.has 'i' || options.operands.head? = some ['-']
    let operands := if options.operands.head? = some ['-'] then options.operands.drop 1 else options.operands
    let values := (operands.takeWhile isAssignment).map assignmentOf
    let command := operands.dropWhile isAssignment
    let before ← get
    let dropped := (options.valuesOf 'u').map ByteText.name
    let kept := if empty then [] else before.exported.filter fun name => !dropped.contains name
    set { before with exported := kept }
    let flow ← withValues values (if command.isEmpty then printVariables [] else call command)
    modify fun session => { session with exported := before.exported }
    pure flow

def quotedWords : Nat → ByteText → Option ByteText → Option (List ByteText)
  | 0, _, _ => none
  | _, [], current => some current.toList
  | room + 1, c :: rest, current =>
    let held := current.getD []
    if c = ' ' || c = '\t' || c = '\n' then
      (quotedWords room rest none).map fun others => current.toList ++ others
    else if c = '\'' || c = '"' then
      if rest.contains c then
        quotedWords room ((rest.dropWhile (· ≠ c)).drop 1) (some (held ++ rest.takeWhile (· ≠ c)))
      else none
    else if c = '\\' then quotedWords room (rest.drop 1) (some (held ++ rest.take 1))
    else quotedWords room rest (some (held ++ [c]))

def substituted (mark value word : ByteText) : Nat → ByteText
  | 0 => word
  | room + 1 =>
    match word with
    | [] => []
    | c :: rest =>
      if mark.isPrefixOf word && !mark.isEmpty then
        value ++ substituted mark value (word.drop mark.length) room
      else c :: substituted mark value rest room

def worstOf (status next : Nat) : Nat :=
  if next = 0 then status else if next = 126 || next = 127 then next else if next = 255 then 124 else 123

def runEach (call : List ByteText → Run m Flow) : Nat → List (List ByteText) → Run m Flow
  | status, [] => finish status
  | status, command :: rest => do
    let descriptors := (← get).descriptors
    modify fun session => session.lead 0 .nowhere
    let flow ← call command
    modify fun session => { session with descriptors := descriptors }
    let next := worstOf status (← get).status
    if flow ≠ .go then pure flow
    else if next = 124 || next = 126 || next = 127 then finish next
    else runEach call next rest

def runForWords (call : List ByteText → Run m Flow) (arguments : List ByteText) : Run m Flow := do
  match Options.readLeading ⟨['0', 'r', 't', 'x', 'p'], ['n', 'I', 'L', 'd', 'P', 's', 'E', 'a'],
      [("null", '0'), ("no-run-if-empty", 'r'), ("max-args", 'n'), ("max-lines", 'L'), ("delimiter", 'd'),
        ("max-procs", 'P')]⟩ arguments with
  | none => finish 1
  | some options => do
    let text ← readAll 0
    let command := if options.operands.isEmpty then ["echo".toList] else options.operands
    let apartBy := fun (c : Char) => (cutLines (text.map fun other => if other = c then '\n' else
        if other = '\n' then c else other)).map fun line =>
      (splitEnd line).1.map fun other => if other = '\n' then c else if other = c then '\n' else other
    let delimiter : Option Char := if options.has '0' then some '\x00'
      else (options.value? 'd').bind fun text => (Format.unescape text).1.head?
    let lines := (ByteText.lines text).filter fun line => !(line.all fun c => c = ' ' || c = '\t')
    match delimiter, options.value? 'I' with
    | some c, none | some c, some [] => runGroups call command options (apartBy c)
    | none, none | none, some [] =>
      if (options.value? 'L').isSome then
        match lines.mapM fun line => quotedWords (line.length + 1) line none with
        | none => finish 1
        | some groups => runEach call 0 (groups.map fun words => command ++ words)
      else match quotedWords (text.length + 1) text none with
        | none => do
          report "xargs: unmatched quote; by default quotes are special to xargs unless you use the -0 option"
          finish 1
        | some words => runGroups call command options words
    | delimiter, some mark =>
      let values := match delimiter with
        | some c => apartBy c
        | none => lines.map fun (line : ByteText) =>
          ((quotedWords (line.length + 1)
            ((line.dropWhile fun c => c = ' ' || c = '\t').flatMap fun c =>
              if c = ' ' || c = '\t' then ['\\', c] else [c]) none).getD []).flatten
      runEach call 0 (values.map fun value => command.map fun word => substituted mark value word word.length)
where
  runGroups (call : List ByteText → Run m Flow) (command : List ByteText) (options : Options)
      (words : List ByteText) : Run m Flow :=
    match (options.value? 'n').map number? with
    | some none | some (some 0) => finish 1
    | some (some count) =>
      runEach call 0 ((if words.isEmpty && !options.has 'r' then [[]] else Bytes.chunked count words).map
        fun group => command ++ group)
    | none => if words.isEmpty && options.has 'r' then finish 0 else runEach call 0 [command ++ words]

def runProgram (run : Command → Run m Flow) (call : List ByteText → Run m Flow) (name : ByteText)
    (arguments : List ByteText) : Run m Flow := do
  match programName? (← get) name with
  | none => notFound name
  | some "sh" | some "dash" | some "bash" => runShell run arguments
  | some "env" => runWithEnvironment call arguments
  | some "xargs" => runForWords call arguments
  | some "which" => locate arguments
  | some "timeout" =>
    match Options.readLeading ⟨['v'], ['k', 's'], [("kill-after", 'k'), ("signal", 's')]⟩ arguments with
    | some ⟨_, _, _ :: command⟩ => if command.isEmpty then finish 125 else call command
    | _ => finish 125
  | some "nice" | some "nohup" | some "stdbuf" => call (arguments.dropWhile Options.isOption)
  | some text =>
    match program? text with
    | some action => action arguments
    | none => notFound name

def callProgram (run : Command → Run m Flow) : Nat → List ByteText → Run m Flow
  | 0, _ => finish 127
  | _, [] => finish 0
  | depth + 1, name :: arguments => runProgram run (callProgram run depth) name arguments

def callDepth : Nat := 16

def callFields (run : Command → Run m Flow) : Nat → Bool → List ByteText → Run m Flow
  | 0, _, _ => finish 127
  | _, _, [] => finish 0
  | depth + 1, plain, name :: arguments => do
    let session ← get
    match ByteText.name name with
    | "eval" =>
      let words := if arguments.head? = some ['-', '-'] then arguments.drop 1 else arguments
      runText run ([' '].intercalate words)
    | "." =>
      match arguments with
      | [] => pure .go
      | path :: _ => do
        match ← readFile path with
        | .ok text => do
          let flow ← runText run text
          pure (if flow = .back then .go else flow)
        | .error _ => endWith (".: cannot open " ++ path.toText ++ ": No such file")
    | "exec" => do
      if arguments.isEmpty then finish 0
      else do
        let _ ← callProgram run callDepth arguments
        modify fun session => { session with traps := session.traps.filter fun entry => entry.1 ≠ 0 }
        pure .stop
    | "command" =>
      match arguments with
      | ['-', 'v'] :: names | ['-', 'p', 'v'] :: names => describeCommand names
      | ['-', 'V'] :: names => do
        let statuses ← names.mapM describeMeaning
        finish (statuses.foldl max 0)
      | ['-', 'p'] :: words | ['-', '-'] :: words => callFields run depth true words
      | words => callFields run depth true words
    | "type" => do
      let statuses ← arguments.mapM describeMeaning
      finish (statuses.foldl max 0)
    | "hash" => do
      let meanings ← (arguments.filter fun name => !Options.isOption name).mapM meaning
      finish (isSuccess (!meanings.contains .nothing))
    | text =>
      match if plain then none else session.functions.find? fun entry => entry.1 == text with
      | some (_, body) => callFunction run body arguments
      | none =>
        match builtin? text with
        | some action => action arguments
        | none => callProgram run callDepth (name :: arguments)

def isSpecial (fields : List ByteText) : Bool :=
  fields.head?.any fun name => specialBuiltins.contains (ByteText.name name)

def isFunction (session : Session) (fields : List ByteText) : Bool :=
  fields.head?.any fun name => session.functions.any fun entry => entry.1 == ByteText.name name

def failedExpansion : Run m Flow := do
  let _ ← finish 2
  pure .stop

-- Runs a command whose words are known. Assignments before it hold while it runs only, unless it is a
-- special builtin; redirections do so unless it opens descriptors for the script.
def callWith (run : Command → Run m Flow) (assignments : List (String × Word)) (redirects : List Redirect)
    (fields : List ByteText) : Run m Flow := do
  let special := isSpecial fields
  let body : Run m Flow := do
    let before ← get
    assignAll run assignments
    if (← get).failed then failedExpansion
    else do
      modify fun session =>
        { session with
          exported := (if special then [] else assignments.map Prod.fst) ++ session.exported }
      let flow ← callFields run callDepth false fields
      let after ← get
      if special then
        pure (if flow = .go && after.failed then .stop else flow)
      else do
        set { (assignments.map fun entry => (entry.1, before.value? entry.1)).foldl Session.restore after with
          exported := if assignments.isEmpty then after.exported else before.exported }
        pure flow
  if fields = ["exec".toList] then
    if ← redirectAll run redirects then body else failedExpansion
  else withRedirects run redirects (if special && !isFunction (← get) fields then .stop else .go) body

def simple (run : Command → Run m Flow) (line : Nat) (assignments : List (String × Word))
    (words : List Word) (redirects : List Redirect) : Run m Flow := do
  modify fun session => { session with line := line, captured := none }
  let fields ← allFields run words
  if (← get).failed then failedExpansion
  else if fields.isEmpty then do
    let flow ← withRedirects run redirects .go do
      assignAll run assignments
      if (← get).failed then failedExpansion
      else finish ((← get).captured.getD 0)
    checked flow
  else do
    let flow ← callWith run assignments redirects fields
    let pending := (← get).pending
    if pending.isEmpty then checked flow
    else do
      modify fun session => { session with pending := [] }
      let after ← runPending run pending
      if after = .go then checked flow else pure after

def run : Nat → Command → Run m Flow
  | 0, _ => failedExpansion
  | depth + 1, command => do
    if (← get).options.contains 'n' then pure .go
    else match command with
    | .nothing => pure .go
    | .simple line assignments words redirects => simple (run depth) line assignments words redirects
    | .redirected body redirects => do
      checked (← withRedirects (run depth) redirects .go (run depth body))
    | .pipe left right => piped (run depth) left right
    | .negated body => do
      let flow ← guarded (run depth body)
      let status := (← get).status
      if flow = .go then finish (isSuccess (status ≠ 0)) else pure flow
    | .both left right => do
      let flow ← guarded (run depth left)
      if flow = .go && (← get).status == 0 then run depth right else pure flow
    | .either left right => do
      let flow ← guarded (run depth left)
      if flow = .go && (← get).status ≠ 0 then run depth right else pure flow
    | .sequence first second => do
      let flow ← run depth first
      if flow = .go then run depth second else pure flow
    | .background body => do
      let descriptors := (← get).descriptors
      modify fun session => session.lead 0 .nowhere
      let flow ← apart (asShell (run depth) body)
      modify fun session =>
        { session with descriptors := descriptors, beside := some session.exitStatus.number, signal := none }
      let _ ← finish 0
      pure (if flow = .stop then .go else flow)
    | .group body => run depth body
    | .subshell body => do
      checked (← apart (asShell (run depth) body))
    | .branch condition consequence alternative => do
      let flow ← guarded (run depth condition)
      if flow ≠ .go then pure flow
      else if (← get).status == 0 then run depth consequence
      else match alternative with
        | .nothing => finish 0
        | held => run depth held
    | .loop untilTrue condition body =>
      inLoop (repeated untilTrue (run depth condition) (run depth body) depth 0)
    | .each name words body => do
      let values ← match words with
        | some held => allFields (run depth) held
        | none => pure (← get).arguments
      if (← get).failed then failedExpansion
      else do
        let _ ← finish 0
        inLoop (eachValue name (run depth body) values)
    | .choice subject arms => do
      let text ← textOf (run depth) subject
      if (← get).failed then failedExpansion
      else do
        let status := (← get).status
        match ← chosen (run depth) text arms with
        | some .nothing => finish 0
        | some body => do
          let _ ← finish status
          run depth body
        | none => finish 0
    | .function name body => do
      modify fun session =>
        { session with functions := (name, body) :: session.functions.filter fun entry => entry.1 != name }
      finish 0

def runDepth : Nat := 100000

def runScript (environment : Environment) (text : String) : m (ExitStatus × List UInt8) := do
  let directory ← (Disk.workingDirectory : m String)
  let whole : Run m Unit := do
    let _ ← runText (run runDepth) (ByteText.ofString text)
    farewell (run runDepth)
  let (_, session) ← whole.run (.start environment directory)
  pure (session.exitStatus, (session.pipeText 0).bytes)

end CompletionRules.Shell
