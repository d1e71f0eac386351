import CompletionRules.Shell.Pattern
import CompletionRules.Shell.Session
import CompletionRules.Shell.Tool.Plan
import CompletionRules.Text.Cited

namespace CompletionRules.Shell.Files

variable {m : Type → Type} [Monad m] [Disk m]

def cited (path : ByteText) : String := Text.cited path.toText

def look (path : ByteText) : Run m (Except FileError FileKind) := do
  let place := (← get).located path.toText
  let found ← (Disk.look place : m (Except FileError FileKind))
  pure (if (device? path).isSome then .ok .file else found)

def isDirectory (path : ByteText) : Run m Bool := do
  match ← look path with
  | .ok .directory => pure true
  | _ => pure false

def namesIn (path : ByteText) : Run m (List ByteText) := do
  let place := (← get).located path.toText
  match ← (Disk.list place : m (Except FileError (List String))) with
  | .ok names => pure (ByteText.sorted (names.map ByteText.ofString))
  | .error _ => pure []

def under (directory name : ByteText) : ByteText :=
  ByteText.ofString (Path.join directory.toText name.toText)

def forEach (change : ByteText → Run m Nat) (operands : List ByteText) : Run m Flow := do
  let statuses ← operands.mapM change
  finish (statuses.foldl max 0)

def complaint (text : String) : Run m Nat := do
  report text
  pure 1

def changed (path : ByteText) (change : String → m (Except FileError Unit)) (refusal : String) : Run m Nat := do
  let place := (← get).located path.toText
  match ← (change place : m (Except FileError Unit)) with
  | .ok _ => pure 0
  | .error error => complaint (refusal ++ cited path ++ ": " ++ error.reason)

def list (arguments : List ByteText) : Run m Flow := do
  match Options.read ⟨['1', 'a', 'A', 'd', 'p', 'F', 'r', 'U', 'C', 'q', 't', 'f'], [],
      [("all", 'a'), ("almost-all", 'A'), ("directory", 'd'), ("reverse", 'r')]⟩ arguments with
  | none => finish 2
  | some options => do
    let operands := if options.operands.isEmpty then [['.']] else ByteText.sorted options.operands
    let ordered := fun (names : List ByteText) => if options.has 'r' then names.reverse else names
    let marked := fun (directory name : ByteText) => do
      let isMarked := options.has 'p' || options.has 'F'
      pure (if isMarked && (← isDirectory (under directory name)) then name ++ ['/'] else name)
    let kinds ← operands.mapM fun operand => do pure (operand, ← look operand)
    let missing ← kinds.mapM fun (operand, kind) => do
      match kind with
      | .error error => do
        report ("ls: cannot access " ++ cited operand ++ ": " ++ error.reason)
        pure true
      | .ok _ => pure false
    let isListed := fun (kind : Except FileError FileKind) => match kind with
      | .ok .directory => !options.has 'd'
      | _ => false
    let files := kinds.filterMap fun (operand, kind) => match kind with
      | .error _ => none
      | .ok _ => if isListed kind then none else some operand
    let directories := kinds.filterMap fun (operand, kind) => if isListed kind then some operand else none
    let shownFiles ← (ordered files).mapM (marked [])
    let blocks ← (ordered directories).mapM fun directory => do
      let names := (if options.has 'a' then [['.'], ['.', '.']] else []) ++ (← namesIn directory)
      let shown := (ByteText.sorted names).filter fun name =>
        options.has 'a' || options.has 'A' || name.head? ≠ some '.'
      let lines ← (ordered shown).mapM (marked directory)
      pure ((if operands.length > 1 then directory ++ [':', '\n'] else []) ++ ByteText.ofLines lines)
    let parts := (if shownFiles.isEmpty then [] else [ByteText.ofLines shownFiles]) ++ blocks
    say (['\n'].intercalate parts) (if missing.any id then 2 else 0)

def removeTree : Nat → ByteText → Run m Nat
  | 0, _ => pure 1
  | depth + 1, path => do
    if ← isDirectory path then do
      let statuses ← (← namesIn path).mapM fun name => removeTree depth (under path name)
      let last ← changed path Disk.removeDirectory "rm: cannot remove "
      pure (statuses.foldl max last)
    else changed path Disk.remove "rm: cannot remove "

def treeDepth : Nat := 256

def remove (arguments : List ByteText) : Run m Flow := do
  match Options.read ⟨['f', 'r', 'R', 'v', 'i', 'd'], [],
      [("force", 'f'), ("recursive", 'r'), ("verbose", 'v'), ("dir", 'd')]⟩ arguments with
  | none => finish 1
  | some options =>
    if options.operands.isEmpty && !options.has 'f' then do
      report "rm: missing operand\nTry 'rm --help' for more information."
      finish 1
    else forEach (fun path => do
      match ← look path with
      | .error .notFound | .error .notADirectory =>
        if options.has 'f' then pure 0
        else complaint ("rm: cannot remove " ++ cited path ++ ": No such file or directory")
      | .ok .directory =>
        if options.has 'r' || options.has 'R' then removeTree treeDepth path
        else if options.has 'd' then changed path Disk.removeDirectory "rm: cannot remove "
        else complaint ("rm: cannot remove " ++ cited path ++ ": Is a directory")
      | _ => changed path Disk.remove "rm: cannot remove ") options.operands

def waysTo (path : ByteText) : List ByteText :=
  let isAbsolute := path.head? = some '/'
  let components := (Text.pieces (· == '/') path).filter fun piece => !piece.isEmpty
  (List.range components.length).map fun index =>
    (if isAbsolute then ['/'] else []) ++ ['/'].intercalate (components.take (index + 1))

def makeDirectories (arguments : List ByteText) : Run m Flow := do
  match Options.read ⟨['p', 'v'], ['m'], [("parents", 'p'), ("mode", 'm'), ("verbose", 'v')]⟩ arguments with
  | none => finish 1
  | some options =>
    if options.operands.isEmpty then do
      report "mkdir: missing operand\nTry 'mkdir --help' for more information."
      finish 1
    else forEach (fun path => do
      if options.has 'p' then do
        let statuses ← (waysTo path).mapM fun way => do
          if ← isDirectory way then pure 0
          else changed way Disk.makeDirectory "mkdir: cannot create directory "
        pure (statuses.foldl max 0)
      else changed path Disk.makeDirectory "mkdir: cannot create directory ") options.operands

def removeDirectories (arguments : List ByteText) : Run m Flow := do
  match Options.read ⟨['p', 'v'], [], [("parents", 'p')]⟩ arguments with
  | none => finish 1
  | some options =>
    forEach (fun path => changed path Disk.removeDirectory "rmdir: failed to remove ") options.operands

def touch (arguments : List ByteText) : Run m Flow := do
  match Options.read ⟨['a', 'c', 'm'], ['d', 't', 'r'], [("no-create", 'c')]⟩ arguments with
  | none => finish 1
  | some options =>
    forEach (fun path => do
      match ← look path with
      | .ok _ => pure 0
      | .error _ =>
        if options.has 'c' then pure 0
        else changed path (fun place => Disk.write place "") "touch: cannot touch ") options.operands

def copyTree (tool : String) : Nat → ByteText → ByteText → Run m Nat
  | 0, _, _ => pure 1
  | depth + 1, source, goal => do
    if ← isDirectory source then do
      let made ← if ← isDirectory goal then pure 0
        else changed goal Disk.makeDirectory (tool ++ ": cannot create directory ")
      let statuses ← (← namesIn source).mapM fun name =>
        copyTree tool depth (under source name) (under goal name)
      pure (statuses.foldl max made)
    else do
      match ← readFile source with
      | .error error => complaint (tool ++ ": cannot open " ++ cited source ++ " for reading: " ++ error.reason)
      | .ok text =>
        changed goal (fun place => Disk.write place text.toText) (tool ++ ": cannot create regular file ")

def transfer (tool : String) (move : ByteText → ByteText → Run m Nat) (operands : List ByteText) :
    Run m Flow := do
  match operands.reverse with
  | [] => do
    report (tool ++ ": missing file operand\nTry '" ++ tool ++ " --help' for more information.")
    finish 1
  | [only] => do
    report (tool ++ ": missing destination file operand after " ++ cited only ++ "\nTry '" ++ tool ++
      " --help' for more information.")
    finish 1
  | target :: sources => do
    let isInto ← isDirectory target
    if sources.length > 1 && !isInto then do
      report (tool ++ ": target " ++ cited target ++ ": Not a directory")
      finish 1
    else forEach (fun source =>
      let name := ByteText.ofString (Path.lastComponent source.toText)
      move source (if isInto then under target name else target)) sources.reverse

def missingSource (tool : String) (source : ByteText) : Run m (Option Nat) := do
  match ← look source with
  | .ok _ => pure none
  | .error error => do
    report (tool ++ ": cannot stat " ++ cited source ++ ": " ++ error.reason)
    pure (some 1)

def copy (arguments : List ByteText) : Run m Flow := do
  match Options.read ⟨['a', 'd', 'f', 'i', 'n', 'p', 'r', 'R', 'v', 'T', 'L', 'P', 'u'], [],
      [("recursive", 'r'), ("archive", 'a'), ("force", 'f')]⟩ arguments with
  | none => finish 1
  | some options =>
    transfer "cp" (fun source goal => do
      match ← missingSource "cp" source with
      | some status => pure status
      | none => do
        let deep := options.has 'r' || options.has 'R' || options.has 'a'
        if !deep && (← isDirectory source) then
          complaint ("cp: -r not specified; omitting directory " ++ cited source)
        else if options.has 'n' && (match ← look goal with | .ok _ => true | .error _ => false) then pure 0
        else copyTree "cp" treeDepth source goal) options.operands

def rename (arguments : List ByteText) : Run m Flow := do
  match Options.read ⟨['f', 'i', 'n', 'v', 'T', 'u'], [], [("force", 'f')]⟩ arguments with
  | none => finish 1
  | some options =>
    transfer "mv" (fun source goal => do
      match ← missingSource "mv" source with
      | some status => pure status
      | none => do
        if source = goal then complaint ("mv: " ++ cited source ++ " and " ++ cited goal ++ " are the same file")
        else do
          let copied ← copyTree "mv" treeDepth source goal
          if copied = 0 then removeTree treeDepth source else pure copied) options.operands

def splitOutput (arguments : List ByteText) : Run m Flow := do
  match Options.read ⟨['a', 'i', 'p'], [], [("append", 'a')]⟩ arguments with
  | none => finish 1
  | some options => do
    let text ← readAll 0
    let _ ← emitTo 1 text
    forEach (fun path => do
      let before ← if options.has 'a' then readFile path else pure (.ok [])
      let start := match before with
        | .ok held => held
        | .error _ => []
      match ← writeFile path (start ++ text) with
      | .ok _ => pure 0
      | .error error => complaint ("tee: " ++ Text.citedIfNeeded path.toText ++ ": " ++ error.reason)) options.operands

def temporary (arguments : List ByteText) : Run m Flow := do
  match Options.read ⟨['d', 'u', 'q', 't'], ['p'], [("directory", 'd'), ("dry-run", 'u'), ("tmpdir", 'p')]⟩ arguments with
  | none => finish 1
  | some options => do
    let session ← get
    let number := ByteText.ofNat (1000000000 + session.pipeCount)
    let directory := (options.value? 'p').getD ((session.value? "TMPDIR").getD "/tmp".toList)
    let path := match options.operands with
      | [] => under directory ("tmp.".toList ++ number)
      | pattern :: _ =>
        let kept := (pattern.reverse.dropWhile (· == 'X')).reverse
        let name := kept ++ number.drop (number.length - min 10 (pattern.length - kept.length))
        if (options.value? 'p').isSome || options.has 't' then under directory name else name
    let made ← if options.has 'u' then pure 0
      else if options.has 'd' then changed path Disk.makeDirectory "mktemp: failed to create directory via template "
      else changed path (fun place => Disk.write place "") "mktemp: failed to create file via template "
    if made = 0 then say (path ++ ['\n']) 0 else finish 1

def settled (components : List String) : List String :=
  components.foldl (fun met component =>
    if component = "." then met else if component = ".." then met.dropLast else met ++ [component]) []

def absolute (path : ByteText) : Run m ByteText := do
  let base ← (Disk.workingDirectory : m String)
  let components := Path.components (Path.join base ((← get).located path.toText))
  pure (ByteText.ofString ("/" ++ Text.joined "/" (settled components)))

def realPaths (arguments : List ByteText) : Run m Flow := do
  match Options.read ⟨['e', 'm', 's', 'q', 'f', 'n'], [], []⟩ arguments with
  | none => finish 1
  | some options =>
    forEach (fun path => do
      let _ ← emitTo 1 ((← absolute path) ++ ['\n'])
      pure 0) options.operands

inductive Wanted where
  | named (pattern : Pattern)
  | kind (wanted : FileKind)

def Wanted.holds (name : ByteText) (kind : FileKind) : Wanted → Bool
  | .named pattern => pattern.accepts name
  | .kind wanted => kind = wanted

structure Tour where
  starts : List ByteText
  least : Nat
  most : Nat
  wanted : List Wanted

def tourFrom : Nat → List ByteText → Tour → Option Tour
  | 0, _, _ => none
  | _, [], tour => some tour
  | room + 1, word :: rest, tour =>
    match ByteText.name word, rest with
    | "-name", pattern :: others =>
      tourFrom room others
        { tour with wanted := tour.wanted ++ [.named (Pattern.ofField (Field.ofText pattern false))] }
    | "-type", ['f'] :: others => tourFrom room others { tour with wanted := tour.wanted ++ [.kind .file] }
    | "-type", ['d'] :: others => tourFrom room others { tour with wanted := tour.wanted ++ [.kind .directory] }
    | "-maxdepth", depth :: others =>
      (number? depth).bind fun most => tourFrom room others { tour with most := most }
    | "-mindepth", depth :: others =>
      (number? depth).bind fun least => tourFrom room others { tour with least := least }
    | "-print", _ => tourFrom room rest tour
    | text, _ =>
      if text.startsWith "-" then none else tourFrom room rest { tour with starts := tour.starts ++ [word] }

def visit (tour : Tour) : Nat → Nat → ByteText → Run m (List ByteText)
  | 0, _, _ => pure []
  | room + 1, depth, path => do
    let name := ByteText.ofString (Path.lastComponent path.toText)
    match ← look path with
    | .error _ => pure []
    | .ok kind => do
      let shown := if tour.least ≤ depth && tour.wanted.all (Wanted.holds name kind) then [path] else []
      if kind = .directory && depth < tour.most then do
        let below ← (← namesIn path).mapM fun name =>
          visit tour room (depth + 1) (if path.getLast? = some '/' then path ++ name else path ++ ['/'] ++ name)
        pure (shown ++ below.flatten)
      else pure shown

def find (arguments : List ByteText) : Run m Flow := do
  match tourFrom (arguments.length + 1) arguments ⟨[], 0, treeDepth, []⟩ with
  | none => finish 1
  | some tour => do
    let starts := if tour.starts.isEmpty then [['.']] else tour.starts
    let missing ← starts.mapM fun start => do
      match ← look start with
      | .ok _ => pure false
      | .error error => do
        report ("find: " ++ cited start ++ ": " ++ error.reason)
        pure true
    let found ← starts.mapM (visit tour treeDepth 0)
    say (ByteText.ofLines found.flatten) (if missing.any id then 1 else 0)

end CompletionRules.Shell.Files
