import CompletionRules.Command.Failure
import CompletionRules.Command.Invocation
import CompletionRules.Command.Note
import CompletionRules.Command.Sample
import CompletionRules.Install.Staging

-- A run of the command: its settings are loaded, then its task is done. What comes out is the number
-- that the command ends with. A run that fails says why and ends with one.

namespace CompletionRules.Command

structure Context where
  environment : Environment
  settings : Settings
  journal : Journal
  plain : Bool
  deriving Repr, DecidableEq

variable {m : Type → Type} [Monad m] [Machine m]

def record (journal : Journal) (notes : List Note) : m Unit :=
  Machine.complain (journal.lines notes)

def orFail {α ε : Type} (failure : ε → Failure) (result : Except ε α) : ExceptT Failure m α :=
  ExceptT.mk (pure (result.mapError failure))

def announceSaved (path : String) : m Unit := Machine.print ("Saved " ++ path ++ "\n")

def readText (path : String) : ExceptT Failure m String := do
  orFail (.notRead path) (← if path = standardPath then Machine.input else Disk.read path)

def writeText (path text : String) : ExceptT Failure m Unit := do
  if path = standardPath then Machine.print text
  else orFail (.notWritten path) (← Disk.write path text)

namespace Context

def loadRules (context : Context) (text : String) : ExceptT LoadError m Document := do
  let value ← ExceptT.mk (pure (Document.valueOf text))
  let document ← ExceptT.mk (pure (Document.ofValue value))
  record context.journal (document.loadNotes value)
  pure document

def compileRules (context : Context) (path : String) (choices : Compilation.Choices) :
    ExceptT Failure m Compilation := do
  let text ← readText path
  match ← (context.loadRules text).run with
  | .error error => do
    record context.journal [error.note]
    throw (.notLoaded path error)
  | .ok document => do
    let made := document.compile choices
    record context.journal (made.notes document)
    pure made

def warn (context : Context) (made : Compilation) : m Unit :=
  Machine.complain (String.join (made.diagnostics.map (warningLine context.plain)))

def generate (context : Context) (rules output : String) (choices : Compilation.Choices) :
    ExceptT Failure m Nat := do
  let made ← context.compileRules rules choices
  writeText output made.script
  if output ≠ standardPath then announceSaved output
  context.warn made
  pure 0

def preview (context : Context) (rules : String) (functionName : Option String) :
    ExceptT Failure m Nat := do
  let made ← context.compileRules rules ⟨functionName, none⟩
  writeText standardPath made.script
  context.warn made
  pure 0

def verdict (rules : String) (diagnostics : List Diagnostic) : String × Nat :=
  if diagnostics.isEmpty then (rules ++ " is valid\n", 0)
  else
    (String.join (diagnostics.map fun diagnostic => diagnostic.text ++ "\n") ++
      rules ++ " has " ++ toString diagnostics.length ++ " problem(s)\n", 1)

def validate (context : Context) (rules : String) : ExceptT Failure m Nat := do
  let made ← context.compileRules rules ⟨none, none⟩
  let (text, code) := verdict rules made.diagnostics
  Machine.print text
  pure code

def runSource (context : Context) (command : String) : m (Option String) := do
  if context.environment.findsPrograms then
    let (status, output) ← Machine.shell context.environment command
    if status.succeeded then pure (some (Text.decodeLossy output))
    else do
      record context.journal [.detail .simulate ("source exited with " ++ status.text)]
      pure none
  else do
    record context.journal
      [.detail .simulate ("failed to run source: " ++ FileError.notFound.message)]
    pure none

def test (context : Context) (line rules : String) : ExceptT Failure m Nat := do
  match Request.ofLine? line with
  | none => throw (.nothingToComplete line)
  | some request => do
    let made ← context.compileRules rules ⟨none, none⟩
    record context.journal (made.table.matchNotes request)
    let candidates ← made.table.complete context.runSource request
    Machine.print (String.join (candidates.map (· ++ "\n")))
    pure 0

def writeSample (rules : String) (force : Bool) : ExceptT Failure m Nat := do
  if !force && (← Disk.holds rules) then throw (.alreadyThere rules)
  orFail (.notWritten rules) (← Disk.write rules sampleRules)
  announceSaved rules
  pure 0

def installer (context : Context) (program : String) (script : Option String) :
    m Installer := do
  let complete ← Machine.hasAllRights
  pure
    { program := program
      script := script
      directories := context.settings.directories.getD
        (Installer.defaultDirectories (context.environment.value? "HOME"))
      elevated := context.settings.useSudo.getD true && !complete }

def runTool (context : Context) (command : List String) : ExceptT Failure m Unit := do
  record context.journal [.detail .install ("running: " ++ Text.joined " " command)]
  orFail .install (← Installer.run context.environment command)

def putInPlace (context : Context) (installer : Installer) (force dry : Bool) :
    ExceptT Failure m Nat := do
  if dry then
    let command ← orFail .install (← installer.installCommand)
    Machine.print (Text.joined " " command ++ "\n")
  else
    let (command, target) ← orFail .install (← installer.prepare force)
    context.runTool command
    announceSaved target
  pure 0

def install (context : Context) (program script : String) (force dry : Bool) :
    ExceptT Failure m Nat := do
  if script = standardPath then
    let text ← readText standardPath
    let path ← orFail .install (← Installer.stage context.environment text)
    record context.journal [.detail .install ("staged script at " ++ path)]
    let installer ← context.installer program (some path)
    let code ← try context.putInPlace installer force dry
      catch failure => do
        Installer.unstage path
        throw failure
    Installer.unstage path
    pure code
  else
    let installer ← context.installer program (some script)
    context.putInPlace installer force dry

def uninstall (context : Context) (program : String) (dry : Bool) : ExceptT Failure m Nat := do
  let installer ← context.installer program none
  if dry then
    Machine.print (Text.joined " " installer.uninstallCommand ++ "\n")
  else
    context.runTool installer.uninstallCommand
    Machine.print
      ("Removed " ++ program ++ " from " ++ toString installer.directories.length ++
        " director(ies)\n")
  pure 0

def perform (context : Context) : Task → ExceptT Failure m Nat
  | .generate rules output functionName wrapper =>
    context.generate rules (outputPath rules output)
      ⟨functionName, wrapper <|> context.settings.wrapper⟩
  | .preview rules functionName => context.preview rules functionName
  | .validate rules => context.validate rules
  | .test line rules => context.test line rules
  | .init rules force => writeSample rules force
  | .install program script force dry => context.install program script force dry
  | .uninstall program dry => context.uninstall program dry

end Context

def enableAll (journal : Journal) (topics : List Topic) : Journal :=
  topics.foldl (fun journal topic => (journal.enable topic).1) journal

def pathText : Option String → String
  | none => "None"
  | some path => "Some(" ++ Text.shown path ++ ")"

-- Settings that are wrong end the run only where they were named; elsewhere the default ones stand
-- in. The topics that the settings ask for are on from here on.
def loadSettings (environment : Environment) (journal : Journal) (asked : Invocation) :
    ExceptT Failure m (Settings × Journal) := do
  let file ← SettingsFile.load environment asked.noSettings asked.settings
  match file.error with
  | some error => do
    let path := file.path.getD ""
    if file.named then throw (.settings path error)
    record journal [.warning ("ignoring " ++ path ++ ": " ++ error.message)]
    pure (file.settings, journal)
  | none => do
    let journal := enableAll journal file.settings.topics
    record journal
      [.detail .load
        ("settings loaded from " ++ pathText file.path ++ "; tracing " ++
          toString journal.enabled.length ++ " event class(es)")]
    pure (file.settings, journal)

def runTask (environment : Environment) (asked : Invocation) : ExceptT Failure m Nat := do
  let (settings, journal) ←
    loadSettings environment (enableAll ⟨[], true⟩ asked.topics) asked
  Context.perform ⟨environment, settings, journal, asked.plain⟩ asked.task

def runInvocation (environment : Environment) (asked : Invocation) : m Nat := do
  match ← (runTask environment asked).run with
  | .ok code => pure code
  | .error failure => do
    Machine.complain (errorLine asked.plain failure)
    pure 1

def run (environment : Environment) (words : List String) : m Nat :=
  match Invocation.ofWords environment words with
  | .error refusal => pure refusal.exitCode
  | .ok asked => runInvocation environment asked

end CompletionRules.Command
