import CompletionRules.Install.Tools
import CompletionRules.Text.Shown

-- Putting the script of one program where the shell looks for it, and taking it away again. The first of the
-- directories that exists is installed to; removal goes through all of them.

namespace CompletionRules

inductive InstallError where
  | noDirectory
  | noScript
  | scriptNotFound (path : String)
  | targetExists (path : String)
  | notStaged (path : String) (error : FileError)
  | notStarted (command : List String) (error : FileError)
  | failed (command : List String) (status : ExitStatus)
  deriving Repr, DecidableEq

def InstallError.message : InstallError → String
  | .noDirectory => "cannot determine system completions directory"
  | .noScript => "no script to install"
  | .scriptNotFound path => "cannot find script: " ++ path
  | .targetExists path => "file exists: " ++ path ++ " (use --force to overwrite)"
  | .notStaged path error =>
    "failed to stage script: " ++ error.message ++ " at path " ++ Text.shown path
  | .notStarted command error =>
    "failed to run '" ++ Text.joined " " command ++ "': " ++ error.message
  | .failed command status =>
    "'" ++ Text.joined " " command ++ "' failed (" ++ status.text ++ ")"

structure Installer where
  program : String
  script : Option String
  directories : List String
  elevated : Bool
  deriving Repr, DecidableEq

namespace Installer

def defaultDirectories (home : Option String) : List String :=
  ["/usr/share/bash-completion/completions", "/usr/local/etc/bash_completion.d"] ++
    match home with
    | some path =>
      [Path.join path ".local/share/bash-completion/completions", Path.join path ".bash_completion.d"]
    | none => []

variable {m : Type → Type} [Monad m] [Machine m]

def firstDirectory : List String → m (Option String)
  | [] => pure none
  | path :: rest => do
    if ← Disk.isDirectory path then pure (some path) else firstDirectory rest

def completionsPath (installer : Installer) : m (Option String) :=
  firstDirectory installer.directories

def targetPath (installer : Installer) : m (Option String) := do
  let directory ← installer.completionsPath
  pure (directory.map fun path => Path.join path installer.program)

def commandStart (installer : Installer) : List String := if installer.elevated then ["sudo"] else []

def copyCommand (installer : Installer) (script target : String) : List String :=
  installer.commandStart ++ ["cp", script, target]

def installCommand (installer : Installer) : m (Except InstallError (List String)) := do
  match installer.script with
  | none => pure (.error .noScript)
  | some script =>
    match ← installer.targetPath with
    | none => pure (.error .noDirectory)
    | some target => pure (.ok (installer.copyCommand script target))

def uninstallCommand (installer : Installer) : List String :=
  installer.commandStart ++ ["rm", "-f"] ++
    installer.directories.map fun path => Path.join path installer.program

def prepare (installer : Installer) (force : Bool) :
    m (Except InstallError (List String × String)) := do
  match installer.script with
  | none => pure (.error .noScript)
  | some script =>
    match ← installer.targetPath with
    | none => pure (.error .noDirectory)
    | some target =>
      if !(← Disk.holds script) then pure (.error (.scriptNotFound script))
      else if !force && (← Disk.holds target) then pure (.error (.targetExists target))
      else pure (.ok (installer.copyCommand script target, target))

def baseTools (environment : Environment) (command : List String) : m (Except FileError ExitStatus) :=
  if environment.findsPrograms then Tools.run command else pure (.error .notFound)

def runBy (tools : List String → m (Except FileError ExitStatus)) (command : List String) :
    m (Except InstallError Unit) := do
  match ← tools command with
  | .error error => pure (.error (.notStarted command error))
  | .ok status =>
    if status.succeeded then pure (.ok ()) else pure (.error (.failed command status))

def installBy (installer : Installer) (tools : List String → m (Except FileError ExitStatus)) (force : Bool) :
    m (Except InstallError String) := do
  match ← installer.prepare force with
  | .error error => pure (.error error)
  | .ok (command, target) => do
    let ended ← runBy tools command
    pure (ended.map fun _ => target)

def uninstallBy (installer : Installer) (tools : List String → m (Except FileError ExitStatus)) :
    m (Except InstallError Unit) :=
  runBy tools installer.uninstallCommand

def run (environment : Environment) (command : List String) : m (Except InstallError Unit) :=
  runBy (baseTools environment) command

def install (installer : Installer) (environment : Environment) (force : Bool) :
    m (Except InstallError String) :=
  installer.installBy (baseTools environment) force

def uninstall (installer : Installer) (environment : Environment) : m (Except InstallError Unit) :=
  installer.uninstallBy (baseTools environment)

end Installer

end CompletionRules
