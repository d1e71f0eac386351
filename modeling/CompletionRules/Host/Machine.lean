import CompletionRules.Files.FileSystem
import CompletionRules.Host.Environment
import CompletionRules.Host.ExitStatus

-- What a run of the command asks of the machine it runs on: any monad that offers this, so that it can be run
-- on a file system that is a value as well as on a disk.

namespace CompletionRules

inductive FileKind where
  | directory
  | file
  deriving Repr, DecidableEq

def FileNode.kind : FileNode → FileKind
  | .directory => .directory
  | .file _ => .file

class Disk (m : Type → Type) where
  look : String → m (Except FileError FileKind)
  isSame : String → String → m Bool
  read : String → m (Except FileError String)
  write : String → String → m (Except FileError Unit)
  remove : String → m (Except FileError Unit)
  list : String → m (Except FileError (List String))
  makeDirectory : String → m (Except FileError Unit)
  removeDirectory : String → m (Except FileError Unit)
  workingDirectory : m String

-- `shell` runs the text of a command with these variables and nothing to read, and gives what it
-- printed. `hasAllRights` tells that there are no further rights to ask for.
class Machine (m : Type → Type) extends Disk m where
  hasAllRights : m Bool
  input : m (Except FileError String)
  print : String → m Unit
  complain : String → m Unit
  shell : Environment → String → m (ExitStatus × List UInt8)

namespace Disk

variable {m : Type → Type} [Monad m] [Disk m]

def holds (path : String) : m Bool := do
  match ← look path with
  | .ok _ => pure true
  | .error _ => pure false

def isDirectory (path : String) : m Bool := do
  match ← look path with
  | .ok .directory => pure true
  | _ => pure false

end Disk

section

variable {m : Type → Type} [Monad m] {ε : Type}

instance [Disk m] : Disk (ExceptT ε m) where
  look path := ExceptT.lift (Disk.look path)
  isSame left right := ExceptT.lift (Disk.isSame left right)
  read path := ExceptT.lift (Disk.read path)
  write path text := ExceptT.lift (Disk.write path text)
  remove path := ExceptT.lift (Disk.remove path)
  list path := ExceptT.lift (Disk.list path)
  makeDirectory path := ExceptT.lift (Disk.makeDirectory path)
  removeDirectory path := ExceptT.lift (Disk.removeDirectory path)
  workingDirectory := ExceptT.lift Disk.workingDirectory

instance [Machine m] : Machine (ExceptT ε m) where
  hasAllRights := ExceptT.lift Machine.hasAllRights
  input := ExceptT.lift Machine.input
  print text := ExceptT.lift (Machine.print text)
  complain text := ExceptT.lift (Machine.complain text)
  shell environment text := ExceptT.lift (Machine.shell environment text)

end

end CompletionRules
