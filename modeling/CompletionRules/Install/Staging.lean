import CompletionRules.Install.Installer

-- A script that comes from the standard input is put into a file first, which lasts for as long as
-- the installer does.

namespace CompletionRules.Installer

variable {m : Type → Type} [Monad m] [Machine m]

def stagingDirectory (environment : Environment) : String :=
  (environment.value? "TMPDIR").getD "/tmp"

def stagedName (number : Nat) : String :=
  let digits := toString number
  "comptree-" ++ .ofList (List.replicate (6 - digits.length) '0') ++ digits ++ ".bash"

def freePath (directory : String) : Nat → Nat → m String
  | 0, number => pure (Path.join directory (stagedName number))
  | tries + 1, number => do
    let path := Path.join directory (stagedName number)
    if ← Disk.holds path then freePath directory tries (number + 1) else pure path

def stage (environment : Environment) (text : String) : m (Except InstallError String) := do
  let base ← Disk.workingDirectory
  let path ← freePath (Path.join base (stagingDirectory environment)) 1000 0
  match ← Disk.write path text with
  | .error error => pure (.error (.notStaged path error))
  | .ok _ => pure (.ok path)

def unstage (path : String) : m Unit := do
  let _ ← Disk.remove path

end CompletionRules.Installer
