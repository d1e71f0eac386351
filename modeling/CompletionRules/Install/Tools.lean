import CompletionRules.Host.Machine
import CompletionRules.Text.Cited

-- The two programs that put scripts in place and take them away. Both end with one where anything was refused.

namespace CompletionRules.Tools

variable {m : Type → Type} [Monad m] [Machine m]

def refused : ExitStatus := .exited 1

def refuse (tool reason : String) : m ExitStatus := do
  Machine.complain (tool ++ ": " ++ reason ++ "\n")
  pure refused

def quoted (path : String) : String := Text.cited path

def looksLikeOption (operand : String) : Bool :=
  match operand.toList with
  | '-' :: _ :: _ => true
  | _ => false

def refuseOption (tool operand : String) : m ExitStatus :=
  let reason := match operand.toList with
    | _ :: '-' :: _ => "unrecognized option " ++ quoted operand
    | _ :: letter :: _ => "invalid option -- " ++ quoted (String.singleton letter)
    | _ => "missing operand"
  refuse tool (reason ++ "\nTry '" ++ tool ++ " --help' for more information.")

def destination (source target : String) : m String := do
  if ← Disk.isDirectory target then pure (Path.join target (Path.lastComponent source))
  else pure target

def createFailure (goal : String) (error : FileError) : String :=
  let reason := if Path.endsInSlash goal then FileError.reason .notADirectory else error.reason
  "cannot create regular file " ++ quoted goal ++ ": " ++ reason

def transfer (source goal : String) : m ExitStatus := do
  match ← Disk.read source with
  | .error error => refuse "cp" ("cannot open " ++ quoted source ++ " for reading: " ++ error.reason)
  | .ok text =>
    match ← Disk.write goal text with
    | .error error => refuse "cp" (createFailure goal error)
    | .ok _ => pure .success

def copyFile (source goal : String) : m ExitStatus := do
  if ← Disk.isSame source goal then
    refuse "cp" (quoted source ++ " and " ++ quoted goal ++ " are the same file")
  else
    match ← Disk.look goal with
    | .ok .directory => refuse "cp" ("cannot overwrite directory " ++ quoted goal ++ " with non-directory")
    | .ok .file | .error .notFound => transfer source goal
    | .error error => refuse "cp" ("cannot stat " ++ quoted goal ++ ": " ++ error.reason)

def copy (source target : String) : m ExitStatus := do
  let goal ← destination source target
  match ← Disk.look source with
  | .error error => refuse "cp" ("cannot stat " ++ quoted source ++ ": " ++ error.reason)
  | .ok .directory => refuse "cp" ("-r not specified; omitting directory " ++ quoted source)
  | .ok .file => copyFile source goal

def removeFile (path : String) : m ExitStatus := do
  match ← Disk.remove path with
  | .ok _ | .error .notFound | .error .notADirectory => pure .success
  | .error error => refuse "rm" ("cannot remove " ++ quoted path ++ ": " ++ error.reason)

def worse (left right : ExitStatus) : ExitStatus := if left.succeeded then right else left

def removeFiles : List String → m ExitStatus
  | [] => pure .success
  | path :: rest => do
    let first ← removeFile path
    let others ← removeFiles rest
    pure (worse first others)

-- The command line of a tool; the leading word that asks for more rights changes nothing for one
-- who has them. A program that there is no such tool for cannot be started.
def run : List String → m (Except FileError ExitStatus)
  | "sudo" :: rest => run rest
  | ["cp", source, target] =>
    match [source, target].find? looksLikeOption with
    | some operand => .ok <$> refuseOption "cp" operand
    | none => .ok <$> copy source target
  | "rm" :: "-f" :: paths =>
    match paths.find? looksLikeOption with
    | some operand => .ok <$> refuseOption "rm" operand
    | none => .ok <$> removeFiles paths
  | _ => pure (.error .notFound)

end CompletionRules.Tools
