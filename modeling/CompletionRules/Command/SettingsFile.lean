import CompletionRules.Command.Settings
import CompletionRules.Host.Machine

-- Where the settings come from: a file that was named, the file at the usual place if there is one,
-- or none. Only a file that was named has to be right.

namespace CompletionRules

inductive SettingsError where
  | unreadable (error : FileError)
  | malformed (fault : Toml.Fault) (source : String)
  deriving Repr, DecidableEq

def SettingsError.message : SettingsError → String
  | .unreadable error => "failed to read config file: " ++ error.message
  | .malformed fault source => "failed to parse config file: " ++ fault.text source

structure SettingsFile where
  settings : Settings
  path : Option String
  error : Option SettingsError
  named : Bool
  deriving Repr, DecidableEq

namespace SettingsFile

def none (path : Option String) : SettingsFile := ⟨.default, path, .none, false⟩

def usualPath (environment : Environment) : Option String :=
  let base := match environment.value? "XDG_CONFIG_HOME" with
    | some path =>
      if Path.isAbsolute path then some path
      else (environment.value? "HOME").map fun home => Path.join home ".config"
    | .none => (environment.value? "HOME").map fun home => Path.join home ".config"
  base.map fun path => Path.join (Path.join path "comptree") "config.toml"

variable {m : Type → Type} [Monad m] [Disk m]

def ofPath (path : String) : m SettingsFile := do
  match ← (Disk.read path : m (Except FileError String)) with
  | .error error => pure ⟨.default, some path, some (.unreadable error), false⟩
  | .ok text =>
    match Settings.ofText text with
    | .error fault => pure ⟨.default, some path, some (.malformed fault text), false⟩
    | .ok settings => pure ⟨settings, some path, .none, false⟩

def load (environment : Environment) (disabled : Bool) (named : Option String) : m SettingsFile := do
  if disabled then pure (none .none)
  else match named, usualPath environment with
    | some path, _ => do
      let file ← ofPath path
      pure { file with named := true }
    | .none, .none => pure (none .none)
    | .none, some path => do
      if ← Disk.holds path then ofPath path else pure (none (some path))

end SettingsFile

end CompletionRules
