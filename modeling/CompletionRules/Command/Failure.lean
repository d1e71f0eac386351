import CompletionRules.Command.SettingsFile
import CompletionRules.Install.Installer
import CompletionRules.Rules.Load
import CompletionRules.Table.Diagnostic

namespace CompletionRules.Command

inductive Failure where
  | notRead (path : String) (error : FileError)
  | notWritten (path : String) (error : FileError)
  | notLoaded (path : String) (error : LoadError)
  | alreadyThere (path : String)
  | nothingToComplete (line : String)
  | settings (path : String) (error : SettingsError)
  | install (error : InstallError)
  deriving Repr, DecidableEq

def Failure.message : Failure → String
  | .notRead path error => "failed to read " ++ path ++ ": " ++ error.message
  | .notWritten path error => "failed to write " ++ path ++ ": " ++ error.message
  | .notLoaded path error => path ++ ": " ++ error.message
  | .alreadyThere path => path ++ " already exists (use --force to overwrite)"
  | .nothingToComplete line => "nothing to complete in '" ++ line ++ "'"
  | .settings path error => path ++ ": " ++ error.message
  | .install error => error.message

inductive Colour where
  | red
  | yellow
  deriving Repr, DecidableEq

def Colour.code : Colour → String
  | .red => "31"
  | .yellow => "33"

def Colour.paint (colour : Colour) (text : String) : String :=
  "\x1b[" ++ colour.code ++ "m" ++ text ++ "\x1b[39m"

def reportLine (plain : Bool) (colour : Colour) (label text : String) : String :=
  (if plain then label else colour.paint label) ++ " " ++ text ++ "\n"

def errorLine (plain : Bool) (failure : Failure) : String :=
  reportLine plain .red "error:" failure.message

def warningLine (plain : Bool) (diagnostic : Diagnostic) : String :=
  reportLine plain .yellow "warning:" diagnostic.text

end CompletionRules.Command
