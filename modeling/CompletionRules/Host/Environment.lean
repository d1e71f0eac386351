import CompletionRules.Files.Path
import CompletionRules.Rules.Pairs

namespace CompletionRules

abbrev Environment := List (String × String)

namespace Environment

def value? (environment : Environment) (name : String) : Option String :=
  Pairs.find? name environment

def set (environment : Environment) (name value : String) : Environment :=
  (name, value) :: Pairs.erase name environment

def programDirectories : List String := ["/bin", "/usr/bin"]

def searched (environment : Environment) : List String :=
  match environment.value? "PATH" with
  | none => programDirectories
  | some path => (Text.pieces (· == ':') path.toList).map String.ofList

def isProgramDirectory (path : String) : Bool :=
  programDirectories.any fun known => Path.isAbsolute path && Path.components path == Path.components known

def findsPrograms (environment : Environment) : Bool := environment.searched.any isProgramDirectory

end Environment

end CompletionRules
