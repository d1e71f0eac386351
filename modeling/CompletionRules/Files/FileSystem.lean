import CompletionRules.Files.Path
import CompletionRules.Rules.Pairs

-- A file system as a value. A location is the list of names on the way from the root. Every component of a
-- path but the last has to be a directory that exists.

namespace CompletionRules

inductive FileError where
  | notFound
  | notADirectory
  | isADirectory
  | nameTooLong
  | alreadyThere
  | notEmpty
  | other (text : String)
  deriving Repr, DecidableEq

def FileError.reason : FileError → String
  | .notFound => "No such file or directory"
  | .notADirectory => "Not a directory"
  | .isADirectory => "Is a directory"
  | .nameTooLong => "File name too long"
  | .alreadyThere => "File exists"
  | .notEmpty => "Directory not empty"
  | .other text => text

def FileError.message : FileError → String
  | .notFound => "No such file or directory (os error 2)"
  | .notADirectory => "Not a directory (os error 20)"
  | .isADirectory => "Is a directory (os error 21)"
  | .nameTooLong => "File name too long (os error 36)"
  | .alreadyThere => "File exists (os error 17)"
  | .notEmpty => "Directory not empty (os error 39)"
  | .other text => text

inductive FileNode where
  | directory
  | file (text : String)
  deriving Repr, DecidableEq

abbrev Location := List String

structure FileSystem where
  nodes : List (Location × FileNode)
  workingDirectory : Location
  deriving Repr, DecidableEq

namespace FileSystem

def node? (files : FileSystem) (location : Location) : Option FileNode :=
  match location with
  | [] => some .directory
  | _ => Pairs.find? location files.nodes

def put (files : FileSystem) (location : Location) (node : FileNode) : FileSystem :=
  { files with nodes := Pairs.erase location files.nodes ++ [(location, node)] }

def drop (files : FileSystem) (location : Location) : FileSystem :=
  { files with nodes := Pairs.erase location files.nodes }

def nameLimit : Nat := 255

def pathLimit : Nat := 4095

def step (files : FileSystem) (location : Location) (component : String) :
    Except FileError Location :=
  match files.node? location with
  | none => .error .notFound
  | some (.file _) => .error .notADirectory
  | some .directory =>
    if component = "." then .ok location
    else if component = ".." then .ok location.dropLast
    else if component.utf8ByteSize > nameLimit then .error .nameTooLong
    else .ok (location ++ [component])

def follow (files : FileSystem) : Location → List String → Except FileError Location
  | location, [] => .ok location
  | location, component :: rest =>
    match files.step location component with
    | .error error => .error error
    | .ok next => follow files next rest

def locate (files : FileSystem) (path : String) : Except FileError Location :=
  if path.isEmpty then .error .notFound
  else if path.utf8ByteSize > pathLimit then .error .nameTooLong
  else files.follow (if Path.isAbsolute path then [] else files.workingDirectory)
    (Path.components path)

def look (files : FileSystem) (path : String) : Except FileError FileNode :=
  match files.locate path with
  | .error error => .error error
  | .ok location =>
    match files.node? location with
    | none => .error .notFound
    | some .directory => .ok .directory
    | some (.file text) => if Path.endsInSlash path then .error .notADirectory else .ok (.file text)

def holds (files : FileSystem) (path : String) : Bool :=
  match files.look path with
  | .ok _ => true
  | .error _ => false

def isDirectory (files : FileSystem) (path : String) : Bool :=
  match files.look path with
  | .ok .directory => true
  | _ => false

def read (files : FileSystem) (path : String) : Except FileError String :=
  match files.look path with
  | .error error => .error error
  | .ok .directory => .error .isADirectory
  | .ok (.file text) => .ok text

def write (files : FileSystem) (path text : String) : Except FileError FileSystem :=
  match files.locate path with
  | .error error => .error error
  | .ok location =>
    if Path.endsInSlash path || files.node? location = some .directory then .error .isADirectory
    else .ok (files.put location (.file text))

def remove (files : FileSystem) (path : String) : Except FileError FileSystem :=
  match files.look path with
  | .error error => .error error
  | .ok .directory => .error .isADirectory
  | .ok (.file _) => (files.locate path).map files.drop

def list (files : FileSystem) (path : String) : Except FileError (List String) :=
  match files.look path, files.locate path with
  | .ok .directory, .ok location =>
    .ok (files.nodes.filterMap fun (other, _) =>
      if other.dropLast = location ∧ other ≠ [] then other.getLast? else none)
  | .ok (.file _), _ => .error .notADirectory
  | .error error, _ | _, .error error => .error error

def makeDirectory (files : FileSystem) (path : String) : Except FileError FileSystem :=
  match files.locate path with
  | .error error => .error error
  | .ok location =>
    if (files.node? location).isSome then .error .alreadyThere else .ok (files.put location .directory)

def removeDirectory (files : FileSystem) (path : String) : Except FileError FileSystem :=
  match files.look path, files.locate path with
  | .ok .directory, .ok location =>
    if location = [] || files.nodes.any fun (other, _) => other ≠ [] && other.dropLast = location then
      .error .notEmpty
    else .ok (files.drop location)
  | .ok (.file _), _ => .error .notADirectory
  | .error error, _ | _, .error error => .error error

def makeDirectories (files : FileSystem) (location : Location) : FileSystem :=
  (List.range location.length).foldl (fun files depth =>
    let upper := location.take (depth + 1)
    if (files.node? upper).isSome then files else files.put upper .directory) files

end FileSystem

end CompletionRules
