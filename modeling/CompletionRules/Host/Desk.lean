import CompletionRules.Shell.Run

-- A machine as a value: its files, its standard input, what was printed and the commands that were run.
-- `accidents` tells what each reading or change to come is refused with; behind its end nothing goes wrong.

namespace CompletionRules

structure Desk where
  files : FileSystem
  input : String
  printed : String
  complained : String
  ran : List String
  accidents : List (Option FileError)
  deriving Repr, DecidableEq

namespace Desk

def ofFiles (files : FileSystem) : Desk := ⟨files, "", "", "", [], []⟩

def baseDirectories : List Location :=
  [["bin"], ["dev"], ["etc"], ["home"], ["lib"], ["opt"], ["proc"], ["root"], ["tmp"], ["usr"],
    ["usr", "bin"], ["usr", "lib"], ["usr", "local"], ["usr", "local", "bin"], ["usr", "local", "etc"],
    ["usr", "share"], ["usr", "share", "bash-completion"],
    ["usr", "share", "bash-completion", "completions"], ["var"], ["var", "tmp"]]

def baseFiles (place : Location) : FileSystem :=
  FileSystem.makeDirectories ⟨baseDirectories.map fun location => (location, .directory), place⟩ place

def bare : Desk := .ofFiles (baseFiles ["tmp", "work"])

def leadToSame (files : FileSystem) (left right : String) : Bool :=
  match files.locate left, files.locate right with
  | .ok first, .ok second => first = second
  | _, _ => false

def ask {α : Type} (question : FileSystem → α) : StateM Desk α := do pure (question (← get).files)

def unlessAccident {α : Type} (work : StateM Desk (Except FileError α)) : StateM Desk (Except FileError α) :=
  fun desk =>
    match desk.accidents with
    | [] => work desk
    | none :: rest => work { desk with accidents := rest }
    | some error :: rest => (.error error, { desk with accidents := rest })

def change (attempt : FileSystem → Except FileError FileSystem) : StateM Desk (Except FileError Unit) :=
  unlessAccident fun desk =>
    match attempt desk.files with
    | .ok files => (.ok (), { desk with files := files })
    | .error error => (.error error, desk)

def directoryPath (files : FileSystem) : String :=
  "/" ++ Text.joined "/" files.workingDirectory

instance : Disk (StateM Desk) where
  look path := ask fun files => (files.look path).map FileNode.kind
  isSame left right := ask fun files => leadToSame files left right
  read path := unlessAccident (ask fun files => files.read path)
  write path text := change fun files => files.write path text
  remove path := change fun files => files.remove path
  list path := unlessAccident (ask fun files => files.list path)
  makeDirectory path := change fun files => files.makeDirectory path
  removeDirectory path := change fun files => files.removeDirectory path
  workingDirectory := ask directoryPath

instance : Machine (StateM Desk) where
  hasAllRights := pure true
  input := unlessAccident do pure (.ok (← get).input)
  print text := modify fun desk => { desk with printed := desk.printed ++ text }
  complain text := modify fun desk => { desk with complained := desk.complained ++ text }
  shell environment text := do
    modify fun desk => { desk with ran := desk.ran ++ [text] }
    Shell.runScript environment text

end Desk

end CompletionRules
