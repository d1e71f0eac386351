import CompletionRules.Command.Run
import CompletionRules.Shell.Run

-- The command line on a real machine. Files are read and written as bytes, commands are run by the
-- shell of this library, and what the machine has to say is put into the library's terms.

namespace CompletionRules.Console

def errorNumber (code : UInt32) : Nat :=
  if code.toNat < twoTo 31 then code.toNat else twoTo 32 - code.toNat

def fileError (code : UInt32) (details : String) : FileError :=
  match errorNumber code with
  | 2 => .notFound
  | 20 => .notADirectory
  | 21 => .isADirectory
  | 17 => .alreadyThere
  | 36 => .nameTooLong
  | 39 => .notEmpty
  | number => .other (details.capitalize ++ " (os error " ++ toString number ++ ")")

def refusal : IO.Error → FileError
  | .noFileOrDirectory _ code details => fileError code details
  | .inappropriateType _ code details => fileError code details
  | .permissionDenied _ code details => fileError code details
  | .resourceExhausted _ code details => fileError code details
  | .invalidArgument _ code details => fileError code details
  | .alreadyExists _ code details => fileError code details
  | error => .other (toString error)

def attempt {α : Type} (action : IO α) : IO (Except FileError α) := do
  try pure (.ok (← action)) catch error => pure (.error (refusal error))

def decoded (bytes : List UInt8) : Except FileError String :=
  match Text.decode? bytes with
  | some text => .ok text
  | none => .error (.other "stream did not contain valid UTF-8")

def readText (path : String) : IO (Except FileError String) := do
  let bytes ← attempt (IO.FS.readBinFile path)
  pure (bytes.bind fun held => decoded held.toList)

def kindOf (path : String) : IO (Except FileError FileKind) := do
  match ← attempt (do (← IO.FS.Handle.mk path .read).read 1) with
  | .ok _ => pure (.ok .file)
  | .error .isADirectory => pure (.ok .directory)
  | .error error => pure (.error error)

def resolved (path : String) : IO (Except FileError String) :=
  attempt (do pure (toString (← IO.FS.realPath path)))

def leadToSame (left right : String) : IO Bool := do
  match ← resolved left, ← resolved right with
  | .ok first, .ok second => pure (first == second)
  | _, _ => pure false

instance : Disk IO where
  look := kindOf
  isSame := leadToSame
  read := readText
  write path text := attempt (IO.FS.writeBinFile path text.toUTF8)
  remove path := attempt (IO.FS.removeFile path)
  list _ := pure (.error (.other "the names in a directory are not known"))
  makeDirectory path := attempt (IO.FS.createDir path)
  removeDirectory path := attempt (IO.FS.removeDir path)
  workingDirectory := do pure (toString (← IO.currentDir))

partial def allInput (input : IO.FS.Stream) (held : ByteArray) : IO ByteArray := do
  let more ← input.read 65536
  if more.isEmpty then pure held else allInput input (held ++ more)

def statusPath : String := "/proc/self/status"

def environmentPath : String := "/proc/self/environ"

def isSuperuserLine (line : List Char) : Bool :=
  match Text.words (.ofList line) with
  | "Uid:" :: user :: _ => user == "0"
  | _ => false

def hasAllRights : IO Bool := do
  let status ← readText statusPath
  pure (match status with
    | .ok text => (Text.pieces (· == '\n') text.toList).any isSuperuserLine
    | .error _ => false)

def setting (entry : List Char) : String × String :=
  (.ofList (entry.takeWhile (· ≠ '=')), .ofList ((entry.dropWhile (· ≠ '=')).drop 1))

def environment : IO Environment := do
  let block ← readText environmentPath
  pure (match block with
    | .ok text => (Text.pieces (· == '\x00') text.toList).map setting
    | .error _ => [])

instance : Machine IO where
  hasAllRights := hasAllRights
  input := do
    let bytes ← attempt (do allInput (← IO.getStdin) .empty)
    pure (bytes.bind fun held => decoded held.toList)
  print := IO.print
  complain := IO.eprint
  shell := Shell.runScript

end CompletionRules.Console

open CompletionRules in
def main (words : List String) : IO UInt32 := do
  let code ← Command.run (← Console.environment) words
  pure code.toUInt32
