import CompletionRules.Shell.Tool.Options

-- Programs that turn the texts they read into one text. Which files to read is settled by the words
-- that the program is given, before anything is read.

namespace CompletionRules.Shell

structure Answer where
  shown : ByteText
  status : Nat
  written : List (ByteText × ByteText) := []
  deriving Repr, DecidableEq

structure InputText where
  name : ByteText
  text : ByteText
  deriving Repr, DecidableEq

structure Plan where
  operands : List ByteText
  answer : List InputText → Answer

namespace Plan

def names (plan : Plan) : List ByteText := if plan.operands.isEmpty then [['-']] else plan.operands

def joined (operands : List ByteText) (answer : ByteText → Answer) : Plan :=
  ⟨operands, fun sources => answer (sources.flatMap fun source => source.text)⟩

def transform (operands : List ByteText) (change : ByteText → ByteText) : Plan :=
  joined operands fun text => ⟨change text, 0, []⟩

def mapLines (operands : List ByteText) (change : ByteText → Option ByteText) : Plan :=
  transform operands fun text => ByteText.ofLines ((ByteText.lines text).filterMap change)

end Plan

def number? (text : ByteText) : Option Nat := (String.ofList text).toNat?

def signedNumber? : ByteText → Option Int
  | '-' :: digits => (number? digits).map fun value => -(value : Int)
  | '+' :: digits => (number? digits).map fun value => (value : Int)
  | digits => (number? digits).map fun value => (value : Int)

def filled (width : Nat) (text : ByteText) : ByteText :=
  List.replicate (width - text.length) ' ' ++ text

def cutLines : ByteText → List ByteText
  | [] => []
  | c :: rest =>
    if c == '\n' then ['\n'] :: cutLines rest
    else match cutLines rest with
      | [] => [[c]]
      | line :: others => (c :: line) :: others

def splitEnd (line : ByteText) : ByteText × ByteText :=
  if line.getLast? = some '\n' then (line.dropLast, ['\n']) else (line, [])

end CompletionRules.Shell
