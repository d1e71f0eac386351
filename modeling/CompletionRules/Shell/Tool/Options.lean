import CompletionRules.Shell.ByteText

-- The options among the words that a program is given: letters after one dash, several in a word,
-- and names after two dashes that stand for letters.

namespace CompletionRules.Shell

structure OptionTable where
  flags : List Char
  valued : List Char
  names : List (String × Char)
  deriving Repr, DecidableEq

structure Options where
  flags : List Char
  values : List (Char × ByteText)
  operands : List ByteText
  deriving Repr, DecidableEq

namespace Options

def isOption (argument : ByteText) : Bool :=
  match argument with
  | '-' :: _ :: _ => true
  | _ => false

def has (options : Options) (letter : Char) : Bool := options.flags.contains letter

def value? (options : Options) (letter : Char) : Option ByteText :=
  (options.values.reverse.find? fun entry => entry.1 == letter).map Prod.snd

def valuesOf (options : Options) (letter : Char) : List ByteText :=
  options.values.filterMap fun entry => if entry.1 == letter then some entry.2 else none

def cluster (table : OptionTable) : ByteText → Option (List Char × Option (Char × ByteText))
  | [] => some ([], none)
  | c :: rest =>
    if table.valued.contains c then some ([], some (c, rest))
    else if table.flags.contains c then
      (cluster table rest).map fun (others, value) => (c :: others, value)
    else none

def letterOf? (table : OptionTable) (name : String) : Option Char :=
  match table.names.find? fun entry => entry.1 == name with
  | some (_, letter) => some letter
  | none =>
    match (table.names.filter fun entry => entry.1.startsWith name).map Prod.snd with
    | [] => none
    | letter :: others => if others.all (· == letter) then some letter else none

def addFlags (letters : List Char) (options : Options) : Options :=
  { options with flags := letters ++ options.flags }

def addValue (letter : Char) (value : ByteText) (options : Options) : Options :=
  { options with values := (letter, value) :: options.values }

def addOperand (operand : ByteText) (options : Options) : Options :=
  { options with operands := operand :: options.operands }

-- `mixed` options stand anywhere among the operands; others end at the first operand. Two dashes end
-- them in any case. `awaiting` is a letter whose value is the next word.
def readFrom (table : OptionTable) (mixed : Bool) : Option Char → List ByteText → Option Options
  | none, [] => some ⟨[], [], []⟩
  | some _, [] => none
  | some letter, value :: rest => (readFrom table mixed none rest).map (addValue letter value)
  | none, argument :: rest =>
    match argument with
    | ['-', '-'] => some ⟨[], [], rest⟩
    | '-' :: '-' :: long => do
      let letter ← letterOf? table (.ofList (long.takeWhile (· ≠ '=')))
      match table.valued.contains letter, long.dropWhile (· ≠ '=') with
      | true, [] => readFrom table mixed (some letter) rest
      | true, _ :: value => (readFrom table mixed none rest).map (addValue letter value)
      | false, [] => (readFrom table mixed none rest).map (addFlags [letter])
      | false, _ :: _ => none
    | '-' :: c :: letters =>
      match cluster table (c :: letters) with
      | none => none
      | some (met, none) => (readFrom table mixed none rest).map (addFlags met)
      | some (met, some (letter, [])) =>
        (readFrom table mixed (some letter) rest).map (addFlags met)
      | some (met, some (letter, value)) =>
        (readFrom table mixed none rest).map fun options => addFlags met (addValue letter value options)
    | _ =>
      if mixed then (readFrom table mixed none rest).map (addOperand argument)
      else some ⟨[], [], argument :: rest⟩

def read (table : OptionTable) (arguments : List ByteText) : Option Options :=
  readFrom table true none arguments

def readLeading (table : OptionTable) (arguments : List ByteText) : Option Options :=
  readFrom table false none arguments

end Options

end CompletionRules.Shell
