import CompletionRules.Numeral.Power
import CompletionRules.Rules.Pairs
import CompletionRules.Shell.ByteText

-- Whole numbers of 64 bits, with the operators and the order of binding that C has.

namespace CompletionRules.Shell.Arithmetic

inductive Sign where
  | number (value : Int)
  | name (text : String)
  | operator (text : String)
  deriving Repr, DecidableEq

def operators : List String :=
  ["<<=", ">>=", "<<", ">>", "<=", ">=", "==", "!=", "&&", "||", "+=", "-=", "*=", "/=", "%=", "&=",
    "|=", "^=", "+", "-", "*", "/", "%", "<", ">", "=", "!", "~", "&", "|", "^", "?", ":", "(", ")"]

def wrap (value : Int) : Int := value.bmod (twoTo 64)

def clamp (value : Int) : Int := max (-twoTo 63) (min (twoTo 63 - 1) value)

def digitValue (c : Char) : Nat :=
  if c.isDigit then c.toNat - 48
  else if 'a' ≤ c && c ≤ 'z' then c.toNat - 87
  else if 'A' ≤ c && c ≤ 'Z' then c.toNat - 55
  else 99

def digitsValue? (base : Nat) (digits : ByteText) : Option Nat :=
  if digits.isEmpty then none
  else digits.foldl (fun value c =>
    value.bind fun held =>
      if digitValue c < base then some (held * base + digitValue c) else none) (some 0)

def literalValue? : ByteText → Option Nat
  | '0' :: 'x' :: digits | '0' :: 'X' :: digits => digitsValue? 16 digits
  | '0' :: digits => if digits.isEmpty then some 0 else digitsValue? 8 digits
  | digits => digitsValue? 10 digits

def isBlank (c : Char) : Bool := c == ' ' || c == '\t' || c == '\n'

def trimmed (text : ByteText) : ByteText :=
  ((text.dropWhile isBlank).reverse.dropWhile isBlank).reverse

def writtenValue? (text : ByteText) : Option Int :=
  match trimmed text with
  | [] => some 0
  | '-' :: digits => (literalValue? digits).map fun value => -value
  | '+' :: digits => (literalValue? digits).map fun value => value
  | digits => (literalValue? digits).map fun value => value

def valueOf? (text : ByteText) : Option Int := (writtenValue? text).map clamp

def signsWithin : Nat → ByteText → Option (List Sign)
  | 0, _ => none
  | _, [] => some []
  | room + 1, c :: rest =>
    if isBlank c then signsWithin room rest
    else if c.isDigit then do
      let value ← literalValue? (c :: rest.takeWhile Char.isAlphanum)
      let others ← signsWithin room (rest.dropWhile Char.isAlphanum)
      pure (.number (clamp value) :: others)
    else if c.isAlpha || c == '_' then do
      let isNamed := fun (c : Char) => c.isAlphanum || c == '_'
      let others ← signsWithin room (rest.dropWhile isNamed)
      pure (.name (.ofList (c :: rest.takeWhile isNamed)) :: others)
    else do
      let found ← operators.find? fun text => text.toList.isPrefixOf (c :: rest)
      let others ← signsWithin room ((c :: rest).drop found.length)
      pure (.operator found :: others)

def signs (text : ByteText) : Option (List Sign) := signsWithin (text.length + 1) text

inductive Expression where
  | number (value : Int)
  | name (text : String)
  | unary (operator : String) (operand : Expression)
  | binary (operator : String) (left right : Expression)
  | conditional (condition yes no : Expression)
  | assign (name operator : String) (value : Expression)
  deriving Repr

def tiers : List (List String) :=
  [["||"], ["&&"], ["|"], ["^"], ["&"], ["==", "!="], ["<", ">", "<=", ">="], ["<<", ">>"],
    ["+", "-"], ["*", "/", "%"]]

def assignments : List String := ["=", "<<=", ">>=", "+=", "-=", "*=", "/=", "%=", "&=", "|=", "^="]

mutual

def expression : Nat → List Sign → Option (Expression × List Sign)
  | 0, _ => none
  | depth + 1, given =>
    match given with
    | .name text :: .operator found :: rest =>
      if assignments.contains found then do
        let (value, after) ← expression depth rest
        pure (.assign text (.ofList (found.toList.dropLast)) value, after)
      else choice depth given
    | _ => choice depth given

def choice : Nat → List Sign → Option (Expression × List Sign)
  | 0, _ => none
  | depth + 1, given => do
    let (condition, rest) ← tier depth tiers given
    match rest with
    | .operator "?" :: others => do
      let (yes, after) ← expression depth others
      match after with
      | .operator ":" :: last => do
        let (no, left) ← choice depth last
        pure (.conditional condition yes no, left)
      | _ => none
    | _ => pure (condition, rest)

def tier : Nat → List (List String) → List Sign → Option (Expression × List Sign)
  | 0, _, _ => none
  | depth + 1, [], given => operand depth given
  | depth + 1, found :: tighter, given => do
    let (left, rest) ← tier depth tighter given
    more depth found tighter left rest

def more : Nat → List String → List (List String) → Expression → List Sign →
    Option (Expression × List Sign)
  | 0, _, _, _, _ => none
  | depth + 1, found, tighter, left, given =>
    match given with
    | .operator text :: rest =>
      if found.contains text then do
        let (right, after) ← tier depth tighter rest
        more depth found tighter (.binary text left right) after
      else some (left, given)
    | _ => some (left, given)

def operand : Nat → List Sign → Option (Expression × List Sign)
  | 0, _ => none
  | depth + 1, given =>
    match given with
    | .number value :: rest => some (.number value, rest)
    | .name text :: rest => some (.name text, rest)
    | .operator "(" :: rest => do
      let (inner, after) ← expression depth rest
      match after with
      | .operator ")" :: left => pure (inner, left)
      | _ => none
    | .operator text :: rest =>
      if ["+", "-", "!", "~"].contains text then do
        let (inner, after) ← operand depth rest
        pure (.unary text inner, after)
      else none
    | [] => none

end

def read? (text : ByteText) : Option Expression := do
  let given ← signs text
  let (held, rest) ← expression (16 * given.length + 64) given
  if rest.isEmpty then pure held else none

def truth (condition : Bool) : Int := if condition then 1 else 0

def combine? : String → Int → Int → Option Int
  | "+", left, right => some (wrap (left + right))
  | "-", left, right => some (wrap (left - right))
  | "*", left, right => some (wrap (left * right))
  | "/", left, right => if right = 0 then none else some (wrap (left.tdiv right))
  | "%", left, right => if right = 0 then none else some (left.tmod right)
  | "<<", left, right => some (wrap (left * twoTo (right % 64).toNat))
  | ">>", left, right => some (left.fdiv (twoTo (right % 64).toNat))
  | "<", left, right => some (truth (left < right))
  | ">", left, right => some (truth (right < left))
  | "<=", left, right => some (truth (left ≤ right))
  | ">=", left, right => some (truth (right ≤ left))
  | "==", left, right => some (truth (left = right))
  | "!=", left, right => some (truth (left ≠ right))
  | "&", left, right => some ((BitVec.ofInt 64 left &&& BitVec.ofInt 64 right).toInt)
  | "|", left, right => some ((BitVec.ofInt 64 left ||| BitVec.ofInt 64 right).toInt)
  | "^", left, right => some ((BitVec.ofInt 64 left ^^^ BitVec.ofInt 64 right).toInt)
  | _, _, _ => none

def applyUnary : String → Int → Int
  | "-", value => wrap (-value)
  | "!", value => truth (value = 0)
  | "~", value => -value - 1
  | _, value => value

abbrev Variables := List (String × ByteText)

def variableValue (text : String) : StateT Variables Option Int := fun values =>
  match Pairs.find? text values with
  | none => some (0, values)
  | some held => (valueOf? held).map fun value => (value, values)

-- Assignments are noted in front of the variables that were there.
def evaluate : Expression → StateT Variables Option Int
  | .number value => pure value
  | .name text => variableValue text
  | .unary operator inner => do
    let value ← evaluate inner
    pure (applyUnary operator value)
  | .binary "&&" left right => do
    if (← evaluate left) = 0 then pure 0 else pure (truth ((← evaluate right) ≠ 0))
  | .binary "||" left right => do
    if (← evaluate left) ≠ 0 then pure 1 else pure (truth ((← evaluate right) ≠ 0))
  | .binary operator left right => do
    let first ← evaluate left
    let second ← evaluate right
    fun values => (combine? operator first second).map fun value => (value, values)
  | .conditional condition yes no => do
    if (← evaluate condition) ≠ 0 then evaluate yes else evaluate no
  | .assign text operator inner => do
    let value ← evaluate inner
    let old ← variableValue text
    let next ← if operator.isEmpty then pure value
      else fun values => (combine? operator old value).map fun value => (value, values)
    modify fun values => (text, ByteText.ofInt next) :: Pairs.erase text values
    pure next

end CompletionRules.Shell.Arithmetic
