import CompletionRules.Shell.Session
import CompletionRules.Shell.Tool.Plan

-- How a word of a test is taken depends on how many there are and on what stands after it.

namespace CompletionRules.Shell.Test

inductive Fault where
  | missingOperand (operator : ByteText)
  | unexpected (word : ByteText)
  | unclosed
  | illegalNumber (word : ByteText)
  deriving Repr, DecidableEq

def Fault.message : Fault → String
  | .missingOperand operator => operator.toText ++ ": argument expected"
  | .unexpected word => word.toText ++ ": unexpected operator"
  | .unclosed => "closing paren expected"
  | .illegalNumber word => "Illegal number: " ++ word.toText

def isUnary (word : ByteText) : Bool :=
  match word with
  | ['-', c] => "rwxefdcbpugkstznhOGLS".toList.contains c
  | _ => false

def isBinary (word : ByteText) : Bool :=
  ["=", "!=", "<", ">", "-eq", "-ne", "-ge", "-gt", "-le", "-lt", "-nt", "-ot", "-ef"].contains
    (ByteText.name word)

inductive Role where
  | ending
  | operand
  | unary
  | binary
  | negation
  | conjunction
  | disjunction
  | opening
  | closing
  deriving Repr, DecidableEq

def role : List ByteText → Role
  | [] => .ending
  | word :: rest =>
    if isUnary word then
      match rest with
      | [] => .operand
      | [_] => .unary
      | next :: _ => if isBinary next then .operand else .unary
    else if isBinary word then .binary
    else match ByteText.name word, rest with
      | "!", _ => .negation
      | "-a", _ => .conjunction
      | "-o", _ => .disjunction
      | "(", [] => .operand
      | "(", _ => .opening
      | ")", _ => .closing
      | _, _ => .operand

def number? (text : ByteText) : Option Int :=
  let isBlank := fun (c : Char) => c == ' ' || ('\t' ≤ c && c ≤ '\r')
  match ((text.dropWhile isBlank).reverse.dropWhile isBlank).reverse with
  | [] => none
  | held => (signedNumber? held).bind fun value =>
    if -(2 : Int) * 4611686018427387904 ≤ value && value < 2 * 4611686018427387904 then some value else none

variable {m : Type → Type} [Monad m] [Disk m]

abbrev Judging (m : Type → Type) := ExceptT Fault (Run m)

def fileTest (operator : Char) (path : ByteText) : Run m Bool := do
  match device? path with
  | some _ => pure (['e', 'r', 'w', 'c'].contains operator)
  | none => do
    let place := (← get).located path.toText
    match operator, ← (Disk.look place : m (Except FileError FileKind)) with
    | _, .error _ => pure false
    | 'd', .ok kind | 'x', .ok kind => pure (kind = .directory)
    | 'f', .ok kind => pure (kind = .file)
    | 's', .ok .file => do
      match ← (Disk.read place : m (Except FileError String)) with
      | .ok text => pure (!text.isEmpty)
      | .error _ => pure true
    | operator, .ok _ => pure (['e', 'r', 'w', 's', 'O', 'G'].contains operator)

def holdsFor (operator : ByteText) (operand : ByteText) : Judging m Bool := do
  match operator with
  | ['-', 'n'] => pure (!operand.isEmpty)
  | ['-', 'z'] => pure operand.isEmpty
  | ['-', 't'] =>
    match number? operand with
    | some _ => pure false
    | none => throw (.illegalNumber operand)
  | ['-', c] => ExceptT.lift (fileTest c operand)
  | _ => pure false

def compared (operator : String) (left right : Int) : Bool :=
  match operator with
  | "-eq" => left == right
  | "-ne" => left != right
  | "-lt" => left < right
  | "-le" => left ≤ right
  | "-gt" => right < left
  | _ => right ≤ left

-- A disk keeps no times, so no file is newer than another.
def holdsBetween (left operator right : ByteText) : Judging m Bool := do
  match ByteText.name operator with
  | "=" => pure (left == right)
  | "!=" => pure (left != right)
  | "<" => pure (left != right && left.comesFirst right)
  | ">" => pure (left != right && right.comesFirst left)
  | "-ef" => ExceptT.lift do
    let session ← get
    (Disk.isSame (session.located left.toText) (session.located right.toText) : m Bool)
  | "-nt" | "-ot" => pure false
  | name =>
    match number? left, number? right with
    | some first, some second => pure (compared name first second)
    | none, _ => throw (.illegalNumber left)
    | _, none => throw (.illegalNumber right)

-- Every reader is given the words from the one it looks at on, with the role of that one, and leaves
-- at the last word that it took.
mutual

def either : Nat → Role → List ByteText → Judging m (Bool × List ByteText)
  | 0, _, words => pure (false, words)
  | depth + 1, asked, words => do
    let (held, last) ← all depth asked words
    match role (last.drop 1) with
    | .disjunction => do
      let next := last.drop 2
      let (other, after) ← either depth (role next) next
      pure (held || other, after)
    | _ => pure (held, last)

def all : Nat → Role → List ByteText → Judging m (Bool × List ByteText)
  | 0, _, words => pure (false, words)
  | depth + 1, asked, words => do
    let (held, last) ← negated depth asked words
    match role (last.drop 1) with
    | .conjunction => do
      let next := last.drop 2
      let (other, after) ← all depth (role next) next
      pure (held && other, after)
    | _ => pure (held, last)

def negated : Nat → Role → List ByteText → Judging m (Bool × List ByteText)
  | 0, _, words => pure (false, words)
  | depth + 1, asked, words => do
    if asked = .negation then
      let next := words.drop 1
      let (held, last) ← negated depth (role next) (if next.isEmpty then words else next)
      pure (!held, last)
    else single depth asked words

def single : Nat → Role → List ByteText → Judging m (Bool × List ByteText)
  | 0, _, words => pure (false, words)
  | depth + 1, asked, words => do
    match asked, words with
    | .ending, _ => pure (false, words)
    | .opening, _ :: rest =>
      if role rest = .closing then pure (false, rest)
      else do
        let (held, last) ← either depth (role rest) rest
        if role (last.drop 1) = .closing then pure (held, last.drop 1) else throw .unclosed
    | .unary, operator :: operand :: rest => do
      let held ← holdsFor operator operand
      pure (held, operand :: rest)
    | .unary, [operator] => throw (.missingOperand operator)
    | _, left :: operator :: rest =>
      if role (operator :: rest) = .binary then
        match rest with
        | [] => throw (.missingOperand operator)
        | right :: _ => do
          let held ← holdsBetween left operator right
          pure (held, rest)
      else pure (!left.isEmpty, words)
    | _, [only] => pure (!only.isEmpty, words)
    | _, [] => pure (false, words)

end

-- Of three words a sign for two operands counts as one in the middle. Otherwise words in parentheses are taken
-- without them, and a negation before them counts once, however often it is written.
def settled (turned : Bool) : List ByteText → Bool × Role × List ByteText
  | [] => (turned, .ending, [])
  | first :: rest =>
    let words := first :: rest
    if rest.length = 2 && rest.head?.any isBinary then (turned, .operand, words)
    else if rest.length = 2 || rest.length = 3 then
      if first = ['('] && rest.getLast? = some [')'] then (turned, role rest.dropLast, rest.dropLast)
      else if first = ['!'] then settled true rest
      else (turned, role words, words)
    else (turned, role words, words)

def judge (words : List ByteText) : Judging m Bool := do
  if words.isEmpty then pure false
  else do
    let (turned, asked, words) := settled false words
    let (held, last) ← either (8 * words.length + 16) asked words
    match last with
    | _ :: word :: _ => throw (.unexpected word)
    | _ => pure (held != turned)

def run (name : String) (words : List ByteText) : Run m Flow := do
  match ← (judge words).run with
  | .ok held => finish (if held then 0 else 1)
  | .error fault => do
    complain (name ++ ": " ++ fault.message)
    finish 2

end CompletionRules.Shell.Test
