import CompletionRules.Proofs.Text.AfterLast
import CompletionRules.Script.Wrapper

-- The test of a branch, read back as the shell reads it and then carried out. The reader knows the text only,
-- so a quote or a bracket in a rule could make it stop or read something else.

namespace CompletionRules.Script

inductive Operand where
  | program
  | word (index : Nat)
  deriving Repr, DecidableEq

structure Comparison where
  operand : Operand
  expected : String
  deriving Repr, DecidableEq

structure BranchTest where
  count : Nat
  comparisons : List Comparison
  deriving Repr, DecidableEq

-- Reading. Each reader gives what it has read and the text behind it.

def readNumber (text : List Char) : Option (Nat × List Char) :=
  match text.takeWhile Char.isDigit with
  | [] => none
  | digits => some (Nat.ofDigitChars 10 digits 0, text.dropWhile Char.isDigit)

-- The pieces of a word, inside quotes or outside, up to a blank outside quotes. Outside quotes
-- there may only be a quote behind a backslash.
def readPieces : Bool → List Char → Option (List Char × List Char)
  | true, [] => none
  | true, '\'' :: rest => readPieces false rest
  | true, c :: rest => (readPieces true rest).map fun (text, left) => (c :: text, left)
  | false, [] => some ([], [])
  | false, '\'' :: rest => readPieces true rest
  | false, '\\' :: '\'' :: rest => (readPieces false rest).map fun (text, left) => ('\'' :: text, left)
  | false, ' ' :: rest => some ([], ' ' :: rest)
  | false, '\t' :: rest => some ([], '\t' :: rest)
  | false, _ => none

def readWord (text : List Char) : Option (String × List Char) :=
  if text.head? = some '\'' ∨ text.head? = some '\\' then
    (readPieces false text).map fun (word, left) => (.ofList word, left)
  else none

def readOperand (text : List Char) : Option (Operand × List Char) :=
  match after? "$program".toList text with
  | some left => some (.program, left)
  | none => do
    let inner ← after? "$\x7bwords[".toList text
    let (index, behind) ← readNumber inner
    let left ← after? "]\x7d".toList behind
    return (.word index, left)

def readComparison (text : List Char) : Option (Comparison × List Char) := do
  let (operand, behind) ← readOperand text
  let right ← after? " == ".toList behind
  let (expected, left) ← readWord right
  return (⟨operand, expected⟩, left)

theorem after?_length {start text left : List Char} (found : after? start text = some left) :
    left.length + start.length = text.length := by
  unfold after? at found
  split at found
  · rename_i begins
    cases found
    have shorter := (List.isPrefixOf_iff_prefix.mp begins).length_le
    rw [List.length_drop]
    omega
  · cases found

theorem readNumber_length {text left : List Char} {number : Nat}
    (read : readNumber text = some (number, left)) : left.length ≤ text.length := by
  unfold readNumber at read
  split at read
  · cases read
  · cases read
    exact (List.dropWhile_suffix _).length_le

theorem readPieces_length {inside : Bool} {text word left : List Char}
    (read : readPieces inside text = some (word, left)) : left.length ≤ text.length := by
  fun_induction readPieces inside text generalizing word left with
  | case1 => cases read
  | case2 rest ih => exact Nat.le_succ_of_le (ih read)
  | case3 c rest _ ih =>
    obtain ⟨⟨inner, behind⟩, found, same⟩ := Option.map_eq_some_iff.mp read
    cases same
    exact Nat.le_succ_of_le (ih found)
  | case4 => cases read; exact Nat.le_refl _
  | case5 rest ih => exact Nat.le_succ_of_le (ih read)
  | case6 rest ih =>
    obtain ⟨⟨inner, behind⟩, found, same⟩ := Option.map_eq_some_iff.mp read
    cases same
    exact Nat.le_succ_of_le (Nat.le_succ_of_le (ih found))
  | case7 => cases read; exact Nat.le_refl _
  | case8 => cases read; exact Nat.le_refl _
  | case9 => cases read

theorem readWord_length {text left : List Char} {word : String}
    (read : readWord text = some (word, left)) : left.length ≤ text.length := by
  unfold readWord at read
  split at read
  · obtain ⟨⟨inner, behind⟩, found, same⟩ := Option.map_eq_some_iff.mp read
    cases same
    exact readPieces_length found
  · cases read

theorem readOperand_length {text left : List Char} {operand : Operand}
    (read : readOperand text = some (operand, left)) : left.length ≤ text.length := by
  unfold readOperand at read
  split at read
  · rename_i behind found
    cases read
    exact Nat.le_of_add_right_le (Nat.le_of_eq (after?_length found))
  · simp only [Option.bind_eq_bind, Option.bind_eq_some_iff] at read
    obtain ⟨inner, opened, ⟨index, behind⟩, number, rest, closed, same⟩ := read
    dsimp only at closed
    cases same
    have first := after?_length opened
    have second := readNumber_length number
    have third := after?_length closed
    omega

theorem readComparison_length {text left : List Char} {comparison : Comparison}
    (read : readComparison text = some (comparison, left)) : left.length ≤ text.length := by
  simp only [readComparison, Option.bind_eq_bind, Option.bind_eq_some_iff] at read
  obtain ⟨⟨operand, behind⟩, looked, right, compared, ⟨expected, rest⟩, word, same⟩ := read
  dsimp only at compared same
  cases same
  have first := readOperand_length looked
  have second := after?_length compared
  have third := readWord_length word
  omega

def readComparisons (text : List Char) : Option (List Comparison × List Char) :=
  match _read : readComparison text with
  | none => none
  | some (comparison, behind) =>
    match _more : after? " && ".toList behind with
    | none => (after? " ]]".toList behind).map fun left => ([comparison], left)
    | some next => (readComparisons next).map fun (others, left) => (comparison :: others, left)
termination_by text.length
decreasing_by
  have bound := readComparison_length _read
  have shorter := after?_length _more
  have joins : 0 < " && ".toList.length := by decide
  omega

theorem readComparisons_last {text behind : List Char} {comparison : Comparison}
    (read : readComparison text = some (comparison, behind)) (last : after? " && ".toList behind = none) :
    readComparisons text = (after? " ]]".toList behind).map fun left => ([comparison], left) := by
  unfold readComparisons
  split
  · simp_all
  · split <;> simp_all

theorem readComparisons_more {text behind next : List Char} {comparison : Comparison}
    (read : readComparison text = some (comparison, behind)) (more : after? " && ".toList behind = some next) :
    readComparisons text = (readComparisons next).map fun (others, left) => (comparison :: others, left) := by
  rw [readComparisons]
  split
  · simp_all
  · split <;> simp_all

def readTest (text : List Char) : Option (BranchTest × List Char) := do
  let inner ← after? "(($\x7b#words[@]\x7d == ".toList text
  let (count, behind) ← readNumber inner
  let left ← after? "))".toList behind
  match after? " && [[ ".toList left with
  | none => return (⟨count, []⟩, left)
  | some compared => do
    let (comparisons, rest) ← readComparisons compared
    return (⟨count, comparisons⟩, rest)

namespace BranchTest

def ofText? (text : String) : Option BranchTest :=
  match readTest text.toList with
  | some (test, []) => some test
  | _ => none

-- Carrying out. The program variable holds the command without its longest start that ends in a
-- slash; a word that was not typed is empty.
def value (program : String) (typed : List String) : Operand → String
  | .program => .ofList (Text.afterLast '/' program.toList)
  | .word index => typed[index]?.getD ""

def holds (test : BranchTest) (program : String) (typed : List String) : Bool :=
  typed.length == test.count &&
    test.comparisons.all fun comparison => value program typed comparison.operand == comparison.expected

end BranchTest

end CompletionRules.Script
