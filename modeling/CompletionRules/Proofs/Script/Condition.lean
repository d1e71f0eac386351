import CompletionRules.Proofs.Script.BranchTest
import CompletionRules.Proofs.Table.Precedence
import CompletionRules.Script.Emit

-- Every test that is written reads back as the test that was meant, whatever characters its words have, and
-- holds for a command line exactly when its entry applies to it.

namespace CompletionRules.Script

namespace Operand

def text : Operand → String
  | .program => "$program"
  | .word index => "$\x7bwords[" ++ toString index ++ "]\x7d"

end Operand

def Comparison.text (comparison : Comparison) : String :=
  comparison.operand.text ++ " == " ++ quoted comparison.expected

namespace BranchTest

def countText (count : Nat) : String := "(($\x7b#words[@]\x7d == " ++ toString count ++ "))"

def text : BranchTest → String
  | ⟨count, []⟩ => countText count
  | ⟨count, first :: others⟩ =>
    countText count ++ " && [[ " ++ Text.joined " && " ((first :: others).map Comparison.text) ++ " ]]"

end BranchTest

theorem readNumber_append (number : Nat) (c : Char) (rest : List Char) (stops : c.isDigit = false) :
    readNumber ((toString number).toList ++ c :: rest) = some (number, c :: rest) := by
  have digits : ∀ d ∈ Nat.toDigits 10 number, d.isDigit = true := fun d member =>
    Nat.isDigit_of_mem_toDigits (by decide) (by decide) member
  have written : (toString number).toList = Nat.toDigits 10 number := Nat.toList_repr
  have front : (Nat.toDigits 10 number ++ c :: rest).takeWhile Char.isDigit = Nat.toDigits 10 number := by
    rw [List.takeWhile_append_of_pos digits, List.takeWhile_cons_of_neg (by simp [stops]), List.append_nil]
  have back : (Nat.toDigits 10 number ++ c :: rest).dropWhile Char.isDigit = c :: rest := by
    rw [List.dropWhile_append_of_pos digits, List.dropWhile_cons_of_neg (by simp [stops])]
  unfold readNumber
  rw [written, front, back]
  split
  · rename_i none
    exact absurd none Nat.toDigits_ne_nil
  · rw [Nat.ofDigitChars_ten_toDigits]

theorem readPieces_quoted (word rest : List Char) :
    readPieces true (quotedChars word ++ '\'' :: ' ' :: rest) = some (word, ' ' :: rest) := by
  induction word with
  | nil => rfl
  | cons c word ih =>
    by_cases quote : c = '\''
    · subst quote
      simp [quotedChars, readPieces, ih]
    · simp [quotedChars, readPieces, quote, ih]

theorem readWord_quoted (word : String) (rest : List Char) :
    readWord ((quoted word).toList ++ ' ' :: rest) = some (word, ' ' :: rest) := by
  have body := readPieces_quoted word.toList rest
  simp [readWord, quoted, readPieces, body]

theorem readOperand_text (operand : Operand) (rest : List Char) :
    readOperand (operand.text.toList ++ ' ' :: rest) = some (operand, ' ' :: rest) := by
  cases operand with
  | program =>
    unfold readOperand Operand.text
    rw [after?_append]
  | word index =>
    have otherwise (behind : List Char) : after? "$program".toList ("$\x7bwords[".toList ++ behind) = none := rfl
    have closing : "]\x7d".toList ++ ' ' :: rest = ']' :: '\x7d' :: ' ' :: rest := rfl
    simp only [readOperand, Operand.text, String.toList_append, List.append_assoc, otherwise, after?_append,
      Option.bind_eq_bind, Option.bind_some]
    rw [closing, readNumber_append index ']' _ (by decide), ← closing]
    simp only [Option.bind_some, after?_append]
    rfl

theorem readComparison_text (comparison : Comparison) (rest : List Char) :
    readComparison (comparison.text.toList ++ ' ' :: rest) = some (comparison, ' ' :: rest) := by
  have equals (behind : List Char) : " == ".toList ++ behind = ' ' :: ("== ".toList ++ behind) := rfl
  simp only [readComparison, Comparison.text, String.toList_append, List.append_assoc]
  rw [equals, readOperand_text, ← equals]
  simp only [Option.bind_eq_bind, Option.bind_some, after?_append, readWord_quoted]
  rfl

theorem readComparisons_text (first : Comparison) (others : List Comparison) (rest : List Char) :
    readComparisons ((Text.joined " && " ((first :: others).map Comparison.text)).toList ++ (" ]]".toList ++ rest)) =
      some (first :: others, rest) := by
  induction others generalizing first with
  | nil =>
    have closing : " ]]".toList ++ rest = ' ' :: ("]]".toList ++ rest) := rfl
    have read := readComparison_text first ("]]".toList ++ rest)
    rw [← closing] at read
    have alone : Text.joined " && " ([first].map Comparison.text) = first.text := String.intercalate_singleton
    rw [alone, readComparisons_last read rfl, after?_append]
    rfl
  | cons second others ih =>
    have joins (behind : List Char) : " && ".toList ++ behind = ' ' :: ("&& ".toList ++ behind) := rfl
    have whole : Text.joined " && " ((first :: second :: others).map Comparison.text) =
        first.text ++ " && " ++ Text.joined " && " ((second :: others).map Comparison.text) :=
      String.intercalate_cons_cons
    have tail := ih second
    rw [whole]
    generalize Text.joined " && " ((second :: others).map Comparison.text) = behind at tail ⊢
    have read := readComparison_text first ("&& ".toList ++ (behind.toList ++ (" ]]".toList ++ rest)))
    rw [← joins] at read
    simp only [String.toList_append, List.append_assoc]
    rw [readComparisons_more read (after?_append _ _), tail]
    rfl

theorem readTest_count (count : Nat) (rest : List Char) :
    readTest ((BranchTest.countText count).toList ++ rest) =
      match after? " && [[ ".toList rest with
      | none => some (⟨count, []⟩, rest)
      | some compared => (readComparisons compared).map fun (comparisons, left) => (⟨count, comparisons⟩, left) := by
  have closing : "))".toList ++ rest = ')' :: ')' :: rest := rfl
  have number := readNumber_append count ')' (')' :: rest) (by decide)
  rw [← closing] at number
  unfold readTest BranchTest.countText
  simp only [String.toList_append, List.append_assoc, after?_append, Option.bind_eq_bind, Option.bind_some, number]
  cases after? " && [[ ".toList rest with
  | none => rfl
  | some compared =>
    dsimp only
    cases readComparisons compared <;> rfl

theorem readTest_text (test : BranchTest) : readTest test.text.toList = some (test, []) := by
  match test with
  | ⟨count, []⟩ =>
    have counted := readTest_count count []
    rw [List.append_nil] at counted
    rw [BranchTest.text, counted]
    rfl
  | ⟨count, first :: others⟩ =>
    have inside := readComparisons_text first others []
    rw [List.append_nil] at inside
    simp only [BranchTest.text, String.toList_append, List.append_assoc]
    rw [readTest_count, after?_append]
    simp only [inside, Option.map_some]

theorem ofText?_text (test : BranchTest) : BranchTest.ofText? test.text = some test := by
  rw [BranchTest.ofText?, readTest_text]

-- What the tests of an entry are meant to be: the program when it is spelled out, then every word
-- that is, at its place.
def programComparisons : Option Token → List Comparison
  | some (.word text) => [⟨.program, text⟩]
  | _ => []

def wordComparisons (index : Nat) : Pattern → List Comparison
  | [] => []
  | .any :: rest => wordComparisons (index + 1) rest
  | .word text :: rest => ⟨.word index, text⟩ :: wordComparisons (index + 1) rest

def entryTest (entry : Entry) : BranchTest :=
  ⟨entry.arguments.length, programComparisons entry.program? ++ wordComparisons 0 entry.arguments⟩

theorem programTest_text (token : Option Token) :
    programTest token = (programComparisons token).map Comparison.text := by
  unfold programTest programComparisons
  split <;> simp [Comparison.text, Operand.text]

theorem wordTests_text (index : Nat) (pattern : Pattern) :
    wordTests index pattern = (wordComparisons index pattern).map Comparison.text := by
  induction pattern generalizing index with
  | nil => rfl
  | cons token rest ih =>
    cases token with
    | any => simpa [wordTests, wordTest, wordComparisons] using ih (index + 1)
    | word text =>
      simp [wordTests, wordTest, wordComparisons, Comparison.text, Operand.text, String.append_assoc, ih]

theorem condition_text (entry : Entry) : condition entry = (entryTest entry).text := by
  have tests : programTest entry.program? ++ wordTests 0 entry.arguments =
      (entryTest entry).comparisons.map Comparison.text := by
    rw [programTest_text, wordTests_text, ← List.map_append]
    rfl
  unfold condition
  rw [tests]
  have count : (entryTest entry).count = entry.arguments.length := rfl
  rw [← count]
  generalize entryTest entry = test
  match test with
  | ⟨count, []⟩ => rfl
  | ⟨count, first :: others⟩ => rfl

theorem wordComparisons_hold (program : String) (typed : List String) (pattern : Pattern) (index : Nat)
    (sameLength : pattern.length = (typed.drop index).length) :
    ((wordComparisons index pattern).all fun comparison =>
      BranchTest.value program typed comparison.operand == comparison.expected) =
        pattern.accepts (typed.drop index) := by
  induction pattern generalizing index with
  | nil =>
    have done : typed.drop index = [] := List.eq_nil_of_length_eq_zero sameLength.symm
    rw [done]
    rfl
  | cons token rest ih =>
    cases left : typed.drop index with
    | nil => simp [left] at sameLength
    | cons word others =>
      have next : typed.drop (index + 1) = others := by
        rw [← List.tail_drop, left, List.tail_cons]
      have here : typed[index]? = some word := by
        rw [← List.head?_drop, left, List.head?_cons]
      have tail := ih (index + 1) (by rw [next]; simpa [left] using sameLength)
      rw [next] at tail
      cases token with
      | any => simpa [wordComparisons, Pattern.accepts, Token.accepts] using tail
      | word text =>
        rw [wordComparisons, List.all_cons, tail]
        simp [BranchTest.value, here, Pattern.accepts, Token.accepts, Bool.beq_comm]

theorem entryTest_holds (entry : Entry) (program : String) (typed : List String) :
    (entryTest entry).holds program typed = entry.accepts (baseName program) typed := by
  unfold BranchTest.holds entryTest Entry.accepts
  by_cases sameLength : typed.length = entry.arguments.length
  · have words := wordComparisons_hold program typed entry.arguments 0 (by simp [sameLength])
    rw [List.drop_zero] at words
    simp only [sameLength, beq_self_eq_true, Bool.true_and, List.all_append, words]
    congr 1
    unfold programComparisons
    cases entry.program? with
    | none => rfl
    | some token =>
      cases token with
      | any => rfl
      | word text => simp [BranchTest.value, Token.accepts, baseName_afterLast, Bool.beq_comm]
  · have refused : entry.arguments.accepts typed = false := by
      rw [← Bool.not_eq_true, Pattern.accepts_exact]
      exact fun matched => sameLength matched.1.symm
    simp [sameLength, refused]

end CompletionRules.Script
