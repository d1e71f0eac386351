import CompletionRules.Proofs.Script.Condition
import CompletionRules.Proofs.Script.Variables

-- The line that opens a branch, and what it does with variables. It is a test that is put together from
-- words of rules, so all of its quotes have to close again before the shell reads on.

namespace CompletionRules.Script

def Operand.variable : Operand → String
  | .program => "program"
  | .word _ => "words"

def testLine (keyword : String) (test : BranchTest) : String := "  " ++ keyword ++ " " ++ test.text ++ "; then"

theorem mem_digits {number : Nat} {c : Char} (member : c ∈ (toString number).toList) : c.isDigit = true := by
  have written : (toString number).toList = Nat.toDigits 10 number := Nat.toList_repr
  rw [written] at member
  exact Nat.isDigit_of_mem_toDigits (by decide) (by decide) member

theorem digits_ne_nil (number : Nat) : (toString number).toList ≠ [] := by
  have written : (toString number).toList = Nat.toDigits 10 number := Nat.toList_repr
  rw [written]
  exact Nat.toDigits_ne_nil

theorem mem_digits_ne {number : Nat} {c other : Char} (member : c ∈ (toString number).toList)
    (letter : other.isDigit = false) : c ≠ other := by
  rintro rfl
  rw [mem_digits member] at letter
  cases letter

theorem namesIn_separator (left right : List Char) {c : Char} (separator : isNameChar c = false) :
    namesIn (left ++ c :: right) = namesIn left ++ namesIn right := by
  rw [namesIn, Text.fieldsOf_append_separator _ _ _ (by simp [separator]), List.filter_append, List.map_append]
  rfl

theorem namesIn_digits (number : Nat) : namesIn (toString number).toList = [] := by
  have digits : ∀ c ∈ (toString number).toList, c.isDigit = true := fun c member => mem_digits member
  have filled := digits_ne_nil number
  generalize (toString number).toList = written at digits filled
  have whole : ∀ c ∈ written, (!isNameChar c) = false := by
    intro c member
    simp [isNameChar, Char.isAlphanum, digits c member]
  rw [namesIn, Text.fieldsOf_whole filled whole]
  obtain ⟨c, rest, rfl⟩ := List.exists_cons_of_ne_nil filled
  simp [startsName, digits c]

section

variable {inner : List Char} {mark : Char}

theorem takeWhile_ne_mark (absent : mark ∉ inner) (rest : List Char) :
    (inner ++ mark :: rest).takeWhile (· ≠ mark) = inner := by
  have other : ∀ c ∈ inner, decide (c ≠ mark) = true := by
    intro c member
    simpa using ne_of_mem_of_not_mem member absent
  rw [List.takeWhile_append_of_pos other, List.takeWhile_cons_of_neg (by simp), List.append_nil]

theorem namesExpanded_braces (noBrace : '\x7d' ∉ inner) (rest : List Char) :
    namesExpanded ('\x7b' :: (inner ++ '\x7d' :: rest)) = namesIn inner := by
  rw [namesExpanded, takeWhile_ne_mark noBrace]

theorem namesCalculated_parens (noParen : ')' ∉ inner) (rest : List Char) :
    namesCalculated ('(' :: (inner ++ ')' :: rest)) = namesIn inner := by
  rw [namesCalculated, takeWhile_ne_mark noParen]

end

def indexText (index : Nat) : List Char := "words".toList ++ '[' :: ((toString index).toList ++ [']'])

theorem indexText_not_mem (index : Nat) {c : Char} (letter : c.isDigit = false) (other : c ∉ "words[]".toList) :
    c ∉ indexText index := by
  intro member
  rcases List.mem_append.mp member with front | behind
  · exact other (List.mem_append_left "[]".toList front)
  · rcases List.mem_cons.mp behind with opening | later
    · exact other (opening ▸ by decide)
    · rcases List.mem_append.mp later with digit | closing
      · exact mem_digits_ne digit letter rfl
      · exact other (List.mem_singleton.mp closing ▸ by decide)

theorem namesIn_indexText (index : Nat) : namesIn (indexText index) = ["words"] := by
  rw [indexText, namesIn_separator _ _ (by decide), namesIn_separator _ _ (by decide), namesIn_digits]
  decide

theorem wordText_toList (index : Nat) :
    (Operand.word index).text.toList = '$' :: '\x7b' :: (indexText index ++ ['\x7d']) := by
  simp [Operand.text, indexText]

theorem namesRead_operand (operand : Operand) (rest : List Char) :
    namesRead (operand.text.toList ++ ' ' :: rest) = operand.variable :: namesRead rest := by
  cases operand with
  | program => rfl
  | word index =>
    have text : (Operand.word index).text.toList ++ ' ' :: rest =
        '$' :: '\x7b' :: (indexText index ++ '\x7d' :: ' ' :: rest) := by
      simp [wordText_toList]
    have noDollar := indexText_not_mem index (c := '$') (by decide) (by decide)
    have noParen := indexText_not_mem index (c := '(') (by decide) (by decide)
    have plain : ∀ c ∈ indexText index, c ≠ '$' ∧ c ≠ '(' := fun c member =>
      ⟨ne_of_mem_of_not_mem member noDollar, ne_of_mem_of_not_mem member noParen⟩
    have opening (behind : List Char) : namesRead ('\x7b' :: behind) = namesRead behind := rfl
    rw [text, namesRead, if_pos rfl, namesExpanded_braces (indexText_not_mem index (by decide) (by decide)),
      namesIn_indexText, opening, namesRead_skip plain]
    rfl

def sumText (count : Nat) : List Char := "$\x7b#words[@]\x7d ==".toList ++ ' ' :: (toString count).toList

theorem countText_toList (count : Nat) :
    (BranchTest.countText count).toList = '(' :: '(' :: (sumText count ++ [')', ')']) := by
  unfold BranchTest.countText sumText
  rw [String.toList_append, String.toList_append]
  generalize (toString count).toList = digits
  simp

theorem sumText_not_mem (count : Nat) {c : Char} (letter : c.isDigit = false)
    (other : c ∉ "$\x7b#words[@]\x7d == ".toList) : c ∉ sumText count := by
  intro member
  rcases List.mem_append.mp member with front | behind
  · exact other (List.mem_append_left " ".toList front)
  · rcases List.mem_cons.mp behind with blank | digit
    · exact other (blank ▸ by decide)
    · exact mem_digits_ne digit letter rfl

theorem namesRead_count (count : Nat) (rest : List Char) :
    namesRead ((BranchTest.countText count).toList ++ rest) = "words" :: "words" :: namesRead rest := by
  have text : (BranchTest.countText count).toList ++ rest = '(' :: '(' :: (sumText count ++ ')' :: ')' :: rest) := by
    simp [countText_toList]
  have opening (behind : List Char) :
      namesRead ("($\x7b#words[@]\x7d ==".toList ++ behind) = "words" :: namesRead behind := rfl
  have calculated : namesIn (sumText count) = ["words"] := by
    unfold sumText
    rw [namesIn_separator _ _ (by decide), namesIn_digits]
    decide
  have inside : '(' :: (sumText count ++ ')' :: ')' :: rest) =
      "($\x7b#words[@]\x7d ==".toList ++ (' ' :: (toString count).toList ++ ')' :: ')' :: rest) := by
    unfold sumText
    simp
  have noParen : ')' ∉ sumText count := sumText_not_mem count (by decide) (by decide)
  have digits : ∀ c ∈ (toString count).toList, c ≠ '$' ∧ c ≠ '(' := fun c member =>
    ⟨mem_digits_ne member (by decide), mem_digits_ne member (by decide)⟩
  have plain : ∀ c ∈ ' ' :: (toString count).toList, c ≠ '$' ∧ c ≠ '(' :=
    List.forall_mem_cons.mpr ⟨by decide, digits⟩
  rw [text, namesRead, if_neg (by decide), if_pos rfl, namesCalculated_parens noParen, calculated, inside, opening,
    namesRead_skip plain]
  rfl

-- No word starts as a name does. The flag tells whether the text starts with a word or goes on with one.
def unnamed : Bool → List Char → Bool
  | _, [] => true
  | start, c :: rest => !(start && startsName c) && unnamed (isGap c) rest

theorem unnamed_pieces {start : Bool} {text : List Char} (quiet : unnamed start text = true) :
    ∀ piece ∈ (if start then Text.pieces isGap text else (Text.pieces isGap text).tail),
      piece.head?.any startsName = false := by
  induction text generalizing start with
  | nil => cases start <;> simp [Text.pieces]
  | cons c rest ih =>
    obtain ⟨here, later⟩ := Bool.and_eq_true_iff.mp quiet
    have others := ih later
    by_cases gap : isGap c = true
    · rw [gap, if_pos rfl] at others
      rw [Text.pieces, if_pos gap]
      cases start with
      | true => exact List.forall_mem_cons.mpr ⟨rfl, others⟩
      | false => exact others
    · rw [if_neg gap] at others
      obtain ⟨first, more, cut⟩ := List.exists_cons_of_ne_nil (Text.pieces_ne_nil isGap rest)
      rw [cut] at others
      rw [Text.pieces, if_neg gap, cut]
      cases start with
      | true => exact List.forall_mem_cons.mpr ⟨by simpa using here, others⟩
      | false => exact others

theorem unnamed_fields {text field : List Char} (quiet : unnamed true text = true)
    (member : field ∈ Text.fieldsOf isGap text) : field.head?.any startsName = false :=
  unnamed_pieces quiet field (List.mem_filter.mp member).1

theorem unnamed_digits {digits : List Char} (written : ∀ c ∈ digits, c.isDigit = true) {c : Char}
    (other : startsName c = false) (start : Bool) (rest : List Char) :
    unnamed start (digits ++ c :: rest) = unnamed (isGap c) rest := by
  induction digits generalizing start with
  | nil => simp [unnamed, other]
  | cons d digits ih =>
    have digit := written d (by simp)
    rw [List.cons_append, unnamed, ih fun e member => written e (List.mem_cons_of_mem _ member)]
    simp [startsName, digit]

theorem assigned?_unnamed {word : String} (quiet : word.toList.head?.any startsName = false) :
    assigned? word = none := by
  have front : (word.toList.takeWhile isNameChar).head?.any startsName = false := by
    cases parts : word.toList with
    | nil => rfl
    | cons c rest =>
      rw [parts] at quiet
      rw [List.takeWhile_cons]
      split
      · exact quiet
      · rfl
  rw [assigned?, if_neg (by simp [front])]

theorem namesSet_unnamed {words : List String} (quiet : ∀ word ∈ words, word.toList.head?.any startsName = false)
    (starts : Bool) (ending : List String) :
    ∃ further, namesSet starts (words ++ ending) = namesSet further ending := by
  induction words generalizing starts with
  | nil => exact ⟨starts, rfl⟩
  | cons word others ih =>
    obtain ⟨here, later⟩ := List.forall_mem_cons.mp quiet
    cases starts with
    | false => exact ih later (endsCommand word)
    | true =>
      have noLoop : word ≠ "for" := by
        rintro rfl
        exact absurd here (by decide)
      have noReader : word ≠ "read" := by
        rintro rfl
        exact absurd here (by decide)
      obtain ⟨further, same⟩ := ih later (opensCommand word || endsCommand word)
      refine ⟨further, ?_⟩
      rw [List.cons_append, namesSet, assigned?_unnamed here, if_neg noLoop, if_neg noReader]
      exact same

-- A test cut into steps, each a comparison with what stands in front of it, and what closes them. Each
-- property of the line is then one induction over the steps.
namespace BranchTest

def led : BranchTest → List (String × Comparison)
  | ⟨_, []⟩ => []
  | ⟨_, first :: others⟩ => (" && [[ ", first) :: others.map (" && ", ·)

def closing : BranchTest → String
  | ⟨_, []⟩ => ""
  | ⟨_, _ :: _⟩ => " ]]"

theorem text_toList (test : BranchTest) : test.text.toList = (countText test.count).toList ++
    ((test.led.flatMap fun step => step.1.toList ++ step.2.text.toList) ++ test.closing.toList) := by
  match test with
  | ⟨count, []⟩ => simp [text, led, closing]
  | ⟨count, first :: others⟩ =>
    have compared := Text.joined_cons_toList " && " first.text (others.map Comparison.text)
    rw [List.flatMap_map] at compared
    simp only [text, led, closing, String.toList_append, List.map_cons, compared, List.flatMap_cons, List.flatMap_map,
      List.append_assoc]

theorem led_known {test : BranchTest} : ∀ step ∈ test.led, step.1 = " && [[ " ∨ step.1 = " && " := by
  match test with
  | ⟨_, []⟩ => nofun
  | ⟨_, first :: others⟩ =>
    refine List.forall_mem_cons.mpr ⟨.inl rfl, ?_⟩
    simp

theorem led_comparisons (test : BranchTest) : test.led.map Prod.snd = test.comparisons := by
  match test with
  | ⟨_, []⟩ => rfl
  | ⟨_, first :: others⟩ => simp [led, Function.comp_def]

end BranchTest

def bareStep (step : String × Comparison) : List Char :=
  step.1.toList ++ step.2.operand.text.toList ++ " == ".toList

def stepChars : List Char := " &[$program\x7bwords]\x7d=".toList

section

variable {step : String × Comparison} (known : step.1 = " && [[ " ∨ step.1 = " && ")
include known

theorem bareStep_not_mem {c : Char} (letter : c.isDigit = false) (other : c ∉ stepChars) : c ∉ bareStep step := by
  have within : ∀ text ∈ [" && [[ ", " && ", "$program", "$\x7b\x7d", "words[]", " == "], text.toList ⊆ stepChars := by
    decide
  have absent (text : String) (listed : text ∈ [" && [[ ", " && ", "$program", "$\x7b\x7d", "words[]", " == "]) :
      c ∉ text.toList := fun member => other (within text listed member)
  have lead : c ∉ step.1.toList := by
    rcases known with same | same <;> rw [same] <;> exact absent _ (by decide)
  have operand : c ∉ step.2.operand.text.toList := by
    cases step.2.operand with
    | program => exact absent "$program" (by decide)
    | word index =>
      have inside := indexText_not_mem index letter (absent "words[]" (by decide))
      have braces := absent "$\x7b\x7d" (by decide)
      rw [wordText_toList]
      simpa [inside] using braces
  have equals : c ∉ " == ".toList := absent _ (by decide)
  simp only [bareStep, List.mem_append, not_or]
  exact ⟨⟨lead, operand⟩, equals⟩

theorem unquoted_step (rest : List Char) :
    unquoted .bare (step.1.toList ++ step.2.text.toList ++ rest) = bareStep step ++ unquoted .bare rest := by
  have text : step.1.toList ++ step.2.text.toList ++ rest =
      bareStep step ++ ((quoted step.2.expected).toList ++ rest) := by
    simp [bareStep, Comparison.text]
  have absent {c : Char} (letter : c.isDigit = false) (other : c ∉ stepChars) : c ∉ bareStep step :=
    bareStep_not_mem known letter other
  have plain : HasNoQuotes (bareStep step) :=
    ⟨absent (by decide) (by decide), absent (by decide) (by decide), absent (by decide) (by decide)⟩
  have ends : (bareStep step).getLast? = some ' ' := by simp [bareStep]
  rw [text, unquoted_plain (.inl rfl) (by simp [bareStep]) plain (by simp [ends]), unquoted_quoted]

theorem unnamed_step (start : Bool) (rest : List Char) :
    unnamed start (bareStep step ++ rest) = unnamed true rest := by
  have lead (behind : List Char) : unnamed start (step.1.toList ++ behind) = unnamed true behind := by
    rcases known with same | same <;> rw [same] <;> cases start <;> rfl
  rw [bareStep, List.append_assoc, List.append_assoc, lead]
  cases step.2.operand with
  | program => rfl
  | word index =>
    have digits : ∀ c ∈ (toString index).toList, c.isDigit = true := fun c member => mem_digits member
    have opening (behind : List Char) :
        unnamed true ("$\x7bwords[".toList ++ behind) = unnamed false behind := rfl
    have text : (Operand.word index).text.toList ++ (" == ".toList ++ rest) =
        "$\x7bwords[".toList ++ ((toString index).toList ++ ']' :: '\x7d' :: (" == ".toList ++ rest)) := by
      simp [wordText_toList, indexText]
    rw [text, opening, unnamed_digits digits (by decide)]
    rfl

theorem namesRead_step (rest : List Char) :
    namesRead (bareStep step ++ rest) = step.2.operand.variable :: namesRead rest := by
  have text : bareStep step ++ rest =
      step.1.toList ++ (step.2.operand.text.toList ++ ' ' :: ("== ".toList ++ rest)) := by
    simp [bareStep]
  have lead (behind : List Char) : namesRead (step.1.toList ++ behind) = namesRead behind := by
    rcases known with same | same <;> rw [same] <;> rfl
  rw [text, lead, namesRead_operand]
  rfl

end

section

variable {steps : List (String × Comparison)} (known : ∀ step ∈ steps, step.1 = " && [[ " ∨ step.1 = " && ")
include known

theorem unquoted_steps (rest : List Char) :
    unquoted .bare ((steps.flatMap fun step => step.1.toList ++ step.2.text.toList) ++ rest) =
      steps.flatMap bareStep ++ unquoted .bare rest := by
  induction steps with
  | nil => rfl
  | cons step others ih =>
    obtain ⟨here, later⟩ := List.forall_mem_cons.mp known
    rw [List.flatMap_cons, List.flatMap_cons, List.append_assoc, unquoted_step here, ih later, List.append_assoc]

theorem unnamed_steps {rest : List Char} (quiet : ∀ start, unnamed start rest = true) (start : Bool) :
    unnamed start (steps.flatMap bareStep ++ rest) = true := by
  induction steps generalizing start with
  | nil => exact quiet start
  | cons step others ih =>
    obtain ⟨here, later⟩ := List.forall_mem_cons.mp known
    rw [List.flatMap_cons, List.append_assoc, unnamed_step here]
    exact ih later true

theorem namesRead_steps (rest : List Char) :
    namesRead (steps.flatMap bareStep ++ rest) =
      (steps.map Prod.snd).map (fun comparison => comparison.operand.variable) ++ namesRead rest := by
  induction steps with
  | nil => rfl
  | cons step others ih =>
    obtain ⟨here, later⟩ := List.forall_mem_cons.mp known
    rw [List.flatMap_cons, List.append_assoc, namesRead_step here, ih later]
    rfl

end

theorem withoutLists_plain {text : List Char} (plain : '(' ∉ text) : withoutLists false text = text := by
  induction text with
  | nil => rfl
  | cons c rest ih =>
    obtain ⟨_, later⟩ := not_or.mp (mt List.mem_cons.mpr plain)
    rw [withoutLists, ih later]
    rintro inner rfl rfl
    exact later (by simp)

namespace BranchTest

variable (test : BranchTest)

def bareText : List Char := sumText test.count ++ [')', ')'] ++ test.led.flatMap bareStep ++ test.closing.toList

theorem closing_cases : test.closing = "" ∨ test.closing = " ]]" := by
  match test with
  | ⟨_, []⟩ => exact .inl rfl
  | ⟨_, _ :: _⟩ => exact .inr rfl

theorem unquoted_text : unquoted .bare (test.text.toList ++ "; then".toList) =
    '(' :: '(' :: test.bareText ++ "; then".toList := by
  have plain : HasNoQuotes (countText test.count).toList := by
    have absent {c : Char} (letter : c.isDigit = false) (other : c ∉ "$\x7b#words[@]\x7d == ".toList)
        (noParen : c ∉ "()".toList) : c ∉ (countText test.count).toList := by
      have inside := sumText_not_mem test.count letter other
      rw [countText_toList]
      simpa [inside, and_assoc] using noParen
    exact ⟨absent (by decide) (by decide) (by decide), absent (by decide) (by decide) (by decide),
      absent (by decide) (by decide) (by decide)⟩
  have ends : (countText test.count).toList.getLast? = some ')' := by
    have last : (countText test.count).toList = '(' :: '(' :: (sumText test.count ++ [')']) ++ [')'] := by
      simp [countText_toList]
    rw [last, List.getLast?_concat]
  have closing : unquoted .bare (test.closing.toList ++ "; then".toList) = test.closing.toList ++ "; then".toList := by
    rcases test.closing_cases with same | same <;> rw [same] <;> rfl
  rw [text_toList, List.append_assoc, List.append_assoc, unquoted_plain (.inl rfl) (by simp [countText_toList]) plain
    (by simp [ends]), unquoted_steps led_known, closing, countText_toList, bareText]
  simp

theorem bareText_not_mem : '(' ∉ test.bareText := by
  have sum : '(' ∉ sumText test.count := sumText_not_mem _ (by decide) (by decide)
  have steps : '(' ∉ test.led.flatMap bareStep := by
    intro member
    obtain ⟨step, listed, inside⟩ := List.mem_flatMap.mp member
    exact bareStep_not_mem (led_known step listed) (by decide) (by decide) inside
  have closing : '(' ∉ test.closing.toList := by
    rcases test.closing_cases with same | same <;> rw [same] <;> decide
  simp [bareText, sum, steps, closing]

theorem unnamed_bareText : unnamed true ('(' :: '(' :: test.bareText ++ [';']) = true := by
  have digits : ∀ c ∈ (toString test.count).toList, c.isDigit = true := fun c member => mem_digits member
  have quiet : ∀ start, unnamed start (test.closing.toList ++ [';']) = true := by
    rcases test.closing_cases with same | same <;> rw [same] <;> decide
  have text : '(' :: '(' :: test.bareText ++ [';'] =
      "(($\x7b#words[@]\x7d == ".toList ++ ((toString test.count).toList ++
        ')' :: ')' :: (test.led.flatMap bareStep ++ (test.closing.toList ++ [';']))) := by
    unfold bareText sumText
    simp
  have opening (behind : List Char) :
      unnamed true ("(($\x7b#words[@]\x7d == ".toList ++ behind) = unnamed true behind := rfl
  rw [text, opening, unnamed_digits digits (by decide)]
  exact unnamed_steps led_known quiet false

end BranchTest

theorem testLine_toList (keyword : String) (test : BranchTest) : (testLine keyword test).toList =
    ("  " ++ keyword ++ " ").toList ++ (test.text.toList ++ "; then".toList) := by
  simp [testLine]

section

variable {keyword : String} (known : keyword = "if" ∨ keyword = "elif") (test : BranchTest)
include known

theorem unquoted_testLine : unquoted .bare (testLine keyword test).toList =
    ("  " ++ keyword ++ " ").toList ++ ('(' :: '(' :: test.bareText ++ "; then".toList) := by
  rw [testLine_toList, unquoted_plain (.inl rfl), test.unquoted_text]
  · rcases known with rfl | rfl <;> decide
  · rcases known with rfl | rfl <;> decide
  · rcases known with rfl | rfl <;> decide

theorem shellWords_testLine : ∃ words, shellWords (testLine keyword test) = keyword :: (words ++ ["then"]) ∧
    ∀ word ∈ words, word.toList.head?.any startsName = false := by
  have kept : withoutLists false (unquoted .bare (testLine keyword test).toList) =
      ("  " ++ keyword).toList ++ ' ' :: (('(' :: '(' :: test.bareText ++ [';']) ++ ' ' :: "then".toList) := by
    have start (behind : List Char) : withoutLists false (("  " ++ keyword ++ " ").toList ++ '(' :: '(' :: behind) =
        ("  " ++ keyword ++ " ").toList ++ '(' :: '(' :: withoutLists false behind := by
      rcases known with rfl | rfl <;> rfl
    have noParen : '(' ∉ test.bareText ++ "; then".toList := by
      simp [test.bareText_not_mem]
    rw [unquoted_testLine known, List.cons_append, List.cons_append, start, withoutLists_plain noParen]
    simp
  have first : (Text.fieldsOf isGap ("  " ++ keyword).toList).map String.ofList = [keyword] := by
    rcases known with rfl | rfl <;> decide
  have last : (Text.fieldsOf isGap "then".toList).map String.ofList = ["then"] := by decide
  refine ⟨(Text.fieldsOf isGap ('(' :: '(' :: test.bareText ++ [';'])).map String.ofList, ?_, ?_⟩
  · rw [shellWords, kept, Text.fieldsOf_append_separator _ _ _ (by decide),
      Text.fieldsOf_append_separator _ _ _ (by decide), List.map_append, List.map_append, first, last]
    rfl
  · intro word member
    obtain ⟨field, listed, rfl⟩ := List.mem_map.mp member
    rw [String.toList_ofList]
    exact unnamed_fields test.unnamed_bareText listed

-- Whatever the words are that a test compares with, it reads the words of the command line and what its
-- comparisons look at, and sets nothing.
theorem testLine_uses : Line.reads (testLine keyword test) =
      "words" :: "words" :: test.comparisons.map (fun comparison => comparison.operand.variable) ∧
    Line.sets (testLine keyword test) = [] ∧ Line.declares (testLine keyword test) = [] := by
  obtain ⟨words, cut, quiet⟩ := shellWords_testLine known test
  refine ⟨?_, ?_, ?_⟩
  · have text : '(' :: '(' :: test.bareText ++ "; then".toList = (BranchTest.countText test.count).toList ++
        (test.led.flatMap bareStep ++ (test.closing.toList ++ "; then".toList)) := by
      simp [countText_toList, BranchTest.bareText]
    have front (behind : List Char) : namesRead (("  " ++ keyword ++ " ").toList ++ behind) = namesRead behind := by
      rcases known with rfl | rfl <;> rfl
    have ending : namesRead (test.closing.toList ++ "; then".toList) = [] := by
      rcases test.closing_cases with same | same <;> rw [same] <;> rfl
    rw [Line.reads, unquoted_testLine known, text, front, namesRead_count, namesRead_steps BranchTest.led_known, ending,
      BranchTest.led_comparisons, List.append_nil]
  · obtain ⟨further, left⟩ := namesSet_unnamed quiet true ["then"]
    have opened : namesSet true (keyword :: (words ++ ["then"])) = namesSet true (words ++ ["then"]) := by
      rcases known with rfl | rfl <;> rfl
    have ending : namesSet further ["then"] = [] := by cases further <;> rfl
    rw [Line.sets, cut, opened, left, ending]
  · rw [Line.declares, cut]
    rcases known with rfl | rfl <;> rfl

end

example : Line.reads (testLine "if" ⟨0, [⟨.program, "$y && [[ $z"⟩]⟩) = ["words", "words", "program"] ∧
    Line.reads "  if [[ '$x' == \"$y\" && $z ]]; then" = ["y", "z"] := by decide +kernel

end CompletionRules.Script
