import CompletionRules.Proofs.Script.Elements
import CompletionRules.Proofs.Text.Fields

-- What a line of a shell function does with variables: which it declares, sets and reads. The readers know the
-- text only, and no word of a rule between single quotes makes a line set or read anything.

namespace CompletionRules

namespace Text

theorem joined_cons_toList (glue first : String) (others : List String) :
    (joined glue (first :: others)).toList =
      first.toList ++ others.flatMap fun other => glue.toList ++ other.toList := by
  induction others generalizing first with
  | nil => rw [joined, String.intercalate_singleton, List.flatMap_nil, List.append_nil]
  | cons second others ih =>
    have whole : joined glue (first :: second :: others) = first ++ glue ++ joined glue (second :: others) :=
      String.intercalate_cons_cons
    rw [whole, String.toList_append, String.toList_append, ih, List.flatMap_cons]
    simp only [List.append_assoc]

end Text

namespace Script

structure Variable where
  name : String
  isArray : Bool
  deriving Repr, DecidableEq

inductive Mode where
  | bare | dollar | escaped | single | ansi | ansiEscaped | double | doubleEscaped
  deriving Repr, DecidableEq

namespace Mode

def outside (c : Char) : Mode :=
  if c = '\'' then .single else if c = '"' then .double else if c = '\\' then .escaped
  else if c = '$' then .dollar else .bare

def next (c : Char) : Mode → Mode
  | .bare => outside c
  | .dollar => if c = '\'' then .ansi else outside c
  | .escaped => .bare
  | .single => if c = '\'' then .bare else .single
  | .ansi => if c = '\'' then .bare else if c = '\\' then .ansiEscaped else .ansi
  | .ansiEscaped => .ansi
  | .double => if c = '"' then .bare else if c = '\\' then .doubleEscaped else .double
  | .doubleEscaped => .double

def isOpen : Mode → Bool
  | .bare | .dollar | .double => true
  | .escaped | .single | .ansi | .ansiEscaped | .doubleEscaped => false

end Mode

-- What is left when single quotes go with what they hold, and backslashes with what they escape.
def unquoted : Mode → List Char → List Char
  | _, [] => []
  | mode, c :: rest =>
    (if mode.isOpen && (mode.next c).isOpen then [c] else []) ++ unquoted (mode.next c) rest

def isNameChar (c : Char) : Bool := c.isAlphanum || c == '_'

def startsName (c : Char) : Bool := isNameChar c && !c.isDigit

def namesIn (text : List Char) : List String :=
  ((Text.fieldsOf (fun c => !isNameChar c) text).filter fun name => name.head?.any startsName).map String.ofList

def namesExpanded : List Char → List String
  | '\x7b' :: inner => namesIn (inner.takeWhile (· ≠ '\x7d'))
  | text => namesIn (text.takeWhile isNameChar)

def namesCalculated : List Char → List String
  | '(' :: inner => namesIn (inner.takeWhile (· ≠ ')'))
  | _ => []

def namesRead : List Char → List String
  | [] => []
  | c :: rest =>
    (if c = '$' then namesExpanded rest else if c = '(' then namesCalculated rest else []) ++ namesRead rest

-- The elements that an array is set to are no commands.
def withoutLists : Bool → List Char → List Char
  | _, [] => []
  | true, c :: rest => withoutLists (c ≠ ')') rest
  | false, '=' :: '(' :: rest => '=' :: withoutLists true rest
  | false, c :: rest => c :: withoutLists false rest

def shellWords (line : String) : List String :=
  (Text.fieldsOf isGap (withoutLists false (unquoted .bare line.toList))).map String.ofList

def opensCommand (word : String) : Bool :=
  ["if", "elif", "then", "else", "while", "until", "do", "!", "\x7b"].contains word

def endsCommand (word : String) : Bool :=
  ["&&", "||", "|", "&"].contains word || word.toList.getLast? = some ';'

def assigned? (word : String) : Option String :=
  let name := word.toList.takeWhile isNameChar
  if name.head?.any startsName then
    match word.toList.dropWhile isNameChar with
    | '=' :: _ | '+' :: '=' :: _ => some (.ofList name)
    | _ => none
  else none

def namesFilled : List String → List String
  | [] => []
  | word :: others =>
    if endsCommand word then namesIn word.toList
    else (if word.toList.all isNameChar then [word] else []) ++ namesFilled others

def namesSet : Bool → List String → List String
  | _, [] => []
  | false, word :: others => namesSet (endsCommand word) others
  | true, word :: others =>
    match assigned? word with
    | some name => name :: namesSet true others
    | none =>
      (if word = "for" then others.head?.toList else if word = "read" then namesFilled others else []) ++
        namesSet (opensCommand word || endsCommand word) others

def namesDeclared : List String → List String
  | [] => []
  | word :: others =>
    if '=' ∈ word.toList then [.ofList (word.toList.takeWhile (· ≠ '='))] else word :: namesDeclared others

namespace Line

def reads (line : String) : List String := namesRead (unquoted .bare line.toList)

def sets (line : String) : List String := namesSet true (shellWords line)

def declares (line : String) : List Variable :=
  match shellWords line with
  | "local" :: "-a" :: words => (namesDeclared words).map (⟨·, true⟩)
  | "local" :: words => (namesDeclared words).map (⟨·, false⟩)
  | _ => []

end Line

section

variable {front : List Char}

theorem unquoted_quotedChars (word rest : List Char) :
    unquoted .single (quotedChars word ++ '\'' :: rest) = unquoted .bare rest := by
  induction word with
  | nil => rfl
  | cons c word ih =>
    by_cases quote : c = '\''
    · subst quote
      simpa [quotedChars, unquoted, Mode.next, Mode.outside, Mode.isOpen] using ih
    · simpa [quotedChars, unquoted, Mode.next, Mode.isOpen, quote] using ih

theorem unquoted_quoted (word : String) (rest : List Char) :
    unquoted .bare ((quoted word).toList ++ rest) = unquoted .bare rest := by
  have body := unquoted_quotedChars word.toList rest
  simpa [quoted, unquoted, Mode.next, Mode.outside, Mode.isOpen] using body

def HasNoQuotes (text : List Char) : Prop := '\'' ∉ text ∧ '"' ∉ text ∧ '\\' ∉ text

instance (text : List Char) : Decidable (HasNoQuotes text) := inferInstanceAs (Decidable (_ ∧ _ ∧ _))

theorem unquoted_plain {mode : Mode} (outside : mode = .bare ∨ mode = .dollar) (filled : front ≠ [])
    (plain : HasNoQuotes front) (ends : front.getLast? ≠ some '$') (rest : List Char) :
    unquoted mode (front ++ rest) = front ++ unquoted .bare rest := by
  induction front generalizing mode with
  | nil => exact absurd rfl filled
  | cons c front ih =>
    obtain ⟨⟨noSingle, singles⟩, ⟨noDouble, doubles⟩, noBackslash, backslashes⟩ :
        ('\'' ≠ c ∧ '\'' ∉ front) ∧ ('"' ≠ c ∧ '"' ∉ front) ∧ ('\\' ≠ c ∧ '\\' ∉ front) := by
      simpa [HasNoQuotes] using plain
    have next : mode.next c = if c = '$' then .dollar else .bare := by
      rcases outside with rfl | rfl <;> simp [Mode.next, Mode.outside, noSingle.symm, noDouble.symm, noBackslash.symm]
    have kept : (mode.isOpen && (mode.next c).isOpen) = true := by
      rw [next]
      rcases outside with rfl | rfl <;> split <;> rfl
    rw [List.cons_append, unquoted, if_pos kept, List.singleton_append, List.cons_append]
    congr 1
    cases front with
    | nil =>
      have noDollar : c ≠ '$' := by simpa using ends
      rw [next, if_neg noDollar]
      rfl
    | cons d more =>
      refine ih ?_ (List.cons_ne_nil _ _) ⟨singles, doubles, backslashes⟩ ?_
      · rw [next]
        split
        · exact .inr rfl
        · exact .inl rfl
      · rwa [List.getLast?_cons_cons] at ends

-- What is left of words side by side: blanks, and characters without a meaning to the shell.
def IsPlainList (text : List Char) : Prop := ∀ c ∈ text, c = ' ' ∨ isSpecial c = false

theorem IsPlainList.not_mem {text : List Char} (plain : IsPlainList text) {c : Char} (special : isSpecial c = true)
    (filled : c ≠ ' ') : c ∉ text := by
  intro member
  rcases plain c member with blank | unmarked
  · exact filled blank
  · rw [special] at unmarked
    cases unmarked

theorem unquoted_bareOrQuoted (word : String) : ∃ left, IsPlainList left ∧
    ∀ rest, unquoted .bare ((bareOrQuoted word).toList ++ rest) = left ++ unquoted .bare rest := by
  rcases bareOrQuoted_cases word with ⟨quotes, _⟩ | ⟨bare, written⟩
  · refine ⟨[], nofun, fun rest => ?_⟩
    rw [bareOrQuoted, if_pos quotes, unquoted_quoted, List.nil_append]
  · obtain ⟨filled, unmarked, _⟩ := needsQuotes_false.mp bare
    have plain : IsPlainList word.toList := fun c member => .inr (unmarked c member)
    have absent {c : Char} (special : isSpecial c = true) (other : c ≠ ' ') : c ∉ word.toList :=
      plain.not_mem special other
    have bareWord : HasNoQuotes word.toList :=
      ⟨absent (by decide) (by decide), absent (by decide) (by decide), absent (by decide) (by decide)⟩
    have ends : word.toList.getLast? ≠ some '$' := fun last =>
      absent (by decide) (by decide) (List.mem_of_getLast? last)
    refine ⟨word.toList, plain, fun rest => ?_⟩
    rw [written, unquoted_plain (.inl rfl) filled bareWord ends]

theorem unquoted_words (words : List String) : ∃ left, IsPlainList left ∧
    ∀ rest,
      unquoted .bare ((Text.joined " " (words.map bareOrQuoted)).toList ++ rest) = left ++ unquoted .bare rest := by
  induction words with
  | nil => exact ⟨[], nofun, fun rest => rfl⟩
  | cons word others ih =>
    obtain ⟨left, plain, shown⟩ := unquoted_bareOrQuoted word
    cases others with
    | nil =>
      have alone : Text.joined " " ([word].map bareOrQuoted) = bareOrQuoted word := String.intercalate_singleton
      exact ⟨left, plain, by rwa [alone]⟩
    | cons next more =>
      obtain ⟨later, laterPlain, laterShown⟩ := ih
      have whole : Text.joined " " ((word :: next :: more).map bareOrQuoted) =
          bareOrQuoted word ++ " " ++ Text.joined " " ((next :: more).map bareOrQuoted) := String.intercalate_cons_cons
      have blank (text : List Char) : unquoted .bare (" ".toList ++ text) = ' ' :: unquoted .bare text := rfl
      refine ⟨left ++ ' ' :: later, ?_, fun rest => ?_⟩
      · intro c member
        rcases List.mem_append.mp member with here | behind
        · exact plain c here
        · exact (List.mem_cons.mp behind).elim .inl (laterPlain c)
      · rw [whole, String.toList_append, String.toList_append, List.append_assoc, List.append_assoc, shown, blank,
          laterShown, List.append_assoc, List.cons_append]

end

def listLine (name : String) (words : List String) : String :=
  "    " ++ name ++ "=(" ++ Text.joined " " (words.map bareOrQuoted) ++ ")"

theorem namesRead_skip {front : List Char} (plain : ∀ c ∈ front, c ≠ '$' ∧ c ≠ '(') (rest : List Char) :
    namesRead (front ++ rest) = namesRead rest := by
  induction front with
  | nil => rfl
  | cons c front ih =>
    obtain ⟨noDollar, noParen⟩ := plain c (by simp)
    rw [List.cons_append, namesRead, if_neg noDollar, if_neg noParen, List.nil_append]
    exact ih fun d member => plain d (List.mem_cons_of_mem _ member)

theorem withoutLists_list {inside : List Char} (plain : ')' ∉ inside) (rest : List Char) :
    withoutLists true (inside ++ ')' :: rest) = withoutLists false rest := by
  induction inside with
  | nil => rfl
  | cons c inside ih =>
    obtain ⟨other, later⟩ := not_or.mp (mt List.mem_cons.mpr plain)
    rw [List.cons_append, withoutLists, decide_eq_true (Ne.symm other)]
    exact ih later

theorem IsPlainList.reads {left : List Char} (plain : IsPlainList left) :
    namesCalculated (left ++ [')']) ++ namesRead (left ++ [')']) = [] := by
  have noDollar := plain.not_mem (show isSpecial '$' = true by decide) (by decide)
  have noParen := plain.not_mem (show isSpecial '(' = true by decide) (by decide)
  have calculated : namesCalculated (left ++ [')']) = [] := by
    cases left with
    | nil => rfl
    | cons c rest =>
      have other : c ≠ '(' := fun same => noParen (by simp [same])
      simp [namesCalculated, other]
  rw [calculated, namesRead_skip]
  · rfl
  · intro c member
    exact ⟨fun same => noDollar (same ▸ member), fun same => noParen (same ▸ member)⟩

theorem listLine_uses {name : String} (known : name = "candidates" ∨ name = "actions") (words : List String) :
    Line.reads (listLine name words) = [] ∧ Line.sets (listLine name words) = [name] ∧
      Line.declares (listLine name words) = [] := by
  obtain ⟨left, plain, shown⟩ := unquoted_words words
  have text : unquoted .bare (listLine name words).toList = ("    " ++ name ++ "=(").toList ++ (left ++ [')']) := by
    have parts : (listLine name words).toList = ("    " ++ name ++ "=(").toList ++
        ((Text.joined " " (words.map bareOrQuoted)).toList ++ [')']) := by simp [listLine]
    have ended : unquoted .bare [')'] = [')'] := rfl
    rw [parts, unquoted_plain (.inl rfl), shown, ended]
    · rcases known with rfl | rfl <;> decide
    · rcases known with rfl | rfl <;> decide
    · rcases known with rfl | rfl <;> decide
  have closing := withoutLists_list (plain.not_mem (show isSpecial ')' = true by decide) (by decide)) []
  have cut : shellWords (listLine name words) = [name ++ "="] := by
    have start : withoutLists false (("    " ++ name ++ "=(").toList ++ (left ++ [')'])) =
        ("    " ++ name ++ "=").toList ++ withoutLists true (left ++ [')']) := by
      rcases known with rfl | rfl <;> rfl
    rw [shellWords, text, start, closing]
    rcases known with rfl | rfl <;> decide
  refine ⟨?_, ?_, ?_⟩
  · have start : namesRead (("    " ++ name ++ "=(").toList ++ (left ++ [')'])) =
        namesCalculated (left ++ [')']) ++ namesRead (left ++ [')']) := by
      rcases known with rfl | rfl <;> rfl
    rw [Line.reads, text, start, plain.reads]
  · rw [Line.sets, cut]
    rcases known with rfl | rfl <;> decide
  · rw [Line.declares, cut]
    rcases known with rfl | rfl <;> rfl

example : Line.sets (listLine "actions" ["x=1", "it's $y", ") z=("]) = ["actions"] ∧
    Line.reads (listLine "actions" ["x=1", "it's $y", ") z=("]) = [] := by decide +kernel

end Script

end CompletionRules
