import CompletionRules.Script.Emit
import CompletionRules.Script.Wrapper

-- The list of candidates that a script assigns, read back as the shell cuts it into words. The words are put
-- side by side with blanks, so each has to say by itself where it ends.

namespace CompletionRules.Script

structure Mark where
  char : Char
  quoted : Bool
  deriving Repr, DecidableEq

abbrev Element := List Mark

def Element.text (element : Element) : String := .ofList (element.map Mark.char)

def isGap (c : Char) : Bool := [' ', '\t', '\n'].contains c

def endsElement (c : Char) : Bool := isGap c || c == ')'

def isRefused (c : Char) : Bool := ['|', '&', ';', '(', '<', '>', '"', '$', '\x60'].contains c

def markedWith (mark : Mark) (read : Option (Element × List Char)) : Option (Element × List Char) :=
  read.map fun (element, behind) => (mark :: element, behind)

theorem markedWith_some {mark : Mark} {read : Option (Element × List Char)} {element : Element} {behind : List Char}
    (found : markedWith mark read = some (element, behind)) : ∃ rest, read = some (rest, behind) := by
  obtain ⟨⟨rest, left⟩, held, same⟩ := Option.map_eq_some_iff.mp found
  cases same
  exact ⟨rest, held⟩

inductive Quoting where
  | outside | inside | escaped
  deriving Repr, DecidableEq

def readElement : Quoting → List Char → Option (Element × List Char)
  | .outside, [] => some ([], [])
  | .inside, [] | .escaped, [] => none
  | .outside, c :: rest =>
    if c = '\'' then readElement .inside rest
    else if c = '\\' then readElement .escaped rest
    else if endsElement c then some ([], c :: rest)
    else if isRefused c then none
    else markedWith ⟨c, false⟩ (readElement .outside rest)
  | .inside, c :: rest =>
    if c = '\'' then readElement .outside rest else markedWith ⟨c, true⟩ (readElement .inside rest)
  | .escaped, c :: rest => markedWith ⟨c, true⟩ (readElement .outside rest)

theorem readElement_length {quoting : Quoting} {text behind : List Char} {element : Element}
    (read : readElement quoting text = some (element, behind)) : behind.length ≤ text.length := by
  fun_induction readElement quoting text generalizing element behind with
  | case1 | case6 =>
    cases read
    exact Nat.le_refl _
  | case2 | case3 | case7 => cases read
  | case4 | case5 | case9 =>
    rename_i ih
    exact Nat.le_succ_of_le (ih read)
  | case8 | case10 | case11 =>
    rename_i ih
    obtain ⟨inner, found⟩ := markedWith_some read
    exact Nat.le_succ_of_le (ih found)

theorem readElement_shorter {c : Char} {rest behind : List Char} {element : Element} (goesOn : endsElement c = false)
    (read : readElement .outside (c :: rest) = some (element, behind)) : behind.length ≤ rest.length := by
  rw [readElement] at read
  split at read
  · exact readElement_length read
  · split at read
    · exact readElement_length read
    · rw [if_neg (by simp [goesOn])] at read
      split at read
      · cases read
      · obtain ⟨inner, found⟩ := markedWith_some read
        exact readElement_length found

def readElements (text : List Char) : Option (List Element × List Char) :=
  match text with
  | [] => none
  | c :: rest =>
    if isGap c then readElements rest
    else if _goesOn : endsElement c then some ([], rest)
    else if c = '#' then readElements (rest.dropWhile (· ≠ '\n'))
    else match _read : readElement .outside (c :: rest) with
      | none => none
      | some (element, behind) => (readElements behind).map fun (others, left) => (element :: others, left)
termination_by text.length
decreasing_by
  · simp
  · have shorter := (List.dropWhile_suffix (p := (· ≠ '\n')) (l := rest)).length_le
    simp only [List.length_cons]
    omega
  · have shorter := readElement_shorter (by simpa using _goesOn) _read
    simp only [List.length_cons]
    omega

def elementOf (word : String) : Element := word.toList.map fun c => ⟨c, needsQuotes word.toList⟩

theorem elementOf_text (word : String) : (elementOf word).text = word := by
  rw [Element.text, elementOf, List.map_map, Function.comp_def, List.map_id', String.ofList_toList]

variable {c : Char} {rest : List Char}

theorem plain_of_not_special (plain : isSpecial c = false) :
    c ≠ '\'' ∧ c ≠ '\\' ∧ endsElement c = false ∧ isRefused c = false := by
  have known : "'\\ \t\n)|&;(<>\"$\x60".toList.all isSpecial = true := by decide
  have absent : c ∉ "'\\ \t\n)|&;(<>\"$\x60".toList := by
    intro member
    rw [List.all_eq_true.mp known c member] at plain
    cases plain
  simp only [String.reduceToList, List.mem_cons, List.not_mem_nil, not_or] at absent
  simp [endsElement, isGap, isRefused, absent]

theorem readElement_end (ends : endsElement c = true) : readElement .outside (c :: rest) = some ([], c :: rest) := by
  have special : c = ' ' ∨ c = '\t' ∨ c = '\n' ∨ c = ')' := by simpa [endsElement, isGap, or_assoc] using ends
  rcases special with rfl | rfl | rfl | rfl <;> rfl

theorem readElement_bare {word : List Char} (plain : ∀ d ∈ word, isSpecial d = false) (ends : endsElement c = true) :
    readElement .outside (word ++ c :: rest) = some (word.map (⟨·, false⟩), c :: rest) := by
  induction word with
  | nil => exact readElement_end ends
  | cons d word ih =>
    have later := ih fun e member => plain e (List.mem_cons_of_mem _ member)
    obtain ⟨noQuote, noBackslash, goesOn, allowed⟩ := plain_of_not_special (plain d (by simp))
    rw [List.cons_append, readElement, if_neg noQuote, if_neg noBackslash, if_neg (by simp [goesOn]),
      if_neg (by simp [allowed]), later]
    rfl

theorem readElement_quotedChars (word : List Char) (ends : endsElement c = true) :
    readElement .inside (quotedChars word ++ '\'' :: c :: rest) = some (word.map (⟨·, true⟩), c :: rest) := by
  induction word with
  | nil => exact readElement_end ends
  | cons d word ih =>
    by_cases quote : d = '\''
    · subst quote
      simp [quotedChars, readElement, ih, markedWith]
    · simp [quotedChars, readElement, ih, quote, markedWith]

theorem bareOrQuoted_cases (word : String) :
    (needsQuotes word.toList = true ∧ (bareOrQuoted word).toList = '\'' :: (quotedChars word.toList ++ ['\''])) ∨
      (needsQuotes word.toList = false ∧ (bareOrQuoted word).toList = word.toList) := by
  cases quotes : needsQuotes word.toList with
  | true => exact .inl ⟨rfl, by simp [bareOrQuoted, quotes, quoted]⟩
  | false => exact .inr ⟨rfl, by simp [bareOrQuoted, quotes]⟩

theorem needsQuotes_false {word : List Char} : needsQuotes word = false ↔
    word ≠ [] ∧ (∀ c ∈ word, isSpecial c = false) ∧ word.head? ≠ some '~' ∧ word.head? ≠ some '#' := by
  simp [needsQuotes, and_assoc]

theorem readElement_bareOrQuoted (word : String) (ends : endsElement c = true) :
    readElement .outside ((bareOrQuoted word).toList ++ c :: rest) = some (elementOf word, c :: rest) := by
  rcases bareOrQuoted_cases word with ⟨quotes, written⟩ | ⟨bare, written⟩
  · rw [written, List.cons_append, List.append_assoc, readElement, if_pos rfl, List.singleton_append,
      readElement_quotedChars _ ends, elementOf, quotes]
  · rw [written, readElement_bare (needsQuotes_false.mp bare).2.1 ends, elementOf, bare]

theorem bareOrQuoted_starts (word : String) :
    ∃ d others, (bareOrQuoted word).toList = d :: others ∧ endsElement d = false ∧ d ≠ '#' := by
  rcases bareOrQuoted_cases word with ⟨quotes, written⟩ | ⟨bare, written⟩
  · exact ⟨_, _, written, by decide, by decide⟩
  · obtain ⟨filled, plain, _, noHash⟩ := needsQuotes_false.mp bare
    obtain ⟨d, others, parts⟩ := List.exists_cons_of_ne_nil filled
    rw [parts] at plain noHash
    exact ⟨d, others, written.trans parts, (plain_of_not_special (plain d (by simp))).2.2.1, by simpa using noHash⟩

theorem readElements_element {behind : List Char} {element : Element} (goesOn : endsElement c = false) (noHash : c ≠ '#')
    (read : readElement .outside (c :: rest) = some (element, behind)) :
    readElements (c :: rest) = (readElements behind).map fun (others, left) => (element :: others, left) := by
  have noGap : isGap c = false := by
    rw [endsElement, Bool.or_eq_false_iff] at goesOn
    exact goesOn.1
  rw [readElements, if_neg (by simp [noGap]), dif_neg (by simp [goesOn]), if_neg noHash]
  split
  · simp_all
  · simp_all

-- Readers of a row of words. One that goes past blanks and takes every word for its first element reads
-- words put side by side, whatever it is that ends the row.
section

variable {read : List Char → Option (List Element × List Char)} {left : List Char}

theorem reads_word (takes : ∀ {c rest element behind}, endsElement c = false → c ≠ '#' →
      readElement .outside (c :: rest) = some (element, behind) →
      read (c :: rest) = (read behind).map fun (others, left) => (element :: others, left))
    (word : String) (ends : endsElement c = true) :
    read ((bareOrQuoted word).toList ++ c :: rest) =
      (read (c :: rest)).map fun (others, left) => (elementOf word :: others, left) := by
  have readAlone : readElement .outside ((bareOrQuoted word).toList ++ c :: rest) = some (elementOf word, c :: rest) :=
    readElement_bareOrQuoted word ends
  obtain ⟨d, others, starts, goesOn, noHash⟩ := bareOrQuoted_starts word
  rw [starts, List.cons_append] at readAlone ⊢
  exact takes goesOn noHash readAlone

theorem reads_words (skips : ∀ text, read (' ' :: text) = read text)
    (takes : ∀ {c rest element behind}, endsElement c = false → c ≠ '#' →
      readElement .outside (c :: rest) = some (element, behind) →
      read (c :: rest) = (read behind).map fun (others, left) => (element :: others, left))
    (ends : endsElement c = true) (closed : read (c :: rest) = some ([], left)) (words : List String) :
    read ((Text.joined " " (words.map bareOrQuoted)).toList ++ c :: rest) = some (words.map elementOf, left) := by
  induction words with
  | nil => exact closed
  | cons word later ih =>
    cases later with
    | nil =>
      have alone : Text.joined " " ([word].map bareOrQuoted) = bareOrQuoted word := String.intercalate_singleton
      rw [alone, reads_word takes word ends, closed]
      rfl
    | cons next others =>
      have whole : Text.joined " " ((word :: next :: others).map bareOrQuoted) =
          bareOrQuoted word ++ " " ++ Text.joined " " ((next :: others).map bareOrQuoted) :=
        String.intercalate_cons_cons
      have blank : " ".toList = [' '] := rfl
      rw [whole, String.toList_append, String.toList_append, blank, List.append_assoc, List.append_assoc,
        List.singleton_append, reads_word takes word (by decide), skips, ih]
      rfl

end

theorem readElements_words (words : List String) (behind : List Char) :
    readElements ((Text.joined " " (words.map bareOrQuoted)).toList ++ ')' :: behind) =
      some (words.map elementOf, behind) := by
  have skips (text : List Char) : readElements (' ' :: text) = readElements text := by simp [readElements, isGap]
  have closed : readElements (')' :: behind) = some ([], behind) := by simp [readElements, isGap, endsElement]
  exact reads_words skips readElements_element (by decide) closed words

def listText (words : List String) : String := Text.joined " " ((Candidates.ofWords words).plain.map bareOrQuoted) ++ ")"

theorem sourceLines_words (words : List String) : ∃ others,
    sourceLines (.words words) = ("    candidates=(" ++ listText words) :: others ∧
      ∀ line ∈ others, after? "    candidates=(".toList line.toList = none := by
  have first (listed : String) : indented 2 ("candidates=(" ++ listed ++ ")") = "    candidates=(" ++ (listed ++ ")") := by
    rw [indented, if_neg (by simp), ← String.toList_inj]
    simp
  have foreign (named : String) :
      after? "    candidates=(".toList (indented 2 ("actions=(" ++ named ++ ")")).toList = none := by
    rw [indented, if_neg (by simp)]
    simp [after?]
  refine ⟨_, by rw [sourceLines, first]; rfl, ?_⟩
  intro line member
  split at member
  · cases member
  · rw [List.mem_singleton.mp member]
    exact foreign _

theorem candidates_read_back (words : List String) : ∃ text others elements,
    sourceLines (.words words) = ("    candidates=(" ++ text) :: others ∧
      (∀ line ∈ others, after? "    candidates=(".toList line.toList = none) ∧
      (∀ behind, readElements (text.toList ++ behind) = some (elements, behind)) ∧
      elements.map Element.text = (Candidates.ofWords words).plain := by
  obtain ⟨others, lines, foreign⟩ := sourceLines_words words
  refine ⟨listText words, others, (Candidates.ofWords words).plain.map elementOf, lines, foreign, ?_, ?_⟩
  · intro behind
    have closing : ")".toList = [')'] := rfl
    rw [listText, String.toList_append, closing, List.append_assoc, List.singleton_append, readElements_words]
  · rw [List.map_map]
    exact (List.map_congr_left fun word _ => elementOf_text word).trans (List.map_id _)

example : (readElements "a#b '' # all\n c)".toList).map (fun read => read.1.map Element.text) = some ["a#b", "", "c"] ∧
    readElements "a $b)".toList = none := by cbv

end CompletionRules.Script
