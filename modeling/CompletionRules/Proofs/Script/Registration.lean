import CompletionRules.Proofs.Script.Elements
import CompletionRules.Proofs.Table.Programs

-- The command that registers the function, read as the shell cuts it into words. It is the only call of its
-- kind that is written, besides whatever the rules' own commands hold.

namespace CompletionRules.Script

def readArguments (text : List Char) : Option (List Element × List Char) :=
  match text with
  | [] => some ([], [])
  | c :: rest =>
    if c = '\n' then some ([], rest)
    else if isGap c then readArguments rest
    else if c = '#' then readArguments (rest.dropWhile (· ≠ '\n'))
    else if _goesOn : endsElement c then none
    else match _read : readElement .outside (c :: rest) with
      | none => none
      | some (element, behind) => (readArguments behind).map fun (others, left) => (element :: others, left)
termination_by text.length
decreasing_by
  · simp
  · have shorter := (List.dropWhile_suffix (p := (· ≠ '\n')) (l := rest)).length_le
    simp only [List.length_cons]
    omega
  · have shorter := readElement_shorter (by simpa using _goesOn) _read
    simp only [List.length_cons]
    omega

theorem readArguments_element {c : Char} {rest behind : List Char} {element : Element} (goesOn : endsElement c = false)
    (noHash : c ≠ '#') (read : readElement .outside (c :: rest) = some (element, behind)) :
    readArguments (c :: rest) = (readArguments behind).map fun (others, left) => (element :: others, left) := by
  have noGap : isGap c = false := by
    rw [endsElement, Bool.or_eq_false_iff] at goesOn
    exact goesOn.1
  have noFeed : c ≠ '\n' := by
    rintro rfl
    revert noGap
    decide
  rw [readArguments, if_neg noFeed, if_neg (by simp [noGap]), if_neg noHash, dif_neg (by simp [goesOn])]
  split
  · simp_all
  · simp_all

theorem readArguments_words (words : List String) (behind : List Char) :
    readArguments ((Text.joined " " (words.map bareOrQuoted)).toList ++ '\n' :: behind) =
      some (words.map elementOf, behind) := by
  have skips (text : List Char) : readArguments (' ' :: text) = readArguments text := by simp [readArguments, isGap]
  have ended : readArguments ('\n' :: behind) = some ([], behind) := by simp [readArguments]
  exact reads_words skips readArguments_element (by decide) ended words

def callsComplete (line : String) : Bool := "complete".toList.isPrefixOf (Text.trimStart line.toList)

theorem callsComplete_append {start : String} (rest : String)
    (other : ∃ c d others, Text.trimStart start.toList = c :: d :: others ∧ ¬ (c = 'c' ∧ d = 'o')) :
    callsComplete (start ++ rest) = false := by
  obtain ⟨c, d, others, starts, unlike⟩ := other
  have trimmed : Text.trimStart (start ++ rest).toList = c :: d :: (others ++ rest.toList) := by
    rw [Text.trimStart] at starts ⊢
    rw [String.toList_append, List.dropWhile_append, starts]
    rfl
  rw [← Bool.not_eq_true, callsComplete, trimmed, List.isPrefixOf_iff_prefix]
  rintro ⟨behind, whole⟩
  simp only [String.reduceToList, List.cons_append, List.cons.injEq] at whole
  exact unlike ⟨whole.1.symm, whole.2.1.symm⟩

theorem callsComplete_blanks {blanks : String} (blank : ∀ c ∈ blanks.toList, Text.isBlank c = true) (text : String) :
    callsComplete (blanks ++ text) = callsComplete text := by
  unfold callsComplete Text.trimStart
  rw [String.toList_append, List.dropWhile_append_of_pos blank]

theorem callsComplete_indented (depth : Nat) (text : String) : callsComplete (indented depth text) = callsComplete text := by
  unfold indented
  split
  · rename_i empty
    rw [String.isEmpty_iff.mp empty]
  · refine callsComplete_blanks (fun c member => ?_) text
    rw [String.toList_ofList] at member
    rw [List.eq_of_mem_replicate member]
    rfl

theorem title_calls {table : Table} : ∀ line ∈ title table, callsComplete line = false := by
  simp only [title, padded, String.append_assoc, List.forall_mem_cons]
  refine ⟨callsComplete_append _ ⟨'#', ' ', [], rfl, by decide⟩, by decide, by decide, by decide, by decide, nofun⟩

theorem prologue_calls (features : Features) : ∀ line ∈ prologue features, callsComplete line = false := by
  obtain ⟨_ | _, _ | _, _ | _⟩ := features <;> decide

theorem epilogue_calls (features : Features) : ∀ line ∈ epilogue features, callsComplete line = false := by
  obtain ⟨_ | _, _ | _, _ | _⟩ := features <;> decide

def Brings (entries : List Entry) (line : String) : Prop :=
  ∃ entry ∈ entries, ∃ command, entry.source = .command command ∧ line ∈ commandLines command

theorem sourceLines_calls {source : Source} {line : String} (member : line ∈ sourceLines source)
    (calls : callsComplete line = true) : ∃ command, source = .command command ∧ line ∈ commandLines command := by
  cases source with
  | words words =>
    have candidates (listed : String) : callsComplete (indented 2 ("candidates=(" ++ listed ++ ")")) = false := by
      rw [callsComplete_indented, String.append_assoc]
      exact callsComplete_append _ ⟨'c', 'a', _, rfl, by decide⟩
    have actions (listed : String) : callsComplete (indented 2 ("actions=(" ++ listed ++ ")")) = false := by
      rw [callsComplete_indented, String.append_assoc]
      exact callsComplete_append _ ⟨'a', 'c', _, rfl, by decide⟩
    rcases List.mem_cons.mp member with rfl | other
    · cases (candidates _).symm.trans calls
    · split at other
      · cases other
      · rw [List.mem_singleton.mp other, actions] at calls
        cases calls
  | command command =>
    refine ⟨command, rfl, ?_⟩
    have opening : ∀ line ∈ ["    if output=$(", "      \x7b"], callsComplete line = false := by decide
    have closing : ∀ line ∈ ["      \x7d 2>/dev/null", "    ); then",
        "      read -r -d '' -a candidates <<<\"$output\"", "    fi"], callsComplete line = false := by decide
    have empty : ∀ line ∈ ["    # empty command; offers no candidates", "    candidates=()"],
        callsComplete line = false := by decide
    rw [sourceLines] at member
    split at member
    · cases (empty line member).symm.trans calls
    · rw [List.mem_append, List.mem_append] at member
      rcases member with (opens | inside) | closes
      · cases (opening line opens).symm.trans calls
      · exact inside
      · cases (closing line closes).symm.trans calls

theorem branchLines_calls {keyword : String} (known : keyword = "if" ∨ keyword = "elif") {entry : Entry} {line : String}
    (member : line ∈ branchLines keyword entry) (calls : callsComplete line = true) :
    ∃ command, entry.source = .command command ∧ line ∈ commandLines command := by
  rcases List.mem_cons.mp member with rfl | inside
  · have test (rest : String) : callsComplete ("  " ++ (keyword ++ rest)) = false := by
      rw [callsComplete_blanks (by simp [Text.isBlank])]
      rcases known with rfl | rfl
      · exact callsComplete_append rest ⟨'i', 'f', _, rfl, by decide⟩
      · exact callsComplete_append rest ⟨'e', 'l', _, rfl, by decide⟩
    simp only [String.append_assoc, test] at calls
    cases calls
  · exact sourceLines_calls inside calls

theorem chain_calls {entries : List Entry} {line : String} (member : line ∈ chain entries)
    (calls : callsComplete line = true) : Brings entries line := by
  cases entries with
  | nil => cases member
  | cons first others =>
    have ending : ∀ line ∈ ["  fi", ""], callsComplete line = false := by decide
    rw [chain, List.mem_append, List.mem_append] at member
    rcases member with (head | later) | ends
    · obtain ⟨command, source, inside⟩ := branchLines_calls (.inl rfl) head calls
      exact ⟨first, List.mem_cons_self, command, source, inside⟩
    · obtain ⟨entry, listed, branch⟩ := List.mem_flatMap.mp later
      obtain ⟨command, source, inside⟩ := branchLines_calls (.inr rfl) branch calls
      exact ⟨entry, List.mem_cons_of_mem _ listed, command, source, inside⟩
    · cases (ending line ends).symm.trans calls

def functionLines (table : Table) (name : String) : List String :=
  title table ++ [name ++ "() \x7b"] ++ prologue (.ofTable table) ++ chain table.entries ++ epilogue (.ofTable table)

theorem functionLines_calls {table : Table} {name line : String} (member : line ∈ functionLines table name)
    (calls : callsComplete line = true) : line = name ++ "() \x7b" ∨ Brings table.entries line := by
  simp only [functionLines, List.mem_append, List.mem_singleton] at member
  rcases member with (((head | opening) | before) | branch) | behind
  · cases (title_calls line head).symm.trans calls
  · exact .inl opening
  · cases (prologue_calls _ line before).symm.trans calls
  · exact .inr (chain_calls branch calls)
  · cases (epilogue_calls _ line behind).symm.trans calls

def callUpToName (options : List (String × String)) (name : String) : String :=
  Text.joined " " (["complete"] ++ registrationOptions options ++ ["-F", name])

def registrationCall (table : Table) (options : List (String × String)) (name : String) : String :=
  "  " ++ callUpToName options name ++ " " ++ Text.joined " " (table.programs.map bareOrQuoted)

theorem registration_call {table : Table} (named : table.programs ≠ []) (options : List (String × String)) (name : String) :
    registration table options name = ["\x7d &&", registrationCall table options name] := by
  have parted : Text.joined " " (["complete"] ++ registrationOptions options ++ ["-F", name] ++ table.programs.map bareOrQuoted) =
      callUpToName options name ++ " " ++ Text.joined " " (table.programs.map bareOrQuoted) :=
    String.intercalate_append_of_ne_nil (by simp) (by simpa using named)
  rw [registration, if_neg (by simpa using named), parted, registrationCall]
  simp only [String.append_assoc]

theorem registrationCall_reads (table : Table) (options : List (String × String)) (name : String) : ∃ listed elements,
    registrationCall table options name = "  " ++ callUpToName options name ++ " " ++ listed ∧
      (∀ behind, readArguments (listed.toList ++ '\n' :: behind) = some (elements, behind)) ∧
      elements.map Element.text = table.programs := by
  refine ⟨_, table.programs.map elementOf, rfl, readArguments_words _, ?_⟩
  rw [List.map_map]
  exact (List.map_congr_left fun program _ => elementOf_text program).trans (List.map_id _)

theorem closed_calls {table : Table} {name closing line : String} (silent : callsComplete closing = false)
    (member : line ∈ functionLines table name ++ [closing]) (calls : callsComplete line = true) :
    line = name ++ "() \x7b" ∨ Brings table.entries line := by
  rcases List.mem_append.mp member with inside | ends
  · exact functionLines_calls inside calls
  · rw [List.mem_singleton.mp ends, silent] at calls
    cases calls

example : (readArguments "git 'my tool' # both\n".toList).map (fun read => read.1.map Element.text) =
      some ["git", "my tool"] ∧ readArguments "git 'my".toList = none := by cbv

end CompletionRules.Script
