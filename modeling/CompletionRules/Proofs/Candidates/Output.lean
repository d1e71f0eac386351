import Mathlib.Data.List.TakeWhile
import CompletionRules.Proofs.Table.Flatten
import CompletionRules.Proofs.Text.Fields
import CompletionRules.Proofs.Text.Words
import CompletionRules.Script.Emit
import CompletionRules.Script.Wrapper

-- How the output of a command becomes candidates, by the script and by completion here. The script cuts at
-- three characters and completion at every blank, so they agree on an output without other blanks.

namespace CompletionRules

namespace Script

def readSeparators? : List Char → Option (List Char)
  | [] => some []
  | '\\' :: 't' :: rest => (readSeparators? rest).map ('\t' :: ·)
  | '\\' :: 'n' :: rest => (readSeparators? rest).map ('\n' :: ·)
  | c :: rest => if c = '\\' ∨ c = '\'' then none else (readSeparators? rest).map (c :: ·)

def assignedSeparators? (line : String) : Option (List Char) :=
  match after? "  local IFS=$'".toList line.toList with
  | none => none
  | some quotedText => if quotedText.getLast? = some '\'' then readSeparators? quotedText.dropLast else none

theorem prologue_separators (features : Features) :
    (prologue features).filterMap assignedSeparators? = [[' ', '\t', '\n']] := by
  obtain ⟨_ | _, _ | _, _ | _⟩ := features <;> decide

def substituted (output : List Char) : List Char :=
  ((output.filter (· != '\x00')).reverse.dropWhile (· == '\n')).reverse

def readWords (separators : List Char) (output : String) : List String :=
  (Text.fieldsOf separators.contains (substituted output.toList)).map String.ofList

theorem substituted_parts {output : List Char} (noNul : '\x00' ∉ output) :
    ∃ ending, output = substituted output ++ ending ∧ ∀ c ∈ ending, c = '\n' := by
  have kept : output.filter (· != '\x00') = output := by
    refine List.filter_eq_self.mpr fun c member => ?_
    simp only [bne_iff_ne]
    rintro rfl
    exact noNul member
  refine ⟨(output.reverse.takeWhile (· == '\n')).reverse, ?_, ?_⟩
  · rw [substituted, kept, ← List.reverse_append, List.takeWhile_append_dropWhile, List.reverse_reverse]
  · intro c member
    simpa using List.mem_takeWhile_imp (List.mem_reverse.mp member)

theorem readWords_exact {separators : List Char} {output : String} (feeds : '\n' ∈ separators)
    (noNul : '\x00' ∉ output.toList) :
    readWords separators output = (Text.fieldsOf separators.contains output.toList).map String.ofList := by
  obtain ⟨ending, parted, feedsOnly⟩ := substituted_parts noNul
  have cut : Text.fieldsOf separators.contains output.toList =
      Text.fieldsOf separators.contains (substituted output.toList) := by
    conv_lhs => rw [parted]
    apply Text.fieldsOf_append_separators
    intro c member
    rw [feedsOnly c member]
    simpa using feeds
  rw [readWords, cut]

theorem words_eq_readWords_iff {separators : List Char} {output : String} (feeds : '\n' ∈ separators)
    (blanks : ∀ c ∈ separators, Text.isBlank c = true) (noNul : '\x00' ∉ output.toList) :
    Text.words output = readWords separators output ↔
      ∀ c ∈ output.toList, Text.isBlank c = true → c ∈ separators := by
  rw [readWords_exact feeds noNul]
  constructor
  · intro same c member blank
    by_contra outside
    have plain : separators.contains c = false := by simpa using outside
    obtain ⟨field, listed, inside⟩ := Text.mem_field member plain
    have offered : String.ofList field ∈ Text.words output := by
      rw [same]
      exact List.mem_map.mpr ⟨field, listed, rfl⟩
    have unblank := (Text.words_isWord offered).2 c (by simpa using inside)
    rw [blank] at unblank
    cases unblank
  · intro known
    rw [Text.words, Text.wordsOf_fieldsOf]
    congr 1
    apply Text.fieldsOf_congr
    intro c member
    rw [Bool.eq_iff_iff, List.contains_iff_mem]
    exact ⟨known c member, blanks c⟩

end Script

namespace Table

variable {table : Table} {program command output : String} {typed : List String} {entry : Entry}

theorem complete_output (run : String → Option String) (found : table.find? program typed = some entry)
    (asks : entry.source = .command command) (filled : Text.isAllBlank command = false)
    (ran : run command = some output) :
    table.complete (m := Id) run ⟨program, typed, ""⟩ = Text.words output := by
  have offered : table.offer program typed = .outputOf command := by
    rw [offer, found]
    simp [Source.offer, asks, filled]
  have unfiltered : (Text.words output).filter (fun candidate => "".toList.isPrefixOf candidate.toList) =
      Text.words output := by simp
  calc table.complete (m := Id) run ⟨program, typed, ""⟩
      = (((run command).map Text.words).getD []).filter
          (fun candidate => "".toList.isPrefixOf candidate.toList) := by
        rw [complete, offered]
        rfl
    _ = Text.words output := by rw [ran, Option.map_some, Option.getD_some, unfiltered]

theorem output_split_alike_iff (run : String → Option String) (found : table.find? program typed = some entry)
    (asks : entry.source = .command command) (filled : Text.isAllBlank command = false)
    (ran : run command = some output) (noNul : '\x00' ∉ output.toList) :
    ∃ separators,
      (Script.prologue (Script.Features.ofTable table)).filterMap Script.assignedSeparators? = [separators] ∧
      separators = [' ', '\t', '\n'] ∧
      "      read -r -d '' -a candidates <<<\"$output\"" ∈ Script.sourceLines entry.source ∧
      (table.complete (m := Id) run ⟨program, typed, ""⟩ = Script.readWords separators output ↔
        ∀ c ∈ output.toList, Text.isBlank c = true → c ∈ separators) := by
  refine ⟨_, Script.prologue_separators _, rfl, ?_, ?_⟩
  · simp [Script.sourceLines, asks, filled]
  · rw [complete_output run found asks filled ran]
    exact Script.words_eq_readWords_iff (by decide) (by simp [Text.isBlank]) noNul

end Table

namespace Document

def branchesRules : Children :=
  .cons ⟨"git switch", by decide⟩ (.leaf (.command "list-branches")) .nil

def branches : Document where
  root := .branch branchesRules
  options := []
  root_distinct := by
    simp [branchesRules, Tree.KeysDistinct, Children.AllKeysDistinct, Children.toList, Pairs.Distinct]
  options_distinct := Pairs.distinct_nil

theorem branches_found : branches.table.find? "git" ["switch"] =
    some ⟨[.word "git", .word "switch"], .command "list-branches", ["git switch"]⟩ := by
  have single : branches.table.entries =
      [⟨[.word "git", .word "switch"], .command "list-branches", ["git switch"]⟩] :=
    List.perm_singleton.mp branches.entries_perm
  rw [Table.find?, single]
  decide

theorem branches_split_alike :
    branches.table.complete (m := Id) (fun _ => some "main\tdev\n\n topic\n\n") ⟨"git", ["switch"], ""⟩ =
        ["main", "dev", "topic"] ∧
      Script.readWords [' ', '\t', '\n'] "main\tdev\n\n topic\n\n" = ["main", "dev", "topic"] := by
  obtain ⟨separators, _, rfl, _, alike⟩ := Table.output_split_alike_iff
    (fun _ => some "main\tdev\n\n topic\n\n") branches_found rfl (by decide) rfl (by decide)
  have read : Script.readWords [' ', '\t', '\n'] "main\tdev\n\n topic\n\n" = ["main", "dev", "topic"] := by decide
  exact ⟨(alike.mpr (by simp [Text.isBlank])).trans read, read⟩

theorem branches_returns_split_apart :
    branches.table.complete (m := Id) (fun _ => some "main\r\ndev\r\n") ⟨"git", ["switch"], ""⟩ = ["main", "dev"] ∧
      Script.readWords [' ', '\t', '\n'] "main\r\ndev\r\n" = ["main\r", "dev\r"] := by
  have completed := Table.complete_output (fun _ => some "main\r\ndev\r\n") branches_found rfl (by decide) rfl
  have cut : Text.words "main\r\ndev\r\n" = ["main", "dev"] := by decide
  exact ⟨completed.trans cut, by decide⟩

end Document

end CompletionRules
