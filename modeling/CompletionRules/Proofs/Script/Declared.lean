import CompletionRules.Proofs.Script.FunctionBody
import CompletionRules.Proofs.Script.TestLine

-- What the function declares, and what its branches ask for. The declarations are found out from the table
-- before any branch is written, and the branches are written without a look at what was found.

namespace CompletionRules.Script

def declarations (features : Features) : List (String × List Variable) :=
  [("  local cur=$\x7bCOMP_WORDS[COMP_CWORD]\x7d", [⟨"cur", false⟩])] ++
    (if features.comparesProgram then [("  local program=$\x7b1##*/\x7d", [⟨"program", false⟩])] else []) ++
    [("  local -a words=()", [⟨"words", true⟩]), ("  local -a candidates=()", [⟨"candidates", true⟩])] ++
    (if features.usesActions then [("  local -a actions=()", [⟨"actions", true⟩])] else []) ++
    [("  local IFS=$' \\t\\n'", [⟨"IFS", false⟩])] ++
    [("  local " ++ Text.joined " " (scratchNames features), (scratchNames features).map (⟨·, false⟩))]

def openingLines : List String :=
  ["",
    "  COMPREPLY=()",
    "  if ((COMP_CWORD > 1)); then",
    "    words=(\"$\x7bCOMP_WORDS[@]:1:COMP_CWORD-1\x7d\")",
    "  fi",
    ""]

theorem prologue_parts (features : Features) :
    prologue features = (declarations features).map Prod.fst ++ openingLines := by
  simp [prologue, declarations, openingLines, apply_ite (List.map Prod.fst)]

def Declaration (line : String × List Variable) : Prop :=
  Line.declares line.1 = line.2 ∧ Line.sets line.1 = [] ∧ Line.reads line.1 ⊆ ["COMP_WORDS", "COMP_CWORD"]

instance (line : String × List Variable) : Decidable (Declaration line) := inferInstanceAs (Decidable (_ ∧ _ ∧ _))

theorem scratchNames_cases (features : Features) :
    scratchNames features ∈ [["word"], ["word", "action"], ["output", "word"], ["output", "word", "action"]] := by
  unfold scratchNames
  split <;> split <;> decide

theorem declarations_declare (features : Features) : ∀ line ∈ declarations features, Declaration line := by
  have scratch : ∀ names ∈ [["word"], ["word", "action"], ["output", "word"], ["output", "word", "action"]],
      Declaration ("  local " ++ Text.joined " " names, names.map (⟨·, false⟩)) := by decide +kernel
  unfold declarations
  simp only [List.forall_mem_append, List.forall_mem_singleton]
  refine ⟨⟨⟨⟨⟨?_, ?_⟩, ?_⟩, ?_⟩, ?_⟩, scratch _ (scratchNames_cases features)⟩
  · decide +kernel
  · split
    · decide +kernel
    · nofun
  · decide +kernel
  · split
    · decide +kernel
    · nofun
  · decide +kernel

-- What a line of the rest sets and reads at most. It declares nothing.
def Within (sets reads : List String) (line : String) : Prop :=
  Line.sets line ⊆ sets ∧ Line.reads line ⊆ reads ∧ Line.declares line = []

instance (sets reads : List String) (line : String) : Decidable (Within sets reads line) :=
  inferInstanceAs (Decidable (_ ∧ _ ∧ _))

theorem openingLines_within :
    ∀ line ∈ openingLines, Within ["COMPREPLY", "words"] ["COMP_WORDS", "COMP_CWORD"] line := by decide +kernel

def declared (features : Features) : List Variable := (prologue features).flatMap Line.declares

theorem declared_exact (features : Features) : declared features = (declarations features).flatMap Prod.snd := by
  have opening : openingLines.flatMap Line.declares = [] :=
    List.flatMap_eq_nil_iff.mpr fun line member => (openingLines_within line member).2.2
  rw [declared, prologue_parts, List.flatMap_append, opening, List.append_nil, List.flatMap_map]
  exact List.flatMap_congr fun line member => (declarations_declare features line member).1

theorem mem_declared {features : Features} {wanted : Variable} : wanted ∈ declared features ↔
    wanted ∈ [⟨"cur", false⟩, ⟨"words", true⟩, ⟨"candidates", true⟩, ⟨"IFS", false⟩, ⟨"word", false⟩] ∨
      features.comparesProgram = true ∧ wanted = ⟨"program", false⟩ ∨
      features.runsCommands = true ∧ wanted = ⟨"output", false⟩ ∨
      features.usesActions = true ∧ wanted ∈ [⟨"actions", true⟩, ⟨"action", false⟩] := by
  obtain ⟨compares, runs, uses⟩ := features
  rw [declared_exact]
  cases compares <;> cases runs <;> cases uses <;> simp [declarations, scratchNames] <;> grind

def candidateLoop : List String := epilogue ⟨false, false, false⟩

def actionLoop : List String :=
  ["  for action in \"$\x7bactions[@]\x7d\"; do",
    "    while IFS= read -r word; do",
    "      COMPREPLY+=(\"$word\")",
    "    done < <(compgen -A \"$action\" -- \"$cur\")",
    "  done"]

theorem epilogue_parts (features : Features) :
    epilogue features = candidateLoop ++ if features.usesActions then "" :: actionLoop else [] := by
  obtain ⟨compares, runs, uses⟩ := features
  cases uses <;> rfl

theorem actionLoop_epilogue (features : Features) :
    actionLoop <:+: epilogue features ↔ features.usesActions = true := by
  rw [epilogue_parts]
  constructor
  · intro inside
    by_contra unused
    rw [if_neg unused] at inside
    exact absurd inside (by decide +kernel)
  · intro uses
    rw [if_pos uses]
    exact ⟨candidateLoop ++ [""], [], by simp⟩

theorem candidateLoop_within :
    ∀ line ∈ candidateLoop, Within ["word", "COMPREPLY"] ["candidates", "word", "cur"] line := by decide +kernel

theorem actionLoop_within : ∀ line ∈ "" :: actionLoop,
    Within ["action", "IFS", "word", "COMPREPLY"] ["actions", "word", "action", "cur"] line := by decide +kernel

def ComparesProgram (entry : Entry) : Prop := ∃ test, BranchTest.ofText? (condition entry) = some test ∧
  ∃ comparison ∈ test.comparisons, comparison.operand = .program

def ListsActions (entry : Entry) : Prop := ∃ words, entry.source = .words words ∧
  ∃ line ∈ sourceLines entry.source, "    actions=(".toList <+: line.toList

def KeepsOutput (entry : Entry) : Prop := ∃ command, entry.source = .command command ∧
  ∃ line ∈ sourceLines entry.source, "    if output=$(".toList <+: line.toList

theorem wordComparisons_operand {index : Nat} {pattern : Pattern} {comparison : Comparison}
    (member : comparison ∈ wordComparisons index pattern) : comparison.operand ≠ .program := by
  induction pattern generalizing index with
  | nil => cases member
  | cons token rest ih =>
    cases token with
    | any => exact ih member
    | word text =>
      rcases List.mem_cons.mp member with rfl | later
      · exact nofun
      · exact ih later

theorem programComparisons_operand {token : Option Token} {comparison : Comparison}
    (member : comparison ∈ programComparisons token) : ∃ text, token = some (.word text) := by
  unfold programComparisons at member
  split at member
  · exact ⟨_, rfl⟩
  · cases member

theorem entryComparesProgram_iff (entry : Entry) :
    Features.entryComparesProgram entry = true ↔ ∃ text, entry.program? = some (.word text) := by
  unfold Features.entryComparesProgram
  split
  · rename_i text same
    exact ⟨fun _ => ⟨text, same⟩, fun _ => rfl⟩
  · rename_i other
    exact ⟨nofun, fun ⟨text, same⟩ => absurd same (other text)⟩

theorem comparesProgram_iff (entry : Entry) : ComparesProgram entry ↔ Features.entryComparesProgram entry = true := by
  rw [entryComparesProgram_iff, ComparesProgram, condition_text, ofText?_text]
  constructor
  · rintro ⟨test, same, comparison, member, looked⟩
    cases same
    rcases List.mem_append.mp member with front | behind
    · exact programComparisons_operand front
    · exact absurd looked (wordComparisons_operand behind)
  · rintro ⟨text, spelled⟩
    refine ⟨entryTest entry, rfl, ⟨.program, text⟩, ?_, rfl⟩
    rw [entryTest, spelled]
    exact List.mem_append_left _ List.mem_cons_self

theorem name_bare (action : Action) : bareOrQuoted action.name = action.name := by
  have known : ∀ action ∈ Action.all, needsQuotes action.name.toList = false := by decide +kernel
  rw [bareOrQuoted, if_neg (by simp [known action (Action.mem_all action)])]

theorem sourceLines_listed (words : List String) : sourceLines (.words words) =
    listLine "candidates" (Candidates.ofWords words).plain ::
      if (Candidates.ofWords words).actions.isEmpty then []
      else [listLine "actions" ((Candidates.ofWords words).actions.map Action.name)] := by
  have bare (actions : List Action) : (actions.map Action.name).map bareOrQuoted = actions.map Action.name := by
    simp [name_bare]
  have candidates (listed : String) :
      indented 2 ("candidates=(" ++ listed ++ ")") = "    " ++ "candidates" ++ "=(" ++ listed ++ ")" := by
    rw [indented, if_neg (by simp), ← String.toList_inj]
    simp
  have actions (listed : String) :
      indented 2 ("actions=(" ++ listed ++ ")") = "    " ++ "actions" ++ "=(" ++ listed ++ ")" := by
    rw [indented, if_neg (by simp), ← String.toList_inj]
    simp
  rw [sourceLines, candidates, actions, listLine, listLine, bare]

theorem candidatesLine_start (words : List String) :
    ¬ "    actions=(".toList <+: (listLine "candidates" words).toList := by
  simp [listLine]

theorem actionsLine_start (words : List String) : "    actions=(".toList <+: (listLine "actions" words).toList := by
  simp [listLine]

theorem sourceUsesActions_iff (words : List String) :
    Features.sourceUsesActions (.words words) = true ↔ (Candidates.ofWords words).actions ≠ [] := by
  simp [Features.sourceUsesActions]

theorem listsActions_iff (entry : Entry) : ListsActions entry ↔ Features.sourceUsesActions entry.source = true := by
  constructor
  · rintro ⟨words, same, line, member, start⟩
    rw [same] at member ⊢
    rw [sourceLines_listed] at member
    rcases List.mem_cons.mp member with rfl | later
    · exact absurd start (candidatesLine_start _)
    · rw [Features.sourceUsesActions]
      split at later
      · cases later
      · rename_i filled
        simpa using filled
  · intro uses
    cases same : entry.source with
    | words words =>
      rw [same] at uses
      have filled := (sourceUsesActions_iff words).mp uses
      refine ⟨words, same, listLine "actions" ((Candidates.ofWords words).actions.map Action.name), ?_,
        actionsLine_start _⟩
      rw [same, sourceLines_listed, if_neg (by simpa using filled)]
      simp
    | command text =>
      rw [same] at uses
      cases uses

theorem compares_iff (table : Table) :
    (Features.ofTable table).comparesProgram = true ↔ ∃ entry ∈ table.entries, ComparesProgram entry := by
  simp only [comparesProgram_iff]
  exact List.any_eq_true

theorem uses_iff (table : Table) :
    (Features.ofTable table).usesActions = true ↔ ∃ entry ∈ table.entries, ListsActions entry := by
  simp only [listsActions_iff]
  exact List.any_eq_true

theorem actions_listed {words : List String} (filled : (Candidates.ofWords words).actions ≠ []) :
    ∃ listed elements, "    actions=(" ++ listed ∈ sourceLines (.words words) ∧
      readElements listed.toList = some (elements, []) ∧
      elements.map Element.text = (Candidates.ofWords words).actions.map Action.name := by
  refine ⟨Text.joined " " (((Candidates.ofWords words).actions.map Action.name).map bareOrQuoted) ++ ")",
    ((Candidates.ofWords words).actions.map Action.name).map elementOf, ?_, ?_, ?_⟩
  · have line (listed : String) :
        "    actions=(" ++ (listed ++ ")") = "    " ++ "actions" ++ "=(" ++ listed ++ ")" := by
      rw [← String.toList_inj]
      simp
    rw [sourceLines_listed, if_neg (by simpa using filled), line]
    simp [listLine]
  · rw [String.toList_append]
    exact readElements_words _ []
  · rw [List.map_map]
    exact (List.map_congr_left fun name _ => elementOf_text name).trans (List.map_id _)

end CompletionRules.Script
