import Mathlib.Logic.Function.Basic
import CompletionRules.Proofs.Script.Declared

-- Whose variables a completion uses. Every line of the function keeps to the variables that are declared
-- in front, so that no caller finds one of its own changed, except for the one that takes the answer.

namespace CompletionRules.Script

def ownNames (features : Features) : List String := (declared features).map Variable.name

def KeepsTo (features : Features) (line : String) : Prop :=
  Line.sets line ⊆ "COMPREPLY" :: ownNames features ∧
    Line.reads line ⊆ "COMP_WORDS" :: "COMP_CWORD" :: ownNames features

theorem mem_ownNames {features : Features} {name : String} : name ∈ ownNames features ↔
    name ∈ ["cur", "words", "candidates", "IFS", "word"] ∨ features.comparesProgram = true ∧ name = "program" ∨
      features.runsCommands = true ∧ name = "output" ∨ features.usesActions = true ∧ name ∈ ["actions", "action"] := by
  obtain ⟨compares, runs, uses⟩ := features
  rw [ownNames, declared_exact]
  cases compares <;> cases runs <;> cases uses <;> simp [declarations, scratchNames] <;> grind

theorem Within.keepsTo {features : Features} {sets reads : List String} {line : String}
    (within : Within sets reads line)
    (setsKnown : ∀ name ∈ sets, name = "COMPREPLY" ∨ name ∈ ownNames features)
    (readsKnown : ∀ name ∈ reads, name = "COMP_WORDS" ∨ name = "COMP_CWORD" ∨ name ∈ ownNames features) :
    KeepsTo features line := by
  obtain ⟨sets, reads, _⟩ := within
  constructor
  · intro name member
    simpa using setsKnown name (sets member)
  · intro name member
    simpa using readsKnown name (reads member)

theorem prologue_keepsTo (features : Features) : ∀ line ∈ prologue features, KeepsTo features line := by
  intro line member
  rw [prologue_parts] at member
  rcases List.mem_append.mp member with front | opening
  · obtain ⟨parts, listed, rfl⟩ := List.mem_map.mp front
    obtain ⟨_, sets, reads⟩ := declarations_declare features parts listed
    refine ⟨by simp [sets], fun name read => ?_⟩
    exact List.mem_append_left (ownNames features) (reads read)
  · refine (openingLines_within line opening).keepsTo ?_ ?_
    · simp [mem_ownNames]
    · simp

theorem epilogue_keepsTo (features : Features) :
    ∀ line ∈ epilogue features, KeepsTo features line ∧ Line.declares line = [] := by
  intro line member
  rw [epilogue_parts] at member
  rcases List.mem_append.mp member with candidates | actions
  · have within := candidateLoop_within line candidates
    refine ⟨within.keepsTo ?_ ?_, within.2.2⟩
    · simp [mem_ownNames]
    · simp [mem_ownNames]
  · split at actions
    · rename_i uses
      have within := actionLoop_within line actions
      refine ⟨within.keepsTo ?_ ?_, within.2.2⟩
      · simp [mem_ownNames, uses]
      · simp [mem_ownNames, uses]
    · cases actions

theorem listLine_keepsTo {features : Features} {name : String} (known : name = "candidates" ∨ name = "actions")
    (own : name ∈ ownNames features) (words : List String) :
    KeepsTo features (listLine name words) ∧ Line.declares (listLine name words) = [] := by
  obtain ⟨reads, sets, declares⟩ := listLine_uses known words
  refine ⟨⟨?_, by simp [reads]⟩, declares⟩
  simpa [sets] using .inr own

-- A branch, in a function whose declarations were found out from a table with its entry in it.
structure Foreseen (features : Features) (entry : Entry) : Prop where
  compares : Features.entryComparesProgram entry = true → features.comparesProgram = true
  runs : Features.sourceIsCommand entry.source = true → features.runsCommands = true
  uses : Features.sourceUsesActions entry.source = true → features.usesActions = true

theorem foreseen {table : Table} {entry : Entry} (listed : entry ∈ table.entries) :
    Foreseen (.ofTable table) entry where
  compares found := List.any_eq_true.mpr ⟨entry, listed, found⟩
  runs found := List.any_eq_true.mpr ⟨entry, listed, found⟩
  uses found := List.any_eq_true.mpr ⟨entry, listed, found⟩

theorem commandLines_within : ∀ line ∈ commandOpening ++ commandClosing,
    Within ["output", "candidates"] ["output"] line := by decide +kernel

theorem plainLines_within : ∀ line ∈ ["    # empty command; offers no candidates", "    candidates=()", "  fi", ""],
    Within ["candidates"] [] line := by decide +kernel

section

variable {features : Features} {entry : Entry} (expected : Foreseen features entry)
include expected

theorem test_keepsTo {keyword : String} (known : keyword = "if" ∨ keyword = "elif") :
    KeepsTo features (testLine keyword (entryTest entry)) ∧
      Line.declares (testLine keyword (entryTest entry)) = [] := by
  obtain ⟨reads, sets, declares⟩ := testLine_uses known (entryTest entry)
  have words : "words" ∈ ownNames features := by simp [mem_ownNames]
  have compared : ∀ comparison ∈ (entryTest entry).comparisons, comparison.operand.variable ∈ ownNames features := by
    intro comparison member
    cases same : comparison.operand with
    | word index => exact words
    | program =>
      have asked : ComparesProgram entry :=
        ⟨entryTest entry, by rw [condition_text, ofText?_text], comparison, member, same⟩
      have found := expected.compares ((comparesProgram_iff entry).mp asked)
      simp [mem_ownNames, Operand.variable, found]
  refine ⟨⟨by simp [sets], ?_⟩, declares⟩
  have all : ∀ name ∈ Line.reads (testLine keyword (entryTest entry)), name ∈ ownNames features := by
    rw [reads, List.forall_mem_cons, List.forall_mem_cons, List.forall_mem_map]
    exact ⟨words, words, compared⟩
  intro name member
  exact List.mem_cons_of_mem _ (List.mem_cons_of_mem _ (all name member))

theorem source_keepsTo {text : String} (member : .own text ∈ sourceBody entry.source) :
    KeepsTo features text ∧ Line.declares text = [] := by
  have candidates : "candidates" ∈ ownNames features := by simp [mem_ownNames]
  cases same : entry.source with
  | words words =>
    rw [same, sourceBody, BodyLine.own_mem_own, sourceLines_listed] at member
    rcases List.mem_cons.mp member with rfl | later
    · exact listLine_keepsTo (.inl rfl) candidates _
    · split at later
      · cases later
      · rename_i filled
        have uses : Features.sourceUsesActions entry.source = true := by
          rw [same, sourceUsesActions_iff]
          simpa using filled
        have actions : "actions" ∈ ownNames features := by simp [mem_ownNames, expected.uses uses]
        rw [List.mem_singleton.mp later]
        exact listLine_keepsTo (.inr rfl) actions _
  | command command =>
    rw [same, sourceBody] at member
    split at member
    · rename_i blank
      rw [BodyLine.own_mem_own, sourceLines, if_pos blank] at member
      have within := plainLines_within text (List.mem_append_left ["  fi", ""] member)
      exact ⟨within.keepsTo (by simp [candidates]) (by simp), within.2.2⟩
    · have runs : features.runsCommands = true := expected.runs (by rw [same]; rfl)
      have output : "output" ∈ ownNames features := by simp [mem_ownNames, runs]
      have listed : text ∈ commandOpening ++ commandClosing := by simpa using member
      have within := commandLines_within text listed
      exact ⟨within.keepsTo (by simp [candidates, output]) (by simp [output]), within.2.2⟩

end

theorem mem_chainBody {entries : List Entry} {line : BodyLine} (member : line ∈ chainBody entries) :
    (∃ entry ∈ entries, ∃ keyword, (keyword = "if" ∨ keyword = "elif") ∧ line ∈ branchBody keyword entry) ∨
      line = .own "  fi" ∨ line = .own "" := by
  cases entries with
  | nil => cases member
  | cons first others =>
    rcases List.mem_append.mp member with branches | ending
    · rcases List.mem_append.mp branches with here | later
      · exact .inl ⟨first, by simp, "if", .inl rfl, here⟩
      · obtain ⟨entry, listed, inside⟩ := List.mem_flatMap.mp later
        exact .inl ⟨entry, List.mem_cons_of_mem _ listed, "elif", .inr rfl, inside⟩
    · exact .inr (by simpa using ending)

theorem chain_keepsTo {table : Table} {line : String} (member : .own line ∈ chainBody table.entries) :
    KeepsTo (.ofTable table) line ∧ Line.declares line = [] := by
  rcases mem_chainBody member with ⟨entry, listed, keyword, known, inside⟩ | ending
  · rcases List.mem_cons.mp inside with test | source
    · rw [condition_text, BodyLine.own.injEq] at test
      rw [test]
      exact test_keepsTo (foreseen listed) known
    · exact source_keepsTo (foreseen listed) source
  · have within := plainLines_within line (by simp only [BodyLine.own.injEq] at ending; simp [ending])
    exact ⟨within.keepsTo (by simp [mem_ownNames]) (by simp), within.2.2⟩

theorem own_keepsTo {table : Table} {line : String} (member : .own line ∈ functionBody table) :
    KeepsTo (.ofTable table) line := by
  rcases List.mem_append.mp member with front | last
  · rcases List.mem_append.mp front with first | branch
    · exact prologue_keepsTo _ line (BodyLine.own_mem_own.mp first)
    · exact (chain_keepsTo branch).1
  · exact (epilogue_keepsTo _ line (BodyLine.own_mem_own.mp last)).1

theorem declared_in_front (table : Table) : ∃ (front : List String) (rest : List BodyLine),
    functionBody table = front.map BodyLine.own ++ rest ∧
    (∀ line ∈ front, Line.sets line = []) ∧ ∀ line, .own line ∈ rest → Line.declares line = [] := by
  refine ⟨(declarations (.ofTable table)).map Prod.fst, openingLines.map .own ++ chainBody table.entries ++
    (epilogue (.ofTable table)).map .own, ?_, ?_, ?_⟩
  · simp [functionBody, prologue_parts]
  · intro line member
    obtain ⟨parts, listed, rfl⟩ := List.mem_map.mp member
    exact (declarations_declare _ parts listed).2.1
  · intro line member
    rcases List.mem_append.mp member with front | last
    · rcases List.mem_append.mp front with opening | branch
      · exact (openingLines_within line (BodyLine.own_mem_own.mp opening)).2.2
      · exact (chain_keepsTo branch).2
    · exact (epilogue_keepsTo _ line (BodyLine.own_mem_own.mp last)).2

-- The variables of the caller, while a function with variables of its own sets one after the other.
def callersAfter (own : List String) (callers : String → List String) :
    List (String × List String) → String → List String
  | [] => callers
  | (name, values) :: later =>
    callersAfter own (if name ∈ own then callers else Function.update callers name values) later

theorem callersAfter_other {own : List String} {assignments : List (String × List String)} {name : String}
    (kept : ∀ assignment ∈ assignments, assignment.1 ∈ own ∨ assignment.1 ≠ name) (callers : String → List String) :
    callersAfter own callers assignments name = callers name := by
  induction assignments generalizing callers with
  | nil => rfl
  | cons assignment later ih =>
    obtain ⟨set, values⟩ := assignment
    obtain ⟨here, further⟩ := List.forall_mem_cons.mp kept
    rw [callersAfter, ih further]
    split
    · rfl
    · rename_i foreign
      exact Function.update_of_ne (here.resolve_left foreign).symm _ _

def Made (table : Table) (assignments : List (String × List String)) : Prop :=
  ∀ assignment ∈ assignments, ∃ line, BodyLine.own line ∈ functionBody table ∧ assignment.1 ∈ Line.sets line

theorem made_keeps {table : Table} {assignments : List (String × List String)} (made : Made table assignments)
    (callers : String → List String) {name : String} (other : name ≠ "COMPREPLY") :
    callersAfter (ownNames (.ofTable table)) callers assignments name = callers name := by
  refine callersAfter_other (fun assignment member => ?_) callers
  obtain ⟨line, listed, sets⟩ := made assignment member
  rcases List.mem_cons.mp ((own_keepsTo listed).1 sets) with answer | own
  · exact .inr (by rw [answer]; exact other.symm)
  · exact .inl own

theorem runs_of_kept {table : Table} (kept : ∃ entry ∈ table.entries, KeepsOutput entry) :
    (Features.ofTable table).runsCommands = true := by
  obtain ⟨entry, listed, command, same, _⟩ := kept
  exact (foreseen listed).runs (by rw [same]; rfl)

-- What is declared is what the branches ask for, so whatever the lines of the function do, no variable of
-- the caller changes but the one that takes the answer, and no actions of an entry are left aside.
theorem variables_made_local (table : Table) :
    -- What is declared, and what the branches ask for.
    (⟨"program", false⟩ ∈ declared (.ofTable table) ↔ ∃ entry ∈ table.entries, ComparesProgram entry) ∧
    (⟨"actions", true⟩ ∈ declared (.ofTable table) ↔ ∃ entry ∈ table.entries, ListsActions entry) ∧
    (⟨"action", false⟩ ∈ declared (.ofTable table) ↔ ∃ entry ∈ table.entries, ListsActions entry) ∧
    (actionLoop <:+: epilogue (.ofTable table) ↔ ∃ entry ∈ table.entries, ListsActions entry) ∧
    ((∃ entry ∈ table.entries, KeepsOutput entry) → ⟨"output", false⟩ ∈ declared (.ofTable table)) ∧
    -- The lines of the function, and which of them the rules bring with them.
    (∀ options name, emitLines table options name = title table ++ [name ++ "() \x7b"] ++
      (functionBody table).map BodyLine.text ++ registration table options name ++ ["", "# ex: filetype=sh"]) ∧
    (functionBody table).filterMap BodyLine.brought? = table.entries.flatMap (fun entry => broughtLines entry.source) ∧
    -- Every variable is declared before one is set, and no line goes beyond what is declared.
    (∃ (front : List String) (rest : List BodyLine), functionBody table = front.map BodyLine.own ++ rest ∧
      (∀ line ∈ front, Line.sets line = []) ∧ ∀ line, .own line ∈ rest → Line.declares line = []) ∧
    (∀ line, .own line ∈ functionBody table → KeepsTo (.ofTable table) line) ∧
    (∀ assignments callers name, Made table assignments → name ≠ "COMPREPLY" →
      callersAfter (ownNames (.ofTable table)) callers assignments name = callers name) ∧
    ∀ entry ∈ table.entries, ∀ words, entry.source = .words words → (Candidates.ofWords words).actions ≠ [] →
      actionLoop <:+: epilogue (.ofTable table) ∧ ∃ listed elements,
        "    actions=(" ++ listed ∈ sourceLines entry.source ∧ readElements listed.toList = some (elements, []) ∧
        elements.map Element.text = (Candidates.ofWords words).actions.map Action.name := by
  have program : ⟨"program", false⟩ ∈ declared (.ofTable table) ↔ (Features.ofTable table).comparesProgram = true := by
    simp [mem_declared]
  have actions : ⟨"actions", true⟩ ∈ declared (.ofTable table) ↔ (Features.ofTable table).usesActions = true := by
    simp [mem_declared]
  have action : ⟨"action", false⟩ ∈ declared (.ofTable table) ↔ (Features.ofTable table).usesActions = true := by
    simp [mem_declared]
  refine ⟨program.trans (compares_iff table), actions.trans (uses_iff table), action.trans (uses_iff table),
    (actionLoop_epilogue _).trans (uses_iff table), ?_, ?_, functionBody_brought table, declared_in_front table,
    fun line => own_keepsTo, fun assignments callers name made => made_keeps made callers, ?_⟩
  · intro kept
    simp [mem_declared, runs_of_kept kept]
  · intro options name
    rw [functionBody_text, emitLines]
    simp only [List.append_assoc]
  · intro entry listed words same filled
    have uses : Features.sourceUsesActions entry.source = true := by
      rw [same, sourceUsesActions_iff]
      exact filled
    rw [actionLoop_epilogue, same]
    exact ⟨(foreseen listed).uses uses, actions_listed filled⟩

def mixed : Table where
  entries :=
    [⟨[.word "git", .any], .words ["-v", "<file>"], ["git", "*"]⟩, ⟨[.any, .word "in"], .command "ls", ["*", "in"]⟩]
  deadEnds := []
  programs := ["git"]

def mixedRun : List (String × List String) :=
  [("candidates", ["-v"]), ("actions", ["file"]), ("word", ["-v"]), ("COMPREPLY", ["-v"])]

theorem mixed_made_local : ⟨"program", false⟩ ∈ declared (.ofTable mixed) ∧
    ⟨"actions", true⟩ ∈ declared (.ofTable mixed) ∧ ⟨"output", false⟩ ∈ declared (.ofTable mixed) ∧
    (Candidates.ofWords ["-v", "<file>"]).actions ≠ [] ∧ actionLoop <:+: epilogue (.ofTable mixed) ∧
    Made mixed mixedRun ∧ callersAfter (ownNames (.ofTable mixed)) (fun _ => ["kept"]) mixedRun "word" = ["kept"] ∧
    callersAfter (ownNames (.ofTable mixed)) (fun _ => ["kept"]) mixedRun "COMPREPLY" = ["-v"] := by
  obtain ⟨program, actions, _, _, output, _, _, _, _, kept, offered⟩ := variables_made_local mixed
  have listed : ⟨[.word "git", .any], .words ["-v", "<file>"], ["git", "*"]⟩ ∈ mixed.entries := by decide
  have asked : (Candidates.ofWords ["-v", "<file>"]).actions ≠ [] := by decide +kernel
  have made : Made mixed mixedRun := by
    intro assignment member
    have lines : ∀ set ∈ mixedRun, ∃ line ∈ ["    candidates=(-v)", "    actions=(file)",
        "  for word in \"$\x7bcandidates[@]\x7d\"; do", "      COMPREPLY+=(\"$word\")"],
        BodyLine.own line ∈ functionBody mixed ∧ set.1 ∈ Line.sets line := by decide +kernel
    obtain ⟨line, _, found⟩ := lines assignment member
    exact ⟨line, found⟩
  refine ⟨program.mpr ⟨_, listed, (comparesProgram_iff _).mpr rfl⟩,
    actions.mpr ⟨_, listed, (listsActions_iff _).mpr ((sourceUsesActions_iff _).mpr asked)⟩,
    output ⟨⟨[.any, .word "in"], .command "ls", ["*", "in"]⟩, by decide, "ls", rfl, ?_⟩, asked,
    (offered _ listed _ rfl asked).1, made, kept mixedRun _ "word" made (by decide), by decide +kernel⟩
  exact ⟨"    if output=$(", by decide +kernel, List.prefix_refl _⟩

end CompletionRules.Script
