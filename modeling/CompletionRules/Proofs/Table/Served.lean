import CompletionRules.Proofs.Table.Programs
import CompletionRules.Proofs.Table.Reached

-- Which of the programs that a script is registered for it also serves. The lookup drops everything up to the
-- last slash of the typed command, so a name with a slash in it is never met.

namespace CompletionRules

theorem Table.bare_of_found {table : Table} {entry : Entry} {program : String} {typed : List String}
    (asks : entry.program? = some (.word program)) (found : table.find? program typed = some entry) :
    '/' ∉ program.toList := by
  have applies : entry.accepts (baseName program) typed = true := List.find?_some found
  unfold Entry.accepts at applies
  rw [asks, Bool.and_eq_true] at applies
  have whole : program = baseName program := by simpa [Token.accepts] using applies.1
  have unmarked := (Text.afterLast_exact '/' program.toList).1
  rw [baseName_afterLast] at whole
  intro slash
  apply unmarked
  rw [← String.toList_ofList (l := Text.afterLast '/' program.toList), ← whole]
  exact slash

namespace Document

theorem not_behind_of_unlike {document : Document} {entry : Entry}
    (unlike : ∀ leaf ∈ document.leaves, leaf.pattern = entry.pattern → leaf = entry) : ¬ document.Behind entry := by
  rintro ⟨row, ahead, same⟩
  have leaf : row ∈ document.leaves := document.entries_perm.mem_iff.mp ahead.mem_left
  rw [unlike row leaf same] at ahead
  exact Entry.ahead_asymm document.entries_nodup ahead ahead

-- An entry that asks for a program by name is the answer on some line of that program exactly when
-- the name has no slash; the name is registered in either case.
theorem registered_served_iff {document : Document} {entry : Entry} {program : String}
    (listed : entry ∈ document.table.entries) (asks : entry.program? = some (.word program))
    (first : ¬ document.Behind entry) :
    program ∈ document.table.programs ∧
    ((∃ typed, document.table.find? program typed = some entry) ↔ '/' ∉ program.toList) := by
  constructor
  · obtain ⟨pair, root, starts⟩ := leaf_program (document.entries_perm.mem_iff.mp listed)
    exact mem_programs.mpr ⟨pair, root, starts.symm.trans asks⟩
  · constructor
    · rintro ⟨typed, found⟩
      exact Table.bare_of_found asks found
    · intro bare
      cases held : entry.pattern with
      | nil => simp [Entry.program?, held] at asks
      | cons token tokens =>
        have starts : token = .word program := by simpa [Entry.program?, held] using asks
        subst starts
        have found := find?_filled_line listed first held (by simpa only [Token.filled] using bare)
        rw [Token.filled] at found
        exact ⟨_, found⟩

def calledByPathRules : Children :=
  .cons ⟨"tool *", by decide⟩ (.leaf (.words ["--help"]))
    (.cons ⟨"tool push", by decide⟩ (.leaf (.words ["origin"]))
    (.cons ⟨"./run.sh", by decide⟩ (.leaf (.words ["build", "test"])) .nil))

def calledByPath : Document where
  root := .branch calledByPathRules
  options := []
  root_distinct := by
    simp [calledByPathRules, Tree.KeysDistinct, Children.AllKeysDistinct, Children.toList, Pairs.Distinct]
  options_distinct := Pairs.distinct_nil

theorem calledByPath_tool_served :
    "tool" ∈ calledByPath.table.programs ∧
    ∃ typed, calledByPath.table.find? "tool" typed =
      some ⟨[.word "tool", .word "push"], .words ["origin"], ["tool push"]⟩ := by
  have listed : ⟨[.word "tool", .word "push"], .words ["origin"], ["tool push"]⟩ ∈ calledByPath.table.entries :=
    calledByPath.entries_perm.mem_iff.mpr (by decide)
  have first : ¬ calledByPath.Behind ⟨[.word "tool", .word "push"], .words ["origin"], ["tool push"]⟩ :=
    not_behind_of_unlike (by decide)
  obtain ⟨registered, served⟩ := registered_served_iff listed rfl first
  exact ⟨registered, served.mpr (by decide)⟩

theorem calledByPath_run_unserved :
    "./run.sh" ∈ calledByPath.table.programs ∧
    ⟨[.word "./run.sh"], .words ["build", "test"], ["./run.sh"]⟩ ∈ calledByPath.table.entries ∧
    ¬ calledByPath.Behind ⟨[.word "./run.sh"], .words ["build", "test"], ["./run.sh"]⟩ ∧
    ¬ ∃ typed, calledByPath.table.find? "./run.sh" typed =
      some ⟨[.word "./run.sh"], .words ["build", "test"], ["./run.sh"]⟩ := by
  refine ⟨by decide, calledByPath.entries_perm.mem_iff.mpr (by decide), not_behind_of_unlike (by decide), ?_⟩
  rintro ⟨typed, found⟩
  have bare : '/' ∉ "./run.sh".toList := Table.bare_of_found rfl found
  exact bare (by decide)

end Document

end CompletionRules
