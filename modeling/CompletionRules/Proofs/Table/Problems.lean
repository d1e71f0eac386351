import Mathlib.Data.List.Count
import Mathlib.Data.List.Induction
import CompletionRules.Table.Diagnostic
import CompletionRules.Proofs.Table.Flatten

-- The diagnostics name every problem of the rule tree once and nothing else. That the origins of one group
-- come out in document order is owed to the table order, which never turns two of one pattern.

namespace CompletionRules

namespace Entry

inductive Faulty (entry : Entry) : Problem → Prop where
  | noCandidates : entry.source = .words [] → Faulty entry (.emptyCandidates entry.origin)
  | blankCommand {text : String} : entry.source = .command text →
      (∀ c ∈ text.toList, Text.isBlank c = true) → Faulty entry (.blankCommand entry.origin)

theorem sourceProblem?_exact {entry : Entry} {diagnostic : Diagnostic} :
    entry.sourceProblem? = some diagnostic ↔
      diagnostic.pattern = entry.pattern ∧ entry.Faulty diagnostic.problem := by
  constructor
  · intro found
    unfold sourceProblem? at found
    split at found
    · rename_i empty
      cases found
      exact ⟨rfl, .noCandidates empty⟩
    · cases found
    · rename_i text command
      split at found
      · rename_i blank
        cases found
        exact ⟨rfl, .blankCommand command (List.all_eq_true.mp blank)⟩
      · cases found
  · obtain ⟨pattern, problem⟩ := diagnostic
    rintro ⟨samePattern, faulty⟩
    subst samePattern
    cases faulty with
    | noCandidates empty => simp [sourceProblem?, empty]
    | blankCommand command blank =>
      have allBlank : Text.isAllBlank _ = true := List.all_eq_true.mpr blank
      simp [sourceProblem?, command, allBlank]

theorem sourceProblem?_none {entry : Entry} : entry.sourceProblem? = none ↔
    entry.source ≠ .words [] ∧
      ∀ text, entry.source = .command text → ∃ c ∈ text.toList, Text.isBlank c = false := by
  unfold sourceProblem?
  split
  · rename_i empty
    simp [empty]
  · rename_i offered nonempty held
    simpa [held] using nonempty
  · rename_i text command
    simp [command, Text.isAllBlank]

end Entry

namespace Table

variable {entry : Entry} {entries : List Entry}

def patterns (entries : List Entry) : List Pattern := (entries.map Entry.pattern).eraseDups

def originsOf (pattern : Pattern) (entries : List Entry) : List KeyPath :=
  (entries.filter fun entry => entry.pattern = pattern).map Entry.origin

theorem mem_patterns {pattern : Pattern} :
    pattern ∈ patterns entries ↔ ∃ entry ∈ entries, entry.pattern = pattern := by
  simp [patterns]

theorem patterns_concat (entries : List Entry) (entry : Entry) :
    patterns (entries ++ [entry]) =
      if entry.pattern ∈ patterns entries then patterns entries else patterns entries ++ [entry.pattern] := by
  have parted : patterns (entries ++ [entry]) =
      patterns entries ++ ([entry.pattern].removeAll (entries.map Entry.pattern)).eraseDups := by
    rw [patterns, List.map_append, List.eraseDups_append]
    rfl
  rw [parted]
  by_cases met : entry.pattern ∈ patterns entries
  · have listed : entry.pattern ∈ entries.map Entry.pattern := List.mem_eraseDups.mp met
    rw [if_pos met, List.removeAll, List.filter_cons_of_neg (by simpa using listed)]
    simp
  · have unlisted : entry.pattern ∉ entries.map Entry.pattern := fun listed => met (List.mem_eraseDups.mpr listed)
    rw [if_neg met, List.removeAll, List.filter_cons_of_pos (by simpa using unlisted)]
    simp [List.eraseDups_cons]

theorem patterns_nodup (entries : List Entry) : (patterns entries).Nodup := by
  induction entries using List.reverseRecOn with
  | nil => simp [patterns]
  | append_singleton entries entry ih =>
    rw [patterns_concat]
    split
    · exact ih
    · rename_i fresh
      exact List.concat_eq_append ▸ ih.concat fresh

theorem originsOf_concat (pattern : Pattern) (entries : List Entry) (entry : Entry) :
    originsOf pattern (entries ++ [entry]) =
      if entry.pattern = pattern then originsOf pattern entries ++ [entry.origin]
      else originsOf pattern entries := by
  unfold originsOf
  by_cases same : entry.pattern = pattern <;> simp [same]

-- One joining, over groups of distinct patterns: the entry's own group grows at its end, or is begun
-- behind the others.
theorem joinGroup_map (entry : Entry) (origins : Pattern → List KeyPath) {met : List Pattern}
    (distinct : met.Nodup) :
    joinGroup entry (met.map fun pattern => ⟨pattern, origins pattern⟩) =
      if entry.pattern ∈ met then
        met.map fun pattern => ⟨pattern,
          if entry.pattern = pattern then origins pattern ++ [entry.origin] else origins pattern⟩
      else (met.map fun pattern => ⟨pattern, origins pattern⟩) ++ [⟨entry.pattern, [entry.origin]⟩] := by
  induction met with
  | nil => rfl
  | cons pattern rest ih =>
    obtain ⟨fresh, restDistinct⟩ := List.nodup_cons.mp distinct
    rw [List.map_cons, joinGroup]
    by_cases same : pattern = entry.pattern
    · subst same
      rw [if_pos rfl, if_pos (List.mem_cons_self), List.map_cons, if_pos rfl]
      congr 1
      refine List.map_congr_left fun pattern member => ?_
      rw [if_neg]
      rintro rfl
      exact fresh member
    · rw [if_neg same, ih restDistinct]
      by_cases later : entry.pattern ∈ rest
      · rw [if_pos later, if_pos (List.mem_cons_of_mem _ later), List.map_cons, if_neg (Ne.symm same)]
      · rw [if_neg later, if_neg fun member => (List.mem_cons.mp member).elim (Ne.symm same) later]
        rfl

theorem groups_concat (entries : List Entry) (entry : Entry) :
    groups (entries ++ [entry]) = joinGroup entry (groups entries) := by
  simp [groups]

theorem groups_exact (entries : List Entry) :
    groups entries = (patterns entries).map fun pattern => ⟨pattern, originsOf pattern entries⟩ := by
  induction entries using List.reverseRecOn with
  | nil => rfl
  | append_singleton entries entry ih =>
    simp only [originsOf_concat]
    rw [groups_concat, ih, joinGroup_map _ _ (patterns_nodup entries), patterns_concat]
    by_cases met : entry.pattern ∈ patterns entries
    · rw [if_pos met, if_pos met]
    · rw [if_neg met, if_neg met, List.map_append]
      congr 1
      · refine List.map_congr_left fun pattern member => ?_
        rw [if_neg]
        rintro rfl
        exact met member
      · have none : originsOf entry.pattern entries = [] := by
          refine List.map_eq_nil_iff.mpr (List.filter_eq_nil_iff.mpr fun row member same => met ?_)
          exact mem_patterns.mpr ⟨row, member, by simpa using same⟩
        simp [none]

theorem duplicates_exact (entries : List Entry) :
    duplicates entries =
      ((patterns entries).filter fun pattern => 2 ≤ (originsOf pattern entries).length).map fun pattern =>
        ⟨pattern, .duplicatePattern (originsOf pattern entries)⟩ := by
  rw [duplicates, groups_exact, List.filterMap_map, ← List.filterMap_eq_map, List.filterMap_filter]
  refine List.filterMap_congr fun pattern _ => ?_
  by_cases few : (originsOf pattern entries).length < 2
  · rw [Function.comp_apply, if_pos few, if_neg (by rw [decide_eq_true_eq]; omega)]
  · rw [Function.comp_apply, if_neg few, if_pos (by rw [decide_eq_true_eq]; omega)]
    rfl

end Table

namespace Document

theorem originsOf_entries (document : Document) (pattern : Pattern) :
    Table.originsOf pattern document.table.entries = Table.originsOf pattern document.leaves :=
  congrArg (List.map Entry.origin) (document.entries_ofPattern pattern)

theorem originsOf_length (document : Document) (pattern : Pattern) :
    (Table.originsOf pattern document.table.entries).length = (document.leaves.map Entry.pattern).count pattern := by
  rw [originsOf_entries, Table.originsOf, List.length_map, List.count_eq_countP, List.countP_map,
    List.countP_eq_length_filter]
  exact congrArg List.length (List.filter_congr fun leaf _ => by simp [beq_eq_decide])

theorem noDuplicates_iff (document : Document) :
    Table.duplicates document.table.entries = [] ↔ (document.leaves.map Entry.pattern).Nodup := by
  rw [Table.duplicates_exact, List.map_eq_nil_iff, List.filter_eq_nil_iff, List.nodup_iff_count_le_one]
  constructor
  · intro single pattern
    rw [← originsOf_length]
    by_contra many
    have listed : pattern ∈ Table.patterns document.table.entries := by
      refine Table.mem_patterns.mpr ?_
      have some : Table.originsOf pattern document.table.entries ≠ [] := by
        intro none
        simp [none] at many
      obtain ⟨origin, member⟩ := List.exists_mem_of_ne_nil _ some
      obtain ⟨row, held, _⟩ := List.mem_map.mp member
      obtain ⟨inside, same⟩ := List.mem_filter.mp held
      exact ⟨row, inside, by simpa using same⟩
    have few := single pattern listed
    simp only [decide_eq_true_eq] at few
    omega
  · intro single pattern _ many
    have one := single pattern
    rw [← originsOf_length] at one
    simp only [decide_eq_true_eq] at many
    omega

theorem noFaultySource_iff (document : Document) :
    document.table.entries.filterMap Entry.sourceProblem? = [] ↔
      ∀ leaf ∈ document.leaves, leaf.source ≠ .words [] ∧
        ∀ text, leaf.source = .command text → ∃ c ∈ text.toList, Text.isBlank c = false := by
  rw [List.filterMap_eq_nil_iff]
  simp only [Entry.sourceProblem?_none, document.entries_perm.mem_iff]

theorem noDeadEnds_iff (document : Document) :
    document.table.deadEnds = [] ↔ ∀ place ∈ document.rootChildren.places, place.tree ≠ .branch .nil := by
  have unstopped {place : Place} : place.deadEnd? = none ↔ place.tree ≠ .branch .nil := by
    unfold Place.deadEnd?
    split
    · rename_i stop
      simp [stop]
    · rename_i other
      simpa using other
  rw [← List.length_eq_zero_iff, document.deadEnds_perm.length_eq, List.length_eq_zero_iff,
    List.filterMap_eq_nil_iff]
  simp only [unstopped]

-- First what is wrong with single entries, in table order; then each pattern that two leaves carry,
-- with the leaves in document order; then each branch with nothing below it.
theorem diagnostics_exact (document : Document) :
    document.table.diagnostics =
      document.table.entries.filterMap Entry.sourceProblem? ++
      ((Table.patterns document.table.entries).filter fun pattern =>
          2 ≤ (Table.originsOf pattern document.leaves).length).map
        (fun pattern => ⟨pattern, .duplicatePattern (Table.originsOf pattern document.leaves)⟩) ++
      document.table.deadEnds.map (fun stop => ⟨stop.pattern, .emptyBranch stop.origin⟩) ∧
    (∀ (entry : Entry) (diagnostic : Diagnostic), entry.sourceProblem? = some diagnostic ↔
      diagnostic.pattern = entry.pattern ∧ entry.Faulty diagnostic.problem) ∧
    document.table.deadEnds.Perm (document.rootChildren.places.filterMap Place.deadEnd?) ∧
    (document.table.diagnostics = [] ↔
      (∀ leaf ∈ document.leaves, leaf.source ≠ .words [] ∧
        ∀ text, leaf.source = .command text → ∃ c ∈ text.toList, Text.isBlank c = false) ∧
      (document.leaves.map Entry.pattern).Nodup ∧
      ∀ place ∈ document.rootChildren.places, place.tree ≠ .branch .nil) := by
  have duplicates := Table.duplicates_exact document.table.entries
  simp only [originsOf_entries] at duplicates
  refine ⟨?_, fun _ _ => Entry.sourceProblem?_exact, document.deadEnds_perm, ?_⟩
  · rw [Table.diagnostics, duplicates]
  · rw [Table.diagnostics, List.append_eq_nil_iff, List.append_eq_nil_iff, List.map_eq_nil_iff,
      noFaultySource_iff, noDuplicates_iff, noDeadEnds_iff, and_assoc]

end Document

end CompletionRules
