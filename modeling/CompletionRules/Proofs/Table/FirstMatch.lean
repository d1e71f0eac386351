import Mathlib.Data.List.Find
import CompletionRules.Proofs.Table.Flatten
import CompletionRules.Proofs.Text.AfterLast

-- Which leaf answers a command line. The first entry that applies is looked for, and the table
-- order makes this first one the best: no other leaf that matches the line asks for more of it.

namespace CompletionRules

def commandLine (program : String) (typed : List String) : List String :=
  .ofList (Text.afterLast '/' program.toList) :: typed

namespace Entry

theorem accepts_exact {entry : Entry} {program : String} {typed : List String} (nonempty : entry.pattern ≠ []) :
    entry.accepts (baseName program) typed = true ↔ entry.pattern.Matches (commandLine program typed) := by
  rw [← Pattern.accepts_exact, commandLine, ← baseName_afterLast]
  unfold accepts program? arguments
  cases held : entry.pattern with
  | nil => exact absurd held nonempty
  | cons token tokens => simp [Pattern.accepts]

-- In a settled list the first entry that applies outranks every other one that applies, wherever
-- it stands and whatever stands between them.
theorem first_outranks {entries : List Entry} {entry other : Entry} {line : List String}
    (settled : Settled entries) (found : entries.find? (fun row => row.pattern.accepts line) = some entry)
    (member : other ∈ entries) (matched : other.pattern.accepts line = true)
    (differ : other.pattern ≠ entry.pattern) : entry.pattern.Outranks other.pattern := by
  obtain ⟨accepted, before, after, rfl, passed⟩ := List.find?_eq_some_iff_append.mp found
  have behind : other ∈ after := by
    rcases List.mem_append.mp member with early | late
    · simpa [matched] using passed other early
    · refine (List.mem_cons.mp late).resolve_left fun same => differ (congrArg pattern same)
  have sameLength : other.pattern.length = entry.pattern.length :=
    (Pattern.accepts_exact.mp matched).1.trans (Pattern.accepts_exact.mp accepted).1.symm
  have waits : other.pattern.mustPrecede entry.pattern = false :=
    (List.pairwise_cons.mp (List.pairwise_append.mp settled).2.1).1 other behind sameLength
  rcases Pattern.accepted_comparable accepted matched differ.symm with ahead | back
  · exact Pattern.mustPrecede_exact.mp ahead
  · rw [waits] at back
    cases back

end Entry

namespace Document

theorem find?_accepts (document : Document) (program : String) (typed : List String) :
    document.table.find? program typed =
      document.table.entries.find? fun row => row.pattern.accepts (commandLine program typed) := by
  refine List.find?_congr fun row member => ?_
  have nonempty := leaf_pattern_ne_nil (document.entries_perm.mem_iff.mp member)
  rw [Bool.eq_iff_iff, Entry.accepts_exact nonempty, Pattern.accepts_exact]

theorem find?_first_leaf {document : Document} {program : String} {typed : List String} {entry : Entry}
    (found : document.table.find? program typed = some entry) :
    ∃ before after, document.leaves = before ++ entry :: after ∧
      ∀ other ∈ before, other.pattern ≠ entry.pattern := by
  rw [find?_accepts] at found
  obtain ⟨accepted, before, after, parted, passed⟩ := List.find?_eq_some_iff_append.mp found
  have noneBefore : before.filter (fun row => row.pattern = entry.pattern) = [] := by
    refine List.filter_eq_nil_iff.mpr fun row member same => ?_
    have same : row.pattern = entry.pattern := by simpa using same
    simpa [same, accepted] using passed row member
  have equal := document.entries_ofPattern entry.pattern
  rw [parted, List.filter_append, noneBefore, List.nil_append, List.filter_cons_of_pos (by simp)] at equal
  obtain ⟨front, back, split, others, _⟩ := List.filter_eq_cons_iff.mp equal.symm
  exact ⟨front, back, split, fun other member => by simpa using others other member⟩

theorem find?_best_leaf (document : Document) (program : String) (typed : List String) :
    (document.table.find? program typed = none ↔
      ∀ leaf ∈ document.leaves, ¬ leaf.pattern.Matches (commandLine program typed)) ∧
    ∀ entry, document.table.find? program typed = some entry →
      ∃ before after, document.leaves = before ++ entry :: after ∧
        entry.pattern.Matches (commandLine program typed) ∧
        (∀ other ∈ before, other.pattern.Matches (commandLine program typed) →
          entry.pattern.Outranks other.pattern) ∧
        (∀ other ∈ after, other.pattern.Matches (commandLine program typed) →
          other.pattern = entry.pattern ∨ entry.pattern.Outranks other.pattern) := by
  constructor
  · rw [find?_accepts, List.find?_eq_none]
    simp only [Pattern.accepts_exact, document.entries_perm.mem_iff]
  · intro entry found
    obtain ⟨before, after, parted, unlike⟩ := find?_first_leaf found
    rw [find?_accepts] at found
    have accepted : entry.pattern.accepts (commandLine program typed) = true := by
      simpa using List.find?_some found
    have outranks : ∀ other ∈ document.leaves, other.pattern.Matches (commandLine program typed) →
        other.pattern ≠ entry.pattern → entry.pattern.Outranks other.pattern := fun other member matched =>
      Entry.first_outranks (Entry.order_settled _) found (document.entries_perm.mem_iff.mpr member)
        (Pattern.accepts_exact.mpr matched)
    refine ⟨before, after, parted, Pattern.accepts_exact.mp accepted, ?_, ?_⟩
    · intro other member matched
      exact outranks other (by simp [parted, member]) matched (unlike other member)
    · intro other member matched
      by_cases same : other.pattern = entry.pattern
      · exact .inl same
      · exact .inr (outranks other (by simp [parted, member]) matched same)

end Document

end CompletionRules
