import CompletionRules.Candidates.Completion
import CompletionRules.Proofs.Table.FirstMatch
import CompletionRules.Proofs.Table.Overtaking

-- Completion does not depend on how the rules are written down: the entry that answers a line outranks every
-- other that matches it, and two patterns cannot outrank each other.

namespace CompletionRules

namespace Document

def rules (document : Document) : List (Pattern × Source) :=
  document.leaves.map fun leaf => (leaf.pattern, leaf.source)

def SameRules (left right : Document) : Prop := ∀ rule, rule ∈ left.rules ↔ rule ∈ right.rules

def PatternsOnce (document : Document) : Prop := (document.leaves.map Entry.pattern).Nodup

variable {left right document : Document} {program : String} {typed : List String} {entry other leaf : Entry}

theorem SameRules.symm (same : SameRules left right) : SameRules right left := fun rule => (same rule).symm

theorem SameRules.twin (same : SameRules left right) (member : leaf ∈ left.leaves) :
    ∃ twin ∈ right.leaves, twin.pattern = leaf.pattern ∧ twin.source = leaf.source := by
  have listed : (leaf.pattern, leaf.source) ∈ left.rules := List.mem_map.mpr ⟨leaf, member, rfl⟩
  obtain ⟨twin, inRight, equal⟩ := List.mem_map.mp ((same _).mp listed)
  obtain ⟨samePattern, sameSource⟩ := Prod.mk.inj equal
  exact ⟨twin, inRight, samePattern, sameSource⟩

theorem PatternsOnce.source_eq (once : document.PatternsOnce) (first : leaf ∈ document.leaves)
    (second : other ∈ document.leaves) (samePattern : leaf.pattern = other.pattern) :
    leaf.source = other.source :=
  congrArg Entry.source (List.inj_on_of_nodup_map once first second samePattern)

theorem find?_leaf (found : document.table.find? program typed = some entry) :
    entry ∈ document.leaves ∧ entry.pattern.accepts (commandLine program typed) = true := by
  rw [find?_accepts] at found
  exact ⟨document.entries_perm.mem_iff.mp (List.mem_of_find?_eq_some found), by simpa using List.find?_some found⟩

theorem find?_outranks (found : document.table.find? program typed = some entry)
    (member : leaf ∈ document.leaves) (matched : leaf.pattern.accepts (commandLine program typed) = true)
    (differ : leaf.pattern ≠ entry.pattern) : entry.pattern.mustPrecede leaf.pattern = true := by
  rw [find?_accepts] at found
  exact Pattern.mustPrecede_exact.mpr (Entry.first_outranks (Entry.order_settled document.walked) found
    (document.entries_perm.mem_iff.mpr member) matched differ)

theorem find?_isSome (member : leaf ∈ document.leaves)
    (matched : leaf.pattern.accepts (commandLine program typed) = true) :
    ∃ entry, document.table.find? program typed = some entry := by
  rw [find?_accepts, ← Option.isSome_iff_exists, List.find?_isSome]
  exact ⟨leaf, document.entries_perm.mem_iff.mpr member, matched⟩

-- The answers of the two tables carry one pattern: otherwise each would outrank the other's.
theorem find?_twin (same : SameRules left right) (rightOnce : right.PatternsOnce)
    (found : left.table.find? program typed = some entry) :
    ∃ other, right.table.find? program typed = some other ∧ other.source = entry.source := by
  obtain ⟨inLeft, accepted⟩ := find?_leaf found
  obtain ⟨twin, inRight, twinPattern, twinSource⟩ := same.twin inLeft
  have twinAccepted : twin.pattern.accepts (commandLine program typed) = true := by
    rw [twinPattern]
    exact accepted
  obtain ⟨other, answered⟩ := find?_isSome inRight twinAccepted
  obtain ⟨otherLeaf, otherAccepted⟩ := find?_leaf answered
  refine ⟨other, answered, ?_⟩
  by_cases samePattern : other.pattern = twin.pattern
  · exact (rightOnce.source_eq otherLeaf inRight samePattern).trans twinSource
  · obtain ⟨back, backLeaf, backPattern, _⟩ := same.symm.twin otherLeaf
    have forth : other.pattern.mustPrecede entry.pattern = true := by
      rw [← twinPattern]
      exact find?_outranks answered inRight twinAccepted (Ne.symm samePattern)
    have reverse : entry.pattern.mustPrecede other.pattern = true := by
      rw [← backPattern]
      refine find?_outranks found backLeaf (by rw [backPattern]; exact otherAccepted) ?_
      rw [backPattern, ← twinPattern]
      exact samePattern
    rw [Pattern.mustPrecede_asymm forth] at reverse
    cases reverse

theorem find?_source_eq (same : SameRules left right) (leftOnce : left.PatternsOnce)
    (rightOnce : right.PatternsOnce) (program : String) (typed : List String) :
    (left.table.find? program typed).map Entry.source = (right.table.find? program typed).map Entry.source := by
  cases found : left.table.find? program typed with
  | some entry =>
    obtain ⟨other, answered, sameSource⟩ := find?_twin same rightOnce found
    rw [answered, Option.map_some, Option.map_some, sameSource]
  | none =>
    cases answered : right.table.find? program typed with
    | none => rfl
    | some other =>
      obtain ⟨entry, foundToo, _⟩ := find?_twin same.symm leftOnce answered
      rw [found] at foundToo
      cases foundToo

theorem complete_of_sameRules (same : SameRules left right) (leftOnce : left.PatternsOnce)
    (rightOnce : right.PatternsOnce) {m : Type → Type} [Monad m] (run : String → m (Option String))
    (request : Request) : left.table.complete run request = right.table.complete run request := by
  have offered (document : Document) : document.table.offer request.program request.typed =
      (((document.table.find? request.program request.typed).map Entry.source).map Source.offer).getD (.fixed []) := by
    unfold Table.offer
    cases document.table.find? request.program request.typed <;> rfl
  have sameOffer : left.table.offer request.program request.typed =
      right.table.offer request.program request.typed := by
    rw [offered, offered, find?_source_eq same leftOnce rightOnce]
  rw [Table.complete, Table.complete, sameOffer]

def rearrangedRules : Children :=
  .cons ⟨"b", by decide⟩ (.branch (.cons ⟨"y", by decide⟩ (.leaf (.words ["2"])) .nil))
    (.cons ⟨"a", by decide⟩ (.branch
      (.cons ⟨"x", by decide⟩ (.leaf (.words ["3"]))
      (.cons ⟨"*", by decide⟩ (.leaf (.words ["1"])) .nil))) .nil)

def rearranged : Document where
  root := .branch rearrangedRules
  options := []
  root_distinct := by
    simp [rearrangedRules, Tree.KeysDistinct, Children.AllKeysDistinct, Children.toList, Pairs.Distinct]
  options_distinct := Pairs.distinct_nil

theorem rearranged_complete :
    SameRules interleaved rearranged ∧ interleaved.PatternsOnce ∧ rearranged.PatternsOnce ∧
    interleaved.table.complete (fun _ => (none : Id (Option String))) ⟨"a", ["x"], ""⟩ =
      rearranged.table.complete (fun _ => (none : Id (Option String))) ⟨"a", ["x"], ""⟩ := by
  have perm : interleaved.rules.Perm rearranged.rules := by decide
  have same : SameRules interleaved rearranged := fun _ => perm.mem_iff
  have leftOnce : interleaved.PatternsOnce := by
    unfold PatternsOnce
    decide
  have rightOnce : rearranged.PatternsOnce := by
    unfold PatternsOnce
    decide
  exact ⟨same, leftOnce, rightOnce, complete_of_sameRules same leftOnce rightOnce _ _⟩

end Document

end CompletionRules
