import Mathlib.Data.List.Induction
import CompletionRules.Proofs.Candidates.Plain
import CompletionRules.Proofs.Text.FirstPlaces

-- A list of words parted into the words to offer and the actions to ask the shell for. Only that an action is
-- listed once makes the parts of two lists depend on each other.

namespace CompletionRules

namespace Action

theorem written_injective : Function.Injective written := by
  intro first second same
  have meant := Candidate.ofWord_written first
  rw [same, Candidate.ofWord_written] at meant
  cases meant
  rfl

end Action

theorem isPlain_or_written (word : String) : IsPlain word ∨ ∃ action : Action, word = action.written := by
  by_cases plain : IsPlain word
  · exact .inl plain
  · exact .inr (by simpa [IsPlain] using plain)

namespace Candidates

variable {words : List String} {sorted : Candidates} {action : Action}

theorem add_actions_plain {word : String} (plain : IsPlain word) : (sorted.add word).actions = sorted.actions := by
  rw [add, Candidate.ofWord_plain plain]

theorem add_actions_written (sorted : Candidates) (action : Action) :
    (sorted.add action.written).actions =
      if action ∈ sorted.actions then sorted.actions else sorted.actions ++ [action] := by
  rw [add, Candidate.ofWord_written]
  dsimp only
  split
  · rfl
  · rfl

theorem ofWords_concat (words : List String) (word : String) :
    ofWords (words ++ [word]) = (ofWords words).add word := by
  simp [ofWords]

theorem mem_add_actions {word : String} :
    action ∈ (sorted.add word).actions ↔ action ∈ sorted.actions ∨ action.written = word := by
  rcases isPlain_or_written word with plain | ⟨asked, rfl⟩
  · rw [add_actions_plain plain]
    exact ⟨.inl, fun either => either.resolve_right fun same => plain action same.symm⟩
  · rw [add_actions_written, Action.written_injective.eq_iff]
    split
    · rename_i listed
      exact ⟨.inl, fun either => either.elim id fun same => same ▸ listed⟩
    · rw [List.mem_append, List.mem_singleton]

theorem mem_actions : action ∈ (ofWords words).actions ↔ action.written ∈ words := by
  induction words using List.reverseRecOn with
  | nil => simp [ofWords]
  | append_singleton front last ih => rw [ofWords_concat, mem_add_actions, ih, List.mem_append, List.mem_singleton]

theorem actions_inOrder (words : List String) : (ofWords words).actions.Pairwise
    fun first second => words.idxOf first.written < words.idxOf second.written := by
  induction words using List.reverseRecOn with
  | nil => exact .nil
  | append_singleton front last ih =>
    have known : ∀ action ∈ (ofWords front).actions, action.written ∈ front := fun action => mem_actions.mp
    rw [ofWords_concat]
    rcases isPlain_or_written last with plain | ⟨asked, rfl⟩
    · rw [add_actions_plain plain]
      exact Text.inOrder_append known ih [last]
    · rw [add_actions_written]
      split
      · exact Text.inOrder_append known ih _
      · rename_i fresh
        exact Text.inOrder_concat known ih (mt mem_actions.mpr fresh)

theorem actions_nodup (words : List String) : (ofWords words).actions.Nodup := by
  refine (actions_inOrder words).imp fun ordered same => ?_
  rw [same] at ordered
  exact Nat.lt_irrefl _ ordered

theorem actions_append (words more : List String) : (ofWords (words ++ more)).actions =
    (ofWords words).actions ++ (ofWords more).actions.filter fun action => action ∉ (ofWords words).actions := by
  induction more using List.reverseRecOn with
  | nil => simp [ofWords]
  | append_singleton front last ih =>
    rw [← List.append_assoc, ofWords_concat, ofWords_concat]
    rcases isPlain_or_written last with plain | ⟨asked, rfl⟩
    · rw [add_actions_plain plain, add_actions_plain plain, ih]
    · rw [add_actions_written, add_actions_written, ih]
      by_cases before : asked ∈ (ofWords words).actions
      · by_cases again : asked ∈ (ofWords front).actions <;> simp [before, again]
      · by_cases again : asked ∈ (ofWords front).actions <;> simp [before, again]

-- The parts of a list alone, and of two lists put together: an action that the first asks for already is
-- left out of the second.
theorem ofWords_exact (words more : List String) :
    (ofWords words).plain = words.filter (fun word => IsPlain word) ∧
    (ofWords words).actions.Nodup ∧
    (∀ action : Action, action ∈ (ofWords words).actions ↔ action.written ∈ words) ∧
    ((ofWords words).actions.Pairwise fun first second => words.idxOf first.written < words.idxOf second.written) ∧
    (ofWords (words ++ more)).plain = (ofWords words).plain ++ (ofWords more).plain ∧
    (ofWords (words ++ more)).actions =
      (ofWords words).actions ++ (ofWords more).actions.filter fun action => action ∉ (ofWords words).actions := by
  refine ⟨ofWords_plain words, actions_nodup words, fun action => mem_actions, actions_inOrder words, ?_,
    actions_append words more⟩
  rw [ofWords_plain, ofWords_plain, ofWords_plain, List.filter_append]

example : ofWords ["<user>", "<<file>>", "a", "<file", "<>", "<File>", "<file>", "a", "<user>", "<"] =
    ⟨["<<file>>", "a", "<file", "<>", "<File>", "a", "<"], [.users, .files]⟩ := by decide +kernel

end Candidates

end CompletionRules
