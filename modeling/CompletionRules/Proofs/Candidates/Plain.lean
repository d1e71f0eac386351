import CompletionRules.Candidates.Completion

-- The plain words of a list, told without the walk that sorts them out: those that do not ask for an
-- action, in their order and with their repetitions.

namespace CompletionRules

namespace Action

def written (action : Action) : String := "<" ++ action.name ++ ">"

theorem ofName?_name (action : Action) : ofName? action.name = some action := by
  have each : ∀ listed ∈ all, ofName? listed.name = some listed := by decide +kernel
  exact each action action.mem_all

theorem ofName?_eq_some {name : String} {action : Action} : ofName? name = some action ↔ name = action.name := by
  constructor
  · intro found
    have named : action.name = name := by simpa using List.find?_some found
    exact named.symm
  · rintro rfl
    exact ofName?_name action

end Action

def IsPlain (word : String) : Prop := ∀ action : Action, word ≠ action.written

instance : DecidablePred IsPlain := fun word =>
  decidable_of_iff (∀ action ∈ Action.all, word ≠ action.written)
    ⟨fun apart action => apart action action.mem_all, fun apart action _ => apart action⟩

namespace Candidate

theorem bracketed?_eq_some {word name : List Char} : bracketed? word = some name ↔ word = '<' :: name ++ ['>'] := by
  constructor
  · intro found
    unfold bracketed? at found
    split at found
    · rename_i rest
      split at found
      · rename_i closed
        cases found
        obtain ⟨front, rfl⟩ := List.getLast?_eq_some_iff.mp closed
        simp
      · cases found
    · cases found
  · rintro rfl
    simp [bracketed?]

theorem meant_iff {word : String} {action : Action} :
    ((bracketed? word.toList).bind fun name => Action.ofName? (.ofList name)) = some action ↔ word = action.written := by
  simp only [Option.bind_eq_some_iff, bracketed?_eq_some, Action.ofName?_eq_some]
  have letters : action.written.toList = '<' :: action.name.toList ++ ['>'] := by
    rw [Action.written, String.toList_append, String.toList_append]
    rfl
  constructor
  · rintro ⟨name, spelled, known⟩
    rw [← String.toList_inj, letters, spelled, ← known, String.toList_ofList]
  · rintro rfl
    exact ⟨action.name.toList, letters, String.ofList_toList⟩

theorem ofWord_plain {word : String} (plain : IsPlain word) : ofWord word = .word word := by
  unfold ofWord
  split
  · rename_i meant found
    exact absurd (meant_iff.mp found) (plain meant)
  · rfl

theorem ofWord_written (action : Action) : ofWord action.written = .action action := by
  rw [ofWord, meant_iff.mpr rfl]

end Candidate

namespace Candidates

theorem add_plain (sorted : Candidates) (word : String) :
    (sorted.add word).plain = sorted.plain ++ if IsPlain word then [word] else [] := by
  by_cases plain : IsPlain word
  · rw [add, Candidate.ofWord_plain plain, if_pos plain]
  · obtain ⟨action, rfl⟩ : ∃ action : Action, word = action.written := by simpa [IsPlain] using plain
    rw [add, Candidate.ofWord_written, if_neg plain, List.append_nil]
    dsimp only
    split
    · rfl
    · rfl

theorem ofWords_plain (words : List String) :
    (ofWords words).plain = words.filter fun word => IsPlain word := by
  have run (sorted : Candidates) : (words.foldl add sorted).plain =
      sorted.plain ++ words.filter fun word => IsPlain word := by
    induction words generalizing sorted with
    | nil => exact (List.append_nil _).symm
    | cons word rest ih =>
      rw [List.foldl_cons, ih, add_plain, List.append_assoc]
      by_cases plain : IsPlain word
      · rw [if_pos plain, List.filter_cons_of_pos (by simpa using plain), List.singleton_append]
      · rw [if_neg plain, List.filter_cons_of_neg (by simpa using plain), List.nil_append]
  exact run ⟨[], []⟩

end Candidates

end CompletionRules
