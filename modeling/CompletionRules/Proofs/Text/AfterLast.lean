import CompletionRules.Table.Entry

-- The text without its longest start that ends in a mark.

namespace CompletionRules.Text

def afterLast (mark : Char) : List Char → List Char
  | [] => []
  | c :: rest => if mark ∈ rest then afterLast mark rest else if c = mark then rest else c :: rest

theorem afterLast_of_not_mem {mark : Char} {text : List Char} (absent : mark ∉ text) :
    afterLast mark text = text := by
  cases text with
  | nil => rfl
  | cons c rest =>
    simp only [List.mem_cons, not_or] at absent
    rw [afterLast, if_neg absent.2, if_neg fun same => absent.1 same.symm]

theorem afterLast_exact (mark : Char) (text : List Char) :
    mark ∉ afterLast mark text ∧
      (afterLast mark text = text ∨ ∃ start, text = start ++ mark :: afterLast mark text) := by
  induction text with
  | nil => exact ⟨by simp [afterLast], .inl rfl⟩
  | cons c rest ih =>
    unfold afterLast
    by_cases later : mark ∈ rest
    · rw [if_pos later]
      refine ⟨ih.1, .inr ?_⟩
      rcases ih.2 with whole | ⟨start, found⟩
      · rw [whole] at ih
        exact absurd later ih.1
      · exact ⟨c :: start, by rw [List.cons_append, ← found]⟩
    · rw [if_neg later]
      by_cases here : c = mark
      · subst here
        rw [if_pos rfl]
        exact ⟨later, .inr ⟨[], rfl⟩⟩
      · rw [if_neg here]
        exact ⟨by simp [later, Ne.symm here], .inl rfl⟩

example : afterLast '/' "/usr/bin/git".toList = "git".toList := by decide

theorem lastPiece_afterLast (mark : Char) (text : List Char) :
    lastPiece (· == mark) text = afterLast mark text := by
  obtain ⟨unmarked, parted⟩ := afterLast_exact mark text
  have alone := pieces_of_not_mem unmarked
  rcases parted with whole | ⟨start, found⟩
  · rw [whole] at alone ⊢
    rw [lastPiece, alone]
    rfl
  · have cut : pieces (· == mark) text = pieces (· == mark) start ++ [afterLast mark text] := by
      calc pieces (· == mark) text
          = pieces (· == mark) (start ++ mark :: afterLast mark text) := by rw [← found]
        _ = pieces (· == mark) start ++ pieces (· == mark) (afterLast mark text) :=
            pieces_append_separator _ _ _ _ (by simp)
        _ = pieces (· == mark) start ++ [afterLast mark text] := by rw [alone]
    rw [lastPiece, cut]
    simp

end CompletionRules.Text

namespace CompletionRules

theorem baseName_afterLast (program : String) :
    baseName program = .ofList (Text.afterLast '/' program.toList) := by
  rw [baseName, Text.lastPiece_afterLast]

end CompletionRules
