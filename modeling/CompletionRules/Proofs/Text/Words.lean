import CompletionRules.Text.Blank

-- Words that are written with blanks behind each are read back as they were.

namespace CompletionRules.Text

def IsWord (text : String) : Prop := text.toList ≠ [] ∧ ∀ c ∈ text.toList, isBlank c = false

theorem words_isWord {text word : String} (member : word ∈ words text) : IsWord word := by
  obtain ⟨piece, listed, rfl⟩ := List.mem_map.mp member
  obtain ⟨cut, filled⟩ := List.mem_filter.mp listed
  rw [IsWord, String.toList_ofList]
  exact ⟨by simpa using filled, mem_pieces_whole cut⟩

def written (words : List String) : String := .ofList (words.flatMap fun word => word.toList ++ [' '])

theorem wordsOf_whole {word : List Char} (filled : word ≠ []) (whole : ∀ c ∈ word, isBlank c = false) :
    wordsOf word = [word] := by
  rw [wordsOf, pieces_whole isBlank whole]
  simpa using filled

theorem wordsOf_blanks_append {blanks : List Char} (blank : ∀ c ∈ blanks, isBlank c = true) (text : List Char) :
    wordsOf (blanks ++ text) = wordsOf text := by
  induction blanks with
  | nil => rfl
  | cons c rest ih =>
    have later := ih fun d member => blank d (List.mem_cons_of_mem _ member)
    have first : wordsOf (c :: (rest ++ text)) = wordsOf (rest ++ text) := wordsOf_append_blank [] _ c (blank c (by simp))
    exact first.trans later

inductive Spaced : List String → List Char → Prop where
  | nil : Spaced [] []
  | cons {word : String} {others : List String} {gap text : List Char} (isWord : IsWord word) (filled : gap ≠ [])
      (blank : ∀ c ∈ gap, isBlank c = true) (rest : Spaced others text) :
      Spaced (word :: others) (word.toList ++ (gap ++ text))

theorem Spaced.wordsOf_append {words : List String} {text : List Char} (spaced : Spaced words text)
    (behind : List Char) : wordsOf (text ++ behind) = words.map String.toList ++ wordsOf behind := by
  induction spaced with
  | nil => rfl
  | @cons word others gap text isWord filled blank rest ih =>
    obtain ⟨c, run, rfl⟩ := List.exists_cons_of_ne_nil filled
    have parted : word.toList ++ ((c :: run) ++ text) ++ behind = word.toList ++ c :: (run ++ (text ++ behind)) := by simp
    have later : ∀ d ∈ run, isBlank d = true := fun d member => blank d (List.mem_cons_of_mem _ member)
    rw [parted, wordsOf_append_blank _ _ _ (blank c (by simp)), wordsOf_whole isWord.1 isWord.2,
      wordsOf_blanks_append later, ih]
    rfl

theorem spaced_written {texts : List String} (spelled : ∀ word ∈ texts, IsWord word) :
    Spaced texts (written texts).toList := by
  rw [written, String.toList_ofList]
  induction texts with
  | nil => exact .nil
  | cons word rest ih =>
    have later := ih fun other member => spelled other (List.mem_cons_of_mem _ member)
    rw [List.flatMap_cons, List.append_assoc]
    exact .cons (spelled word (by simp)) (List.cons_ne_nil _ _) (List.forall_mem_singleton.mpr rfl) later

theorem words_written {texts : List String} (spelled : ∀ word ∈ texts, IsWord word) :
    words (written texts) = texts := by
  have read := (spaced_written spelled).wordsOf_append []
  rw [List.append_nil] at read
  rw [words, read, List.map_append, List.map_map]
  simp [wordsOf, pieces, Function.comp_def]

end CompletionRules.Text
