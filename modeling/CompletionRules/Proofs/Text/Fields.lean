import CompletionRules.Text.Blank

-- The maximal stretches of a text without separators.

namespace CompletionRules.Text

variable {isSeparator other : Char → Bool} {text : List Char}

def fieldsOf (isSeparator : Char → Bool) (text : List Char) : List (List Char) :=
  (pieces isSeparator text).filter fun piece => !piece.isEmpty

theorem wordsOf_fieldsOf (text : List Char) : wordsOf text = fieldsOf isBlank text := rfl

theorem pieces_congr (alike : ∀ c ∈ text, isSeparator c = other c) : pieces isSeparator text = pieces other text := by
  induction text with
  | nil => rfl
  | cons c rest ih =>
    have later := ih fun d member => alike d (List.mem_cons_of_mem _ member)
    rw [pieces, pieces, alike c (by simp), later]

theorem fieldsOf_congr (alike : ∀ c ∈ text, isSeparator c = other c) :
    fieldsOf isSeparator text = fieldsOf other text := by
  rw [fieldsOf, fieldsOf, pieces_congr alike]

theorem fieldsOf_append_separator (left right : List Char) (c : Char) (separator : isSeparator c = true) :
    fieldsOf isSeparator (left ++ c :: right) = fieldsOf isSeparator left ++ fieldsOf isSeparator right := by
  rw [fieldsOf, pieces_append_separator _ _ _ _ separator, List.filter_append]
  rfl

theorem fieldsOf_whole (filled : text ≠ []) (whole : ∀ c ∈ text, isSeparator c = false) :
    fieldsOf isSeparator text = [text] := by
  rw [fieldsOf, pieces_whole isSeparator whole]
  simpa using filled

theorem fieldsOf_concat {c : Char} (separator : isSeparator c = true) :
    fieldsOf isSeparator (text ++ [c]) = fieldsOf isSeparator text := by
  rw [fieldsOf_append_separator _ _ _ separator]
  exact List.append_nil _

theorem fieldsOf_append_separators {ending : List Char} (separators : ∀ c ∈ ending, isSeparator c = true) :
    fieldsOf isSeparator (text ++ ending) = fieldsOf isSeparator text := by
  induction ending generalizing text with
  | nil => rw [List.append_nil]
  | cons c rest ih =>
    calc fieldsOf isSeparator (text ++ c :: rest)
        = fieldsOf isSeparator ((text ++ [c]) ++ rest) := by rw [List.append_assoc, List.singleton_append]
      _ = fieldsOf isSeparator (text ++ [c]) := ih fun d member => separators d (List.mem_cons_of_mem _ member)
      _ = fieldsOf isSeparator text := fieldsOf_concat (separators c (by simp))

theorem mem_piece {c : Char} (member : c ∈ text) (plain : isSeparator c = false) :
    ∃ piece ∈ pieces isSeparator text, c ∈ piece := by
  induction text with
  | nil => cases member
  | cons d rest ih =>
    cases cut : pieces isSeparator rest with
    | nil => exact absurd cut (pieces_ne_nil _ rest)
    | cons first others =>
      by_cases separator : isSeparator d = true
      · have later : c ∈ rest := by
          refine (List.mem_cons.mp member).resolve_left ?_
          rintro rfl
          rw [plain] at separator
          cases separator
        obtain ⟨piece, listed, inside⟩ := ih later
        refine ⟨piece, ?_, inside⟩
        rw [pieces, if_pos separator]
        exact List.mem_cons_of_mem _ listed
      · rw [pieces, if_neg separator, cut]
        rcases List.mem_cons.mp member with rfl | later
        · exact ⟨c :: first, by simp, by simp⟩
        · obtain ⟨piece, listed, inside⟩ := ih later
          rw [cut] at listed
          rcases List.mem_cons.mp listed with rfl | further
          · exact ⟨d :: piece, by simp, List.mem_cons_of_mem _ inside⟩
          · exact ⟨piece, List.mem_cons_of_mem _ further, inside⟩

theorem mem_field {c : Char} (member : c ∈ text) (plain : isSeparator c = false) :
    ∃ field ∈ fieldsOf isSeparator text, c ∈ field := by
  obtain ⟨piece, listed, inside⟩ := mem_piece member plain
  refine ⟨piece, List.mem_filter.mpr ⟨listed, ?_⟩, inside⟩
  simpa using List.ne_nil_of_mem inside

end CompletionRules.Text
