-- Cutting a text at separator characters. `pieces` keeps every piece, empty ones too, so nothing
-- of the text but the separators is lost; words, lines and path components are read off it.

namespace CompletionRules.Text

def pieces (isSeparator : Char → Bool) : List Char → List (List Char)
  | [] => [[]]
  | c :: rest =>
    if isSeparator c then [] :: pieces isSeparator rest
    else match pieces isSeparator rest with
      | [] => [[c]]
      | piece :: others => (c :: piece) :: others

theorem pieces_ne_nil (isSeparator : Char → Bool) (text : List Char) : pieces isSeparator text ≠ [] := by
  cases text with
  | nil => simp [pieces]
  | cons c rest =>
    unfold pieces
    split
    · simp
    · split <;> simp

theorem pieces_append_separator (isSeparator : Char → Bool) (left right : List Char) (c : Char)
    (separator : isSeparator c = true) :
    pieces isSeparator (left ++ c :: right) = pieces isSeparator left ++ pieces isSeparator right := by
  induction left with
  | nil => simp [pieces, separator]
  | cons d rest ih =>
    by_cases h : isSeparator d = true
    · simp [pieces, h, ih]
    · have nonempty := pieces_ne_nil isSeparator rest
      cases found : pieces isSeparator rest with
      | nil => exact absurd found nonempty
      | cons piece others => simp [pieces, h, ih, found]

theorem pieces_whole (isSeparator : Char → Bool) {text : List Char}
    (whole : ∀ c ∈ text, isSeparator c = false) : pieces isSeparator text = [text] := by
  induction text with
  | nil => rfl
  | cons c rest ih =>
    have inner := ih fun d member => whole d (List.mem_cons_of_mem _ member)
    simp [pieces, whole c (by simp), inner]

theorem pieces_of_not_mem {mark : Char} {text : List Char} (absent : mark ∉ text) :
    pieces (· == mark) text = [text] := by
  refine pieces_whole _ fun c member => ?_
  simp only [beq_eq_false_iff_ne]
  rintro rfl
  exact absent member

theorem mem_pieces_whole {isSeparator : Char → Bool} {text piece : List Char}
    (member : piece ∈ pieces isSeparator text) : ∀ c ∈ piece, isSeparator c = false := by
  induction text generalizing piece with
  | nil => simp_all [pieces]
  | cons d rest ih =>
    by_cases separator : isSeparator d = true
    · rw [pieces, if_pos separator] at member
      rcases List.mem_cons.mp member with rfl | later
      · simp
      · exact ih later
    · cases found : pieces isSeparator rest with
      | nil => exact absurd found (pieces_ne_nil isSeparator rest)
      | cons first others =>
        rw [pieces, if_neg separator, found] at member
        rw [found] at ih
        rcases List.mem_cons.mp member with rfl | later
        · intro c inside
          rcases List.mem_cons.mp inside with rfl | deeper
          · simpa using separator
          · exact ih (by simp) c deeper
        · exact ih (List.mem_cons_of_mem _ later)

def lastPiece (isSeparator : Char → Bool) (text : List Char) : List Char :=
  ((pieces isSeparator text).getLast?).getD []

def joined (glue : String) (texts : List String) : String := glue.intercalate texts

end CompletionRules.Text
