import CompletionRules.Text.Lines

-- Lines that are written with a line feed behind each. Cutting and reading part here: every line
-- comes back, but a reader of lines also takes away the carriage return that a line ends in.

namespace CompletionRules.Text

theorem pieces_terminated {lines : List (List Char)} (unbroken : ∀ line ∈ lines, '\n' ∉ line) :
    pieces (· == '\n') (lines.flatMap fun line => line ++ ['\n']) = lines ++ [[]] := by
  induction lines with
  | nil => rfl
  | cons line rest ih =>
    have alone : pieces (· == '\n') line = [line] := pieces_of_not_mem (unbroken line (by simp))
    have later := ih fun other member => unbroken other (List.mem_cons_of_mem _ member)
    rw [List.flatMap_cons, List.append_assoc, List.singleton_append, pieces_append_separator _ _ _ _ (by simp),
      alone, later]
    rfl

theorem terminated_pieces (text : List Char) :
    (pieces (· == '\n') text).flatMap (fun line => line ++ ['\n']) = text ++ ['\n'] := by
  induction text with
  | nil => rfl
  | cons c rest ih =>
    by_cases feed : c = '\n'
    · subst feed
      simp [pieces, ih]
    · cases cut : pieces (· == '\n') rest with
      | nil => exact absurd cut (pieces_ne_nil _ rest)
      | cons piece others =>
        rw [cut] at ih
        simpa [pieces, feed, cut] using ih

theorem finishLines_terminated (lines : List (List Char)) :
    finishLines (lines ++ [[]]) = lines.map dropReturn := by
  induction lines with
  | nil => rfl
  | cons line rest ih =>
    cases rest with
    | nil => rfl
    | cons next others => exact congrArg (dropReturn line :: ·) ih

theorem linesOf_terminated {lines : List (List Char)} (unbroken : ∀ line ∈ lines, '\n' ∉ line) :
    linesOf (lines.flatMap fun line => line ++ ['\n']) = lines.map dropReturn := by
  rw [linesOf, pieces_terminated unbroken, finishLines_terminated]

theorem dropReturn_concat (front : List Char) {last : Char} (other : last ≠ '\r') :
    dropReturn (front ++ [last]) = front ++ [last] := by
  simp [dropReturn, other]

theorem mem_dropReturn {line : List Char} {c : Char} (member : c ∈ dropReturn line) : c ∈ line := by
  unfold dropReturn at member
  split at member
  · exact (List.dropLast_sublist line).subset member
  · exact member

theorem mem_finishLines {lines : List (List Char)} {line : List Char} (member : line ∈ finishLines lines) :
    ∃ whole ∈ lines, ∀ c ∈ line, c ∈ whole := by
  fun_induction finishLines lines with
  | case1 => cases member
  | case2 => cases member
  | case3 last => exact ⟨line, member, fun _ => id⟩
  | case4 first next others ih =>
    rcases List.mem_cons.mp member with rfl | later
    · exact ⟨first, by simp, fun _ => mem_dropReturn⟩
    · obtain ⟨whole, listed, inside⟩ := ih later
      exact ⟨whole, List.mem_cons_of_mem _ listed, inside⟩

theorem linesOf_unbroken {text line : List Char} (member : line ∈ linesOf text) : '\n' ∉ line := by
  intro feed
  obtain ⟨whole, cut, inside⟩ := mem_finishLines member
  simpa using mem_pieces_whole cut '\n' (inside '\n' feed)

def withoutReturns : List Char → List Char
  | [] => []
  | '\r' :: '\n' :: rest => '\n' :: withoutReturns rest
  | c :: rest => c :: withoutReturns rest

theorem withoutReturns_length (text : List Char) : (withoutReturns text).length ≤ text.length := by
  fun_induction withoutReturns text with
  | case1 => exact Nat.le_refl 0
  | case2 rest ih =>
    simp only [List.length_cons]
    omega
  | case3 c rest _ ih => exact Nat.succ_le_succ ih

theorem withoutReturns_eq_self {text : List Char} : withoutReturns text = text ↔ ¬['\r', '\n'] <:+: text := by
  constructor
  · intro same within
    fun_induction withoutReturns text with
    | case1 => simp at within
    | case2 rest ih =>
      have shorter := withoutReturns_length rest
      have lengths := congrArg List.length same
      simp only [List.length_cons] at lengths
      omega
    | case3 c rest other ih =>
      rcases List.infix_cons_iff.mp within with here | later
      · obtain ⟨behind, parts⟩ := here
        cases parts
        exact other behind rfl rfl
      · exact ih (List.cons.inj same).2 later
  · intro clean
    fun_induction withoutReturns text with
    | case1 => rfl
    | case2 rest ih => exact absurd (List.prefix_append ['\r', '\n'] rest).isInfix clean
    | case3 c rest _ ih => rw [ih fun within => clean (within.trans (List.suffix_cons c rest).isInfix)]

variable {line rest text : List Char}

theorem withoutReturns_unbroken (unbroken : '\n' ∉ line) : withoutReturns line = line :=
  withoutReturns_eq_self.mpr fun within => unbroken (within.subset (by simp))

theorem dropReturn_cons_cons (c d : Char) (more : List Char) :
    dropReturn (c :: d :: more) = c :: dropReturn (d :: more) := by
  rw [dropReturn, dropReturn, List.getLast?_cons_cons]
  split
  · rfl
  · rfl

theorem withoutReturns_line (unbroken : '\n' ∉ line) (rest : List Char) :
    withoutReturns (line ++ '\n' :: rest) = dropReturn line ++ '\n' :: withoutReturns rest := by
  induction line with
  | nil => rfl
  | cons c others ih =>
    have othersUnbroken : '\n' ∉ others := fun feed => unbroken (List.mem_cons_of_mem _ feed)
    cases others with
    | nil =>
      by_cases isReturn : c = '\r'
      · subst isReturn
        rfl
      · have unlike : c ≠ '\n' := fun same => unbroken (by simp [same])
        have alone : dropReturn [c] = [c] := dropReturn_concat [] isReturn
        simp [withoutReturns, isReturn, alone]
    | cons d more =>
      have unlike : d ≠ '\n' := fun same => othersUnbroken (by simp [same])
      have step : withoutReturns (c :: (d :: more ++ '\n' :: rest)) =
          c :: withoutReturns (d :: more ++ '\n' :: rest) := by simp [withoutReturns, unlike]
      rw [List.cons_append, step, ih othersUnbroken, dropReturn_cons_cons, List.cons_append]

theorem linesOf_line (unbroken : '\n' ∉ line) (rest : List Char) :
    linesOf (line ++ '\n' :: rest) = dropReturn line :: linesOf rest := by
  have cut : pieces (· == '\n') (line ++ '\n' :: rest) = line :: pieces (· == '\n') rest := by
    rw [pieces_append_separator _ _ _ _ (by simp), pieces_of_not_mem unbroken, List.singleton_append]
  obtain ⟨next, others, restCut⟩ := List.exists_cons_of_ne_nil (pieces_ne_nil (· == '\n') rest)
  rw [linesOf, cut, restCut, finishLines, linesOf, restCut]

theorem linesOf_whole (filled : line ≠ []) (unbroken : '\n' ∉ line) : linesOf line = [line] := by
  rw [linesOf, pieces_of_not_mem unbroken, finishLines, if_neg (by simpa using filled)]

theorem linesOf_ne_nil (filled : text ≠ []) : linesOf text ≠ [] := by
  by_cases broken : '\n' ∈ text
  · obtain ⟨line, rest, rfl, unbroken⟩ := List.eq_append_cons_of_mem broken
    rw [linesOf_line unbroken]
    exact List.cons_ne_nil _ _
  · rw [linesOf_whole filled broken]
    exact List.cons_ne_nil _ _

theorem linesOf_together (text : List Char) (ends : text.getLast? ≠ some '\n') :
    ['\n'].intercalate (linesOf text) = withoutReturns text := by
  by_cases broken : '\n' ∈ text
  · obtain ⟨line, rest, rfl, unbroken⟩ := List.eq_append_cons_of_mem broken
    have filled : rest ≠ [] := by
      rintro rfl
      simp at ends
    have restEnds : rest.getLast? ≠ some '\n' := by
      obtain ⟨next, more, rfl⟩ := List.exists_cons_of_ne_nil filled
      simpa using ends
    rw [linesOf_line unbroken, withoutReturns_line unbroken, ← linesOf_together rest restEnds,
      List.intercalate_cons_of_ne_nil (linesOf_ne_nil filled), List.append_assoc, List.singleton_append]
  · rw [withoutReturns_unbroken broken]
    cases text with
    | nil => rfl
    | cons c rest =>
      rw [linesOf_whole (List.cons_ne_nil c rest) broken, List.intercalate_singleton]
termination_by text.length

end CompletionRules.Text
