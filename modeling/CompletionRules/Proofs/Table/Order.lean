import Mathlib.Data.List.Induction
import CompletionRules.Proofs.Table.Precedence

-- The table order is a first-match order. Precedence is only partial, so no comparison sort could be asked for
-- it; the insertion is carried by a property of all pairs that each placing keeps.

namespace CompletionRules.Entry

variable {entry head : Entry} {entries placed rest : List Entry}

-- No entry has to precede one of its length that stands before it, at any distance.
def Settled (entries : List Entry) : Prop :=
  entries.Pairwise fun earlier later => later.pattern.length = earlier.pattern.length →
    later.pattern.mustPrecede earlier.pattern = false

theorem goesBefore_exact {entry placed : Entry} : entry.goesBefore placed = true ↔
    entry.pattern.length = placed.pattern.length ∧ entry.pattern.mustPrecede placed.pattern = true := by
  simp only [goesBefore, Bool.and_eq_true, beq_iff_eq]
  exact and_congr_left fun _ => eq_comm

theorem goesBefore_false {entry placed : Entry} : entry.goesBefore placed = false ↔
    (entry.pattern.length = placed.pattern.length → entry.pattern.mustPrecede placed.pattern = false) := by
  rw [← Bool.not_eq_true, goesBefore_exact]
  simp

theorem place_perm (entry : Entry) (placed : List Entry) : (entry.place placed).Perm (entry :: placed) := by
  induction placed with
  | nil => exact .refl _
  | cons head rest ih =>
    unfold place
    split
    · exact .refl _
    · exact (ih.cons head).trans (.swap entry head rest)

-- What stands behind an entry that has to wait does not precede the newcomer: it would precede
-- the waiting entry too.
theorem behind_waiting (settled : Settled (head :: rest)) (waits : entry.goesBefore head = true) :
    ∀ later ∈ head :: rest, later.pattern.length = entry.pattern.length →
      later.pattern.mustPrecede entry.pattern = false := by
  obtain ⟨sameLength, precedes⟩ := goesBefore_exact.mp waits
  intro later member equalLength
  rcases List.mem_cons.mp member with rfl | behind
  · exact Pattern.mustPrecede_asymm precedes
  · cases back : later.pattern.mustPrecede entry.pattern with
    | false => rfl
    | true =>
      have ahead := (List.pairwise_cons.mp settled).1 later behind (equalLength.trans sameLength)
      rw [Pattern.mustPrecede_trans back precedes] at ahead
      cases ahead

theorem place_settled (settled : Settled placed) : Settled (entry.place placed) := by
  induction placed with
  | nil => simp [place, Settled]
  | cons head rest ih =>
    unfold place
    split
    · rename_i waits
      exact List.pairwise_cons.mpr ⟨behind_waiting settled waits, settled⟩
    · rename_i passes
      obtain ⟨headFirst, restSettled⟩ := List.pairwise_cons.mp settled
      refine List.pairwise_cons.mpr ⟨fun later member => ?_, ih restSettled⟩
      rcases List.mem_cons.mp ((place_perm entry rest).mem_iff.mp member) with rfl | old
      · exact goesBefore_false.mp (by simpa using passes)
      · exact headFirst later old

theorem no_equal_behind (settled : Settled (head :: rest)) (waits : entry.goesBefore head = true) :
    (head :: rest).filter (fun later => later.pattern = entry.pattern) = [] := by
  obtain ⟨sameLength, precedes⟩ := goesBefore_exact.mp waits
  rw [List.filter_eq_nil_iff]
  intro later member equal
  have equal : later.pattern = entry.pattern := by simpa using equal
  rcases List.mem_cons.mp member with rfl | behind
  · rw [equal, Pattern.mustPrecede_irrefl] at precedes
    cases precedes
  · have ahead := (List.pairwise_cons.mp settled).1 later behind (by rw [equal, sameLength])
    rw [equal, precedes] at ahead
    cases ahead

theorem place_filter_pattern (settled : Settled placed) (pattern : Pattern) :
    (entry.place placed).filter (fun row => row.pattern = pattern) =
      placed.filter (fun row => row.pattern = pattern) ++ [entry].filter (fun row => row.pattern = pattern) := by
  induction placed with
  | nil => simp [place]
  | cons head rest ih =>
    unfold place
    split
    · rename_i waits
      by_cases same : entry.pattern = pattern
      · subst same
        rw [List.filter_cons_of_pos (by simp), no_equal_behind settled waits]
        simp
      · simp [List.filter_cons, same]
    · have restSettled := (List.pairwise_cons.mp settled).2
      by_cases same : head.pattern = pattern <;> simp [List.filter_cons, same, ih restSettled]

theorem place_at_end (passes : ∀ old ∈ placed, entry.goesBefore old = false) :
    entry.place placed = placed ++ [entry] := by
  induction placed with
  | nil => rfl
  | cons head rest ih =>
    rw [place, if_neg (by simp [passes head]), ih fun old member => passes old (List.mem_cons_of_mem _ member)]
    rfl

theorem placeAll_concat (entries : List Entry) (entry : Entry) :
    placeAll (entries ++ [entry]) = entry.place (placeAll entries) := by
  simp [placeAll]

theorem placeAll_perm (entries : List Entry) : (placeAll entries).Perm entries := by
  induction entries using List.reverseRecOn with
  | nil => exact .refl _
  | append_singleton entries entry ih =>
    rw [placeAll_concat]
    exact (place_perm _ _).trans ((ih.cons entry).trans (List.perm_append_singleton entry entries).symm)

theorem placeAll_settled (entries : List Entry) : Settled (placeAll entries) := by
  induction entries using List.reverseRecOn with
  | nil => exact .nil
  | append_singleton entries entry ih =>
    rw [placeAll_concat]
    exact place_settled ih

theorem placeAll_filter_pattern (entries : List Entry) (pattern : Pattern) :
    (placeAll entries).filter (fun row => row.pattern = pattern) =
      entries.filter (fun row => row.pattern = pattern) := by
  induction entries using List.reverseRecOn with
  | nil => rfl
  | append_singleton entries entry ih =>
    rw [placeAll_concat, place_filter_pattern (placeAll_settled entries), ih, List.filter_append]

theorem placeAll_of_settled (settled : Settled entries) : placeAll entries = entries := by
  induction entries using List.reverseRecOn with
  | nil => rfl
  | append_singleton entries entry ih =>
    obtain ⟨before, _, last⟩ := List.pairwise_append.mp settled
    rw [placeAll_concat, ih before]
    exact place_at_end fun old member => goesBefore_false.mpr (last old member entry (by simp))

theorem noLonger_trans (first second third : Entry) (one : noLonger first second = true)
    (two : noLonger second third = true) : noLonger first third = true := by
  simp only [noLonger, decide_eq_true_eq] at *
  exact Nat.le_trans one two

theorem noLonger_total (first second : Entry) : (noLonger first second || noLonger second first) = true := by
  simp only [noLonger, Bool.or_eq_true, decide_eq_true_eq]
  exact Nat.le_total _ _

theorem sort_filter_length (entries : List Entry) (length : Nat) :
    (entries.mergeSort noLonger).filter (fun row => row.pattern.length = length) =
      entries.filter (fun row => row.pattern.length = length) := by
  have level : (entries.filter fun row => row.pattern.length = length).Pairwise
      fun first second => noLonger first second = true := by
    refine List.pairwise_of_forall_mem_list fun first left second right => ?_
    have leftLength := (List.mem_filter.mp left).2
    have rightLength := (List.mem_filter.mp right).2
    simp only [decide_eq_true_eq] at leftLength rightLength
    simp [noLonger, leftLength, rightLength]
  have kept := (List.sublist_mergeSort noLonger_trans noLonger_total level List.filter_sublist).filter
    (fun row => decide (row.pattern.length = length))
  rw [List.filter_filter] at kept
  simp only [Bool.and_self] at kept
  exact (kept.eq_of_length ((List.mergeSort_perm entries noLonger).filter _).length_eq.symm).symm

theorem order_perm (entries : List Entry) : (order entries).Perm entries :=
  (List.mergeSort_perm _ _).trans (placeAll_perm entries)

theorem order_lengths (entries : List Entry) : (order entries).Pairwise
    fun earlier later => earlier.pattern.length ≤ later.pattern.length := by
  refine (List.pairwise_mergeSort noLonger_trans noLonger_total (placeAll entries)).imp ?_
  intro earlier later ordered
  simpa [noLonger] using ordered

theorem order_settled (entries : List Entry) : Settled (order entries) := by
  refine List.pairwise_iff_forall_sublist.mpr fun {earlier later} pair equalLength => ?_
  have level := pair.filter fun row => decide (row.pattern.length = later.pattern.length)
  rw [order, sort_filter_length] at level
  have inPlace : [earlier, later].Sublist (placeAll entries) := by
    simpa [equalLength] using level.trans List.filter_sublist
  exact List.pairwise_iff_forall_sublist.mp (placeAll_settled entries) inPlace equalLength

theorem order_filter_pattern (entries : List Entry) (pattern : Pattern) :
    (order entries).filter (fun row => row.pattern = pattern) =
      entries.filter (fun row => row.pattern = pattern) := by
  have through (rows : List Entry) : rows.filter (fun row => row.pattern = pattern) =
      (rows.filter fun row => row.pattern.length = pattern.length).filter fun row => row.pattern = pattern := by
    rw [List.filter_filter]
    refine List.filter_congr fun row _ => ?_
    by_cases same : row.pattern = pattern <;> simp [same]
  rw [through, order, sort_filter_length, ← through, placeAll_filter_pattern]

def StableByLength (entries sorted : List Entry) : Prop :=
  sorted.Pairwise (fun earlier later => earlier.pattern.length ≤ later.pattern.length) ∧
    ∀ length, sorted.filter (fun row => row.pattern.length = length) =
      entries.filter (fun row => row.pattern.length = length)

theorem order_of_settled (settled : Settled entries) : order entries = entries.mergeSort noLonger := by
  rw [order, placeAll_of_settled settled]

theorem order_order (entries : List Entry) : order (order entries) = order entries := by
  rw [order_of_settled (order_settled entries)]
  refine List.mergeSort_of_pairwise ((order_lengths entries).imp ?_)
  intro earlier later ordered
  simpa [noLonger] using ordered

theorem order_settles_stably (entries : List Entry) :
    (order entries).Perm entries ∧
    (order entries).Pairwise (fun earlier later => earlier.pattern.length ≤ later.pattern.length) ∧
    Settled (order entries) ∧
    (∀ pattern, (order entries).filter (fun row => row.pattern = pattern) =
      entries.filter (fun row => row.pattern = pattern)) ∧
    (Settled entries → order entries = entries.mergeSort noLonger ∧ StableByLength entries (order entries)) ∧
    order (order entries) = order entries := by
  refine ⟨order_perm entries, order_lengths entries, order_settled entries,
    order_filter_pattern entries, fun settled => ?_, order_order entries⟩
  refine ⟨order_of_settled settled, order_lengths entries, fun length => ?_⟩
  rw [order_of_settled settled, sort_filter_length]

end CompletionRules.Entry
