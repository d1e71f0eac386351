import Mathlib.Data.List.Basic
import CompletionRules.Proofs.Table.Flatten

-- How far the table keeps the order of the walk. With the first entry that has to wait for it, an entry passes
-- everything placed behind, also what it has nothing to do with.

namespace CompletionRules

def Pattern.Clashes (first second : Pattern) : Prop :=
  ∃ (place : Nat) (left right : String), first[place]? = some (.word left) ∧
    second[place]? = some (.word right) ∧ left ≠ right

theorem Pattern.Clashes.symm {first second : Pattern} (clash : Clashes first second) : Clashes second first := by
  obtain ⟨place, left, right, here, there, differ⟩ := clash
  exact ⟨place, right, left, there, here, differ.symm⟩

theorem Pattern.clashes_cons {token : Token} {first second : Pattern} (clash : Clashes first second) :
    Clashes (token :: first) (token :: second) := by
  obtain ⟨place, left, right, here, there, differ⟩ := clash
  exact ⟨place + 1, left, right, by simpa using here, by simpa using there, differ⟩

theorem Pattern.clashes_of_incomparable {first second : Pattern} (level : first.length = second.length)
    (differ : first ≠ second) (forth : first.mustPrecede second = false)
    (back : second.mustPrecede first = false) : Clashes first second := by
  induction first generalizing second with
  | nil => cases second <;> simp_all
  | cons token rest ih =>
    obtain _ | ⟨other, others⟩ := second
    · simp at level
    by_cases same : token = other
    · subst same
      rw [mustPrecede_cons_self] at forth back
      exact clashes_cons (ih (by simpa using level) (by simpa using differ) forth back)
    · cases token with
      | any => cases other <;> simp_all [mustPrecede]
      | word left =>
        cases other with
        | any => simp [mustPrecede] at forth
        | word right => exact ⟨0, left, right, rfl, rfl, by simpa using same⟩

namespace Entry

variable {entry first second third : Entry} {entries placed : List Entry}

def Ahead (entries : List Entry) (first second : Entry) : Prop := [first, second].Sublist entries

instance (entries : List Entry) (first second : Entry) : Decidable (Ahead entries first second) :=
  inferInstanceAs (Decidable ([first, second].Sublist entries))

theorem ahead_cons {head : Entry} {rest : List Entry} :
    Ahead (head :: rest) first second ↔ (first = head ∧ second ∈ rest) ∨ Ahead rest first second := by
  rw [Ahead, Ahead, List.sublist_cons_iff]
  constructor
  · rintro (behind | ⟨tail, starts, listed⟩)
    · exact .inr behind
    · cases starts
      exact .inl ⟨rfl, List.singleton_sublist.mp listed⟩
  · rintro (⟨rfl, member⟩ | behind)
    · exact .inr ⟨[second], rfl, List.singleton_sublist.mpr member⟩
    · exact .inl behind

theorem Ahead.mem_left (ahead : Ahead entries first second) : first ∈ entries := ahead.subset (by simp)

theorem Ahead.mem_right (ahead : Ahead entries first second) : second ∈ entries := ahead.subset (by simp)

theorem ahead_append {front back : List Entry} (left : first ∈ front) (right : second ∈ back) :
    Ahead (front ++ back) first second :=
  (List.singleton_sublist.mpr left).append (List.singleton_sublist.mpr right)

theorem ahead_asymm (once : entries.Nodup) (ahead : Ahead entries first second) :
    ¬ Ahead entries second first := by
  induction entries with
  | nil => simp [Ahead] at ahead
  | cons head rest ih =>
    obtain ⟨fresh, restOnce⟩ := List.nodup_cons.mp once
    intro back
    rcases ahead_cons.mp ahead with ⟨rfl, member⟩ | inside
    · rcases ahead_cons.mp back with ⟨rfl, _⟩ | behind
      · exact fresh member
      · exact fresh behind.mem_right
    · rcases ahead_cons.mp back with ⟨rfl, _⟩ | behind
      · exact fresh inside.mem_right
      · exact ih restOnce inside behind

theorem ahead_ne (once : entries.Nodup) (ahead : Ahead entries first second) : first ≠ second := by
  rintro rfl
  exact ahead_asymm once ahead ahead

theorem ahead_total (left : first ∈ entries) (right : second ∈ entries) (differ : first ≠ second) :
    Ahead entries first second ∨ Ahead entries second first := by
  induction entries with
  | nil => cases left
  | cons head rest ih =>
    rw [ahead_cons, ahead_cons]
    rcases List.mem_cons.mp left with rfl | inside
    · exact .inl (.inl ⟨rfl, (List.mem_cons.mp right).resolve_left differ.symm⟩)
    · rcases List.mem_cons.mp right with rfl | behind
      · exact .inr (.inl ⟨rfl, inside⟩)
      · exact (ih inside behind).imp .inr .inr

theorem ahead_trans (once : entries.Nodup) (one : Ahead entries first second)
    (two : Ahead entries second third) : Ahead entries first third := by
  induction entries with
  | nil => simp [Ahead] at one
  | cons head rest ih =>
    obtain ⟨fresh, restOnce⟩ := List.nodup_cons.mp once
    rw [ahead_cons] at one two ⊢
    rcases two with ⟨rfl, _⟩ | behind
    · rcases one with ⟨_, member⟩ | inside
      · exact absurd member fresh
      · exact absurd inside.mem_right fresh
    · rcases one with ⟨rfl, _⟩ | inside
      · exact .inl ⟨rfl, behind.mem_right⟩
      · exact .inr (ih restOnce inside behind)

theorem mem_back_of_ahead {front back : List Entry} (once : (front ++ back).Nodup) (member : first ∈ back)
    (ahead : Ahead (front ++ back) first second) : second ∈ back := by
  rcases List.mem_append.mp ahead.mem_right with early | late
  · exact absurd ahead (ahead_asymm once (ahead_append early member))
  · exact late

theorem ahead_here_iff {front back : List Entry} (once : (front ++ entry :: back).Nodup) :
    Ahead (front ++ entry :: back) first entry ↔ first ∈ front := by
  refine ⟨fun ahead => ?_, fun member => ahead_append member (by simp)⟩
  rcases List.mem_append.mp ahead.mem_left with early | late
  · exact early
  · refine absurd ahead (ahead_asymm once ?_)
    rcases List.mem_cons.mp late with rfl | behind
    · exact ahead
    · exact List.Sublist.trans (ahead_cons.mpr (.inl ⟨rfl, behind⟩)) (List.sublist_append_right front _)

theorem place_parts (entry : Entry) (placed : List Entry) :
    ∃ front back, placed = front ++ back ∧ entry.place placed = front ++ entry :: back ∧
      (∀ passed ∈ front, entry.goesBefore passed = false) ∧
      ∀ waiting ∈ back.head?, entry.goesBefore waiting = true := by
  induction placed with
  | nil => exact ⟨[], [], rfl, rfl, by simp, by simp⟩
  | cons head rest ih =>
    by_cases waits : entry.goesBefore head = true
    · exact ⟨[], head :: rest, rfl, by simp [place, waits], by simp, by simpa using waits⟩
    · obtain ⟨front, back, parted, put, passed, first⟩ := ih
      refine ⟨head :: front, back, by simp [parted], by simp [place, waits, put], ?_, first⟩
      intro old member
      rcases List.mem_cons.mp member with rfl | early
      · simpa using waits
      · exact passed old early

theorem place_sublist (entry : Entry) (placed : List Entry) : placed.Sublist (entry.place placed) := by
  obtain ⟨front, back, rfl, put, _⟩ := place_parts entry placed
  rw [put]
  exact (List.Sublist.refl front).append (List.sublist_cons_self entry back)

theorem place_passes_iff {old : Entry} (once : (entry :: placed).Nodup) :
    Ahead (entry.place placed) entry old ↔
      ∃ waiting ∈ placed, entry.goesBefore waiting = true ∧ (waiting = old ∨ Ahead placed waiting old) := by
  obtain ⟨front, back, rfl, put, passed, waits⟩ := place_parts entry placed
  have placedOnce := (List.nodup_cons.mp once).2
  have newOnce : (front ++ entry :: back).Nodup := put ▸ (place_perm entry (front ++ back)).nodup_iff.mpr once
  rw [put]
  constructor
  · intro ahead
    have behind : old ∈ back := by
      rcases List.mem_cons.mp (mem_back_of_ahead newOnce (by simp) ahead) with rfl | late
      · exact absurd ahead (ahead_asymm newOnce ahead)
      · exact late
    cases back with
    | nil => cases behind
    | cons waiting rest =>
      refine ⟨waiting, by simp, waits waiting rfl, ?_⟩
      rcases List.mem_cons.mp behind with rfl | later
      · exact .inl rfl
      · refine .inr (List.Sublist.trans ?_ (List.sublist_append_right front _))
        exact ahead_cons.mpr (.inl ⟨rfl, later⟩)
  · rintro ⟨waiting, member, hasToWait, reached⟩
    have late : waiting ∈ back := by
      rcases List.mem_append.mp member with early | late
      · rw [passed waiting early] at hasToWait
        cases hasToWait
      · exact late
    have behind : old ∈ back := by
      rcases reached with rfl | ahead
      · exact late
      · exact mem_back_of_ahead placedOnce late ahead
    refine List.Sublist.trans ?_ (List.sublist_append_right front _)
    exact ahead_cons.mpr (.inl ⟨rfl, behind⟩)

theorem placeAll_sublist (front back : List Entry) : (placeAll front).Sublist (placeAll (front ++ back)) := by
  induction back using List.reverseRecOn with
  | nil => simp
  | append_singleton back entry ih =>
    rw [← List.append_assoc, placeAll_concat]
    exact ih.trans (place_sublist entry _)

theorem ahead_placeAll_append {front back : List Entry} (once : (front ++ back).Nodup)
    (left : first ∈ front) (right : second ∈ front) :
    Ahead (placeAll (front ++ back)) first second ↔ Ahead (placeAll front) first second := by
  have kept := placeAll_sublist front back
  have allOnce := (placeAll_perm (front ++ back)).nodup_iff.mpr once
  refine ⟨fun ahead => ?_, fun ahead => List.Sublist.trans ahead kept⟩
  refine (ahead_total ((placeAll_perm front).mem_iff.mpr left) ((placeAll_perm front).mem_iff.mpr right)
    (ahead_ne allOnce ahead)).resolve_right fun turned => ?_
  exact ahead_asymm allOnce ahead (List.Sublist.trans turned kept)

theorem ahead_order (level : first.pattern.length = second.pattern.length) :
    Ahead (order entries) first second ↔ Ahead (placeAll entries) first second := by
  have inLevel (rows : List Entry) : Ahead rows first second ↔
      Ahead (rows.filter fun row => row.pattern.length = second.pattern.length) first second := by
    refine ⟨fun ahead => ?_, fun ahead => List.Sublist.trans ahead List.filter_sublist⟩
    have kept := List.Sublist.filter (fun row => decide (row.pattern.length = second.pattern.length)) ahead
    rw [List.filter_eq_self.mpr (by simp [level])] at kept
    exact kept
  rw [inLevel, order, sort_filter_length, ← inLevel]

-- An entry passes one that was visited before it exactly when an entry that was visited before it
-- too, and has to wait for it, is that one or stands ahead of it.
theorem order_passes_iff {later : Entry} (once : entries.Nodup) (visited : Ahead entries first later)
    (level : first.pattern.length = later.pattern.length) :
    Ahead (order entries) later first ↔ ∃ waiting, Ahead entries waiting later ∧
      later.goesBefore waiting = true ∧ (waiting = first ∨ Ahead (order entries) waiting first) := by
  obtain ⟨before, after, rfl⟩ := List.append_of_mem visited.mem_right
  have early : first ∈ before := (ahead_here_iff once).mp visited
  have split : before ++ later :: after = (before ++ [later]) ++ after := by simp
  have upToLater : (later :: placeAll before).Nodup := by
    have front : (before ++ [later]).Nodup := (List.nodup_append.mp (split ▸ once)).1
    exact (((placeAll_perm before).cons later).trans (List.perm_append_singleton later before).symm).nodup_iff.mpr front
  have placing : Ahead (order (before ++ later :: after)) later first ↔
      Ahead (later.place (placeAll before)) later first := by
    rw [ahead_order level.symm, split, ahead_placeAll_append (split ▸ once) (by simp) (by simp [early]),
      placeAll_concat]
  rw [placing, place_passes_iff upToLater]
  refine exists_congr fun waiting => ?_
  rw [ahead_here_iff once, (placeAll_perm before).mem_iff]
  refine and_congr_right fun member => and_congr_right fun waits => or_congr_right ?_
  have waitingLevel : waiting.pattern.length = first.pattern.length :=
    ((goesBefore_exact.mp waits).1.symm).trans level.symm
  rw [ahead_order waitingLevel, ahead_placeAll_append once member early]

def KeepsWalk (walked sorted : List Entry) : Prop :=
  ∀ first later, Ahead walked first later → first.pattern.length = later.pattern.length →
    first.pattern.Clashes later.pattern → first.pattern.mustPrecede later.pattern = false →
    later.pattern.mustPrecede first.pattern = false → Ahead sorted first later

theorem ahead_of_waits {waiting : Entry} (settled : Settled entries) (waits : entry.goesBefore waiting = true)
    (left : entry ∈ entries) (right : waiting ∈ entries) : Ahead entries entry waiting := by
  obtain ⟨sameLength, precedes⟩ := goesBefore_exact.mp waits
  have differ : entry ≠ waiting := by
    rintro rfl
    rw [Pattern.mustPrecede_irrefl] at precedes
    cases precedes
  refine (ahead_total left right differ).resolve_right fun turned => ?_
  rw [List.pairwise_iff_forall_sublist.mp settled turned sameLength] at precedes
  cases precedes

theorem passed_between {later : Entry} (once : entries.Nodup) (visited : Ahead entries first later)
    (level : first.pattern.length = later.pattern.length)
    (free : later.pattern.mustPrecede first.pattern = false) (turned : Ahead (order entries) later first) :
    ∃ waiting, Ahead entries waiting later ∧ later.goesBefore waiting = true ∧
      Ahead (order entries) waiting first ∧ first.pattern.length = waiting.pattern.length ∧
      first.pattern.Clashes waiting.pattern ∧ first.pattern.mustPrecede waiting.pattern = false ∧
      waiting.pattern.mustPrecede first.pattern = false := by
  obtain ⟨waiting, met, waits, reached⟩ := (order_passes_iff once visited level).mp turned
  obtain ⟨sameLength, precedes⟩ := goesBefore_exact.mp waits
  have unequal : first.pattern ≠ waiting.pattern := by
    intro same
    rw [same, precedes] at free
    cases free
  have passes : Ahead (order entries) waiting first :=
    reached.resolve_left fun same => unequal (congrArg pattern same.symm)
  have waitingLevel : first.pattern.length = waiting.pattern.length := level.trans sameLength
  have forth : first.pattern.mustPrecede waiting.pattern = false :=
    List.pairwise_iff_forall_sublist.mp (order_settled entries) passes waitingLevel
  have back : waiting.pattern.mustPrecede first.pattern = false := by
    by_contra ordered
    rw [Pattern.mustPrecede_trans precedes (by simpa using ordered)] at free
    cases free
  exact ⟨waiting, met, waits, passes, waitingLevel,
    Pattern.clashes_of_incomparable waitingLevel unequal forth back, forth, back⟩

-- By induction on how much of the walk lies before the later entry, since the entry between the two may be out
-- of place in the same way.
theorem order_keepsWalk_iff (once : entries.Nodup) :
    KeepsWalk entries (order entries) ↔
      ∃ sorted, sorted.Perm entries ∧ Settled sorted ∧ KeepsWalk entries sorted := by
  refine ⟨fun keeps => ⟨order entries, order_perm entries, order_settled entries, keeps⟩, ?_⟩
  rintro ⟨sorted, perm, settled, keeps⟩ first later visited level clash forth back
  have orderOnce : (order entries).Nodup := (order_perm entries).nodup_iff.mpr once
  obtain ⟨before, after, parted⟩ := List.append_of_mem visited.mem_right
  induction size : before.length using Nat.strongRecOn generalizing first later before after with
  | ind size ih =>
    have inOrder {row : Entry} (member : row ∈ entries) : row ∈ order entries :=
      (order_perm entries).mem_iff.mpr member
    refine (ahead_total (inOrder visited.mem_left) (inOrder visited.mem_right)
      (ahead_ne once visited)).resolve_right fun turned => ?_
    obtain ⟨waiting, met, waits, passes, waitingLevel, apart, free, loose⟩ :=
      passed_between once visited level back turned
    rcases ahead_total visited.mem_left met.mem_left (ahead_ne orderOnce passes).symm with earlier | behind
    · -- Visited after `first`, `waiting` has passed it as well, with less of the walk before it.
      have front : waiting ∈ before := (ahead_here_iff (parted ▸ once)).mp (parted ▸ met)
      obtain ⟨start, rest, rfl⟩ := List.append_of_mem front
      have kept : Ahead (order entries) first waiting :=
        ih start.length (by simp [← size]) first waiting earlier waitingLevel apart free loose
          start (rest ++ later :: after) (by simp [parted]) rfl
      exact ahead_asymm orderOnce passes kept
    · -- Visited before `first`, it closes a circle of the three in `sorted`.
      have sortedOnce : sorted.Nodup := perm.nodup_iff.mpr once
      have one : Ahead sorted waiting first :=
        keeps waiting first behind waitingLevel.symm apart.symm loose free
      have two : Ahead sorted first later := keeps first later visited level clash forth back
      have three : Ahead sorted later waiting := ahead_of_waits settled waits
        (perm.mem_iff.mpr met.mem_right) (perm.mem_iff.mpr met.mem_left)
      exact ahead_asymm sortedOnce three (ahead_trans sortedOnce one two)

end Entry

namespace Document

def walked (document : Document) : List Entry := document.visits.filterMap Visit.entry?

theorem entries_nodup (document : Document) : document.table.entries.Nodup :=
  (List.nodup_append.mp document.origins_nodup).1.of_map

theorem walked_nodup (document : Document) : document.walked.Nodup :=
  (Entry.order_perm document.walked).nodup_iff.mp document.entries_nodup

theorem walk_kept_iff (document : Document) {first later : Entry}
    (visited : Entry.Ahead document.walked first later)
    (level : first.pattern.length = later.pattern.length)
    (free : later.pattern.mustPrecede first.pattern = false) :
    Entry.Ahead document.table.entries first later ↔
      ¬ ∃ waiting, Entry.Ahead document.walked waiting later ∧
        waiting.pattern.length = later.pattern.length ∧
        later.pattern.mustPrecede waiting.pattern = true ∧
        Entry.Ahead document.table.entries waiting first := by
  have once := document.entries_nodup
  have listed {row : Entry} (member : row ∈ document.walked) : row ∈ document.table.entries :=
    (Entry.order_perm document.walked).mem_iff.mpr member
  constructor
  · rintro kept ⟨waiting, met, sameLength, precedes, ahead⟩
    have turned : Entry.Ahead document.table.entries later first :=
      (Entry.order_passes_iff document.walked_nodup visited level).mpr
        ⟨waiting, met, Entry.goesBefore_exact.mpr ⟨sameLength.symm, precedes⟩, .inr ahead⟩
    exact Entry.ahead_asymm once kept turned
  · intro alone
    refine (Entry.ahead_total (listed visited.mem_left) (listed visited.mem_right)
      (Entry.ahead_ne document.walked_nodup visited)).resolve_right fun turned => alone ?_
    obtain ⟨waiting, met, waits, passes, _⟩ :=
      Entry.passed_between document.walked_nodup visited level free turned
    obtain ⟨sameLength, precedes⟩ := Entry.goesBefore_exact.mp waits
    exact ⟨waiting, met, sameLength.symm, precedes, passes⟩

theorem walk_kept_where_possible (document : Document) :
    (Entry.KeepsWalk document.walked document.table.entries ↔
      ∃ sorted, sorted.Perm document.walked ∧ Entry.Settled sorted ∧
        Entry.KeepsWalk document.walked sorted) ∧
    ∀ first later, Entry.Ahead document.walked first later →
      first.pattern.length = later.pattern.length →
      later.pattern.mustPrecede first.pattern = false →
      (Entry.Ahead document.table.entries first later ↔
        ¬ ∃ waiting, Entry.Ahead document.walked waiting later ∧
          waiting.pattern.length = later.pattern.length ∧
          later.pattern.mustPrecede waiting.pattern = true ∧
          Entry.Ahead document.table.entries waiting first) :=
  ⟨Entry.order_keepsWalk_iff document.walked_nodup,
    fun _ _ visited level free => document.walk_kept_iff visited level free⟩

-- Three root rules of one length. The third precedes the first and so passes the second, which
-- was visited before it and names another program.
def interleavedRules : Children :=
  .cons ⟨"a *", by decide⟩ (.leaf (.words ["1"]))
    (.cons ⟨"b y", by decide⟩ (.leaf (.words ["2"]))
    (.cons ⟨"a x", by decide⟩ (.leaf (.words ["3"])) .nil))

def interleaved : Document where
  root := .branch interleavedRules
  options := []
  root_distinct := by
    simp [interleavedRules, Tree.KeysDistinct, Children.AllKeysDistinct, Children.toList, Pairs.Distinct]
  options_distinct := Pairs.distinct_nil

theorem interleaved_walk_not_kept : ¬ Entry.KeepsWalk interleaved.walked interleaved.table.entries := by
  intro keeps
  have kept := keeps ⟨[.word "b", .word "y"], .words ["2"], ["b y"]⟩
    ⟨[.word "a", .word "x"], .words ["3"], ["a x"]⟩
    (by decide +kernel) rfl ⟨0, "b", "a", rfl, rfl, by decide⟩ (by decide) (by decide)
  have placed := (Entry.ahead_order (by rfl)).mp kept
  revert placed
  decide +kernel

end Document

end CompletionRules
