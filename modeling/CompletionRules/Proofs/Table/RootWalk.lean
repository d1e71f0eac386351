import CompletionRules.Proofs.Table.Overtaking

-- The root keys are walked as they stand, while below the root words go before any-tokens. The table does not
-- show the difference: entries that start with a word precede those of their length that do not.

namespace CompletionRules

namespace Entry

variable {entry : Entry} {entries first second front back placed : List Entry}

def startsWithAny (entry : Entry) : Bool := (entry.program?.map Token.isAny).getD false

theorem place_of_parts (passed : ∀ old ∈ front, entry.goesBefore old = false)
    (waits : ∀ waiting ∈ back.head?, entry.goesBefore waiting = true) :
    entry.place (front ++ back) = front ++ entry :: back := by
  induction front with
  | nil =>
    cases back with
    | nil => rfl
    | cons waiting rest =>
      have hasToWait : entry.goesBefore waiting = true := waits waiting rfl
      rw [List.nil_append, place, if_pos hasToWait, List.nil_append]
  | cons head rest ih =>
    have passes : entry.goesBefore head = false := passed head (by simp)
    have later := ih fun old member => passed old (List.mem_cons_of_mem _ member)
    rw [List.cons_append, place, if_neg (by simp [passes]), later, List.cons_append]

theorem place_filter_other {kept : Entry → Bool} (other : kept entry = false) :
    (entry.place placed).filter kept = placed.filter kept := by
  obtain ⟨front, back, rfl, put, _⟩ := place_parts entry placed
  rw [put, List.filter_append, List.filter_cons_of_neg (by simp [other]), List.filter_append]

-- What never has to wait for the newcomer may be left out.
theorem place_filter_kept {kept : Entry → Bool} (keep : kept entry = true)
    (unheld : ∀ old ∈ placed, kept old = false → entry.goesBefore old = false) :
    (entry.place placed).filter kept = entry.place (placed.filter kept) := by
  obtain ⟨front, back, rfl, put, passed, waits⟩ := place_parts entry placed
  rw [put, List.filter_append, List.filter_cons_of_pos keep, List.filter_append, place_of_parts]
  · exact fun old member => passed old (List.mem_filter.mp member).1
  · intro waiting first
    cases back with
    | nil => cases first
    | cons head rest =>
      have hasToWait : entry.goesBefore head = true := waits head rfl
      have keepHead : kept head = true := by
        by_contra dropped
        rw [unheld head (by simp) (by simpa using dropped)] at hasToWait
        cases hasToWait
      rw [List.filter_cons_of_pos keepHead, List.head?_cons] at first
      cases first
      exact hasToWait

theorem placeAll_filter_length (entries : List Entry) (length : Nat) :
    (placeAll entries).filter (fun row => row.pattern.length = length) =
      placeAll (entries.filter fun row => row.pattern.length = length) := by
  induction entries using List.reverseRecOn with
  | nil => rfl
  | append_singleton entries entry ih =>
    rw [placeAll_concat, List.filter_append]
    by_cases level : entry.pattern.length = length
    · have unheld : ∀ old ∈ placeAll entries, decide (old.pattern.length = length) = false →
          entry.goesBefore old = false := by
        intro old _ other
        exact goesBefore_false.mpr fun same => absurd (same.symm.trans level) (by simpa using other)
      rw [place_filter_kept (by simpa using level) unheld, ih, List.filter_cons_of_pos (by simpa using level),
        List.filter_nil, placeAll_concat]
    · rw [place_filter_other (by simpa using level), ih, List.filter_cons_of_neg (by simpa using level),
        List.filter_nil, List.append_nil]

theorem place_ahead (waits : ∀ waiting ∈ back, entry.goesBefore waiting = true) :
    entry.place (front ++ back) = entry.place front ++ back := by
  obtain ⟨before, behind, rfl, put, passed, first⟩ := place_parts entry front
  rw [put, List.append_assoc, place_of_parts passed, List.append_assoc, List.cons_append]
  intro waiting found
  cases behind with
  | nil => exact waits waiting (List.mem_of_mem_head? found)
  | cons head rest => exact first waiting found

theorem place_behind (passed : ∀ old ∈ front, entry.goesBefore old = false) :
    entry.place (front ++ back) = front ++ entry.place back := by
  obtain ⟨before, behind, rfl, put, passedToo, waits⟩ := place_parts entry back
  rw [put, ← List.append_assoc, place_of_parts _ waits, List.append_assoc]
  intro old member
  rcases List.mem_append.mp member with early | late
  · exact passed old early
  · exact passedToo old late

-- Entries in two parts, where each of the one goes before each of the other, are placed in two lists,
-- one behind the other.
theorem placeAll_parts (ahead : Entry → Bool) (entries : List Entry)
    (parted : ∀ first ∈ entries, ∀ second ∈ entries, ahead first = true → ahead second = false →
      first.goesBefore second = true) :
    placeAll entries = placeAll (entries.filter ahead) ++ placeAll (entries.filter fun row => !ahead row) := by
  induction entries using List.reverseRecOn with
  | nil => rfl
  | append_singleton entries entry ih =>
    have before := ih fun first left second right =>
      parted first (List.mem_append_left _ left) second (List.mem_append_left _ right)
    rw [placeAll_concat, before, List.filter_append, List.filter_append]
    cases here : ahead entry with
    | true =>
      have waits : ∀ waiting ∈ placeAll (entries.filter fun row => !ahead row), entry.goesBefore waiting = true := by
        intro waiting member
        obtain ⟨listed, behind⟩ := List.mem_filter.mp ((placeAll_perm _).mem_iff.mp member)
        exact parted entry (by simp) waiting (List.mem_append_left _ listed) here (by simpa using behind)
      rw [place_ahead waits]
      simp [here, placeAll_concat]
    | false =>
      have passed : ∀ old ∈ placeAll (entries.filter ahead), entry.goesBefore old = false := by
        intro old member
        obtain ⟨listed, early⟩ := List.mem_filter.mp ((placeAll_perm _).mem_iff.mp member)
        have ordered := parted old (List.mem_append_left _ listed) entry (by simp) early here
        exact goesBefore_false.mpr fun _ => Pattern.mustPrecede_asymm (goesBefore_exact.mp ordered).2
      rw [place_behind passed]
      simp [here, placeAll_concat]

theorem head_shortest {head other : Entry} {rest others : List Entry}
    (sorted : (head :: rest).Pairwise fun earlier later => earlier.pattern.length ≤ later.pattern.length)
    (levels : ∀ length, (head :: rest).filter (fun row => row.pattern.length = length) =
      (other :: others).filter fun row => row.pattern.length = length) :
    head.pattern.length ≤ other.pattern.length := by
  have inLevel : other ∈ (other :: others).filter fun row => row.pattern.length = other.pattern.length := by simp
  rw [← levels] at inLevel
  rcases List.mem_cons.mp (List.mem_filter.mp inLevel).1 with rfl | behind
  · exact Nat.le_refl _
  · exact (List.pairwise_cons.mp sorted).1 other behind

theorem StableByLength.unique (one : StableByLength entries first) (two : StableByLength entries second) :
    first = second := by
  obtain ⟨firstSorted, firstLevels⟩ := one
  obtain ⟨secondSorted, secondLevels⟩ := two
  have levels (length : Nat) := (firstLevels length).trans (secondLevels length).symm
  clear firstLevels secondLevels
  induction first generalizing second with
  | nil =>
    cases second with
    | nil => rfl
    | cons head rest => simpa using levels head.pattern.length
  | cons head rest ih =>
    cases second with
    | nil => simpa using levels head.pattern.length
    | cons other others =>
      have sameLength : head.pattern.length = other.pattern.length :=
        Nat.le_antisymm (head_shortest firstSorted levels) (head_shortest secondSorted fun length => (levels length).symm)
      have here := levels head.pattern.length
      rw [List.filter_cons_of_pos (by simp), List.filter_cons_of_pos (by simp [sameLength])] at here
      obtain ⟨rfl, _⟩ := List.cons.inj here
      refine congrArg (head :: ·) (ih firstSorted.tail secondSorted.tail fun length => ?_)
      have listed := levels length
      by_cases level : head.pattern.length = length
      · simpa [level] using listed
      · simpa [level] using listed

theorem goesBefore_of_starts {word any : Entry} (level : word.pattern.length = any.pattern.length)
    (wordFirst : word.startsWithAny = false) (anyFirst : any.startsWithAny = true) : word.goesBefore any = true := by
  refine goesBefore_exact.mpr ⟨level, ?_⟩
  unfold startsWithAny program? at wordFirst anyFirst
  generalize word.pattern = left at level wordFirst ⊢
  generalize any.pattern = right at level anyFirst ⊢
  obtain _ | ⟨token, tokens⟩ := right
  · cases anyFirst
  obtain _ | ⟨other, others⟩ := left
  · cases level
  cases token with
  | word _ => cases anyFirst
  | any =>
    cases other with
    | word _ => simp [Pattern.mustPrecede]
    | any => cases wordFirst

theorem order_of_parts (words : (first.filter fun row => !row.startsWithAny) = second.filter fun row => !row.startsWithAny)
    (anys : first.filter startsWithAny = second.filter startsWithAny) : order first = order second := by
  have parts (rows : List Entry) (length : Nat) : (placeAll rows).filter (fun row => row.pattern.length = length) =
      placeAll ((rows.filter fun row => !row.startsWithAny).filter fun row => row.pattern.length = length) ++
        placeAll ((rows.filter startsWithAny).filter fun row => row.pattern.length = length) := by
    rw [placeAll_filter_length, placeAll_parts fun row => !row.startsWithAny]
    · simp only [Bool.not_not, List.filter_comm]
    · intro word left any right wordFirst anyFirst
      have wordLength := (List.mem_filter.mp left).2
      have anyLength := (List.mem_filter.mp right).2
      simp only [decide_eq_true_eq] at wordLength anyLength
      exact goesBefore_of_starts (wordLength.trans anyLength.symm) (by simpa using wordFirst) (by simpa using anyFirst)
  have sorted (rows : List Entry) : StableByLength (placeAll rows) (order rows) :=
    ⟨order_lengths rows, sort_filter_length (placeAll rows)⟩
  refine StableByLength.unique (sorted first) ⟨order_lengths second, fun length => ?_⟩
  rw [(sorted second).2 length, parts, parts, words, anys]

theorem order_words_first (rows : List Entry) :
    order ((rows.filter fun row => row.startsWithAny = false) ++ rows.filter fun row => row.startsWithAny = true) =
      order rows := by
  apply order_of_parts <;> simp [List.filter_append, List.filter_filter]

end Entry

theorem Tree.visits_below {tree : Tree} {pattern : Pattern} {origin : KeyPath} {visit : Visit}
    (member : visit ∈ tree.visits pattern origin) : pattern <+: visit.pattern := by
  have listed : visit ∈ ofPattern visit.pattern (tree.visits pattern origin) :=
    List.mem_filter.mpr ⟨member, by simp⟩
  rw [tree.visits_ofPattern] at listed
  obtain ⟨place, _, noted⟩ := List.mem_filterMap.mp (List.mem_filter.mp listed).1
  exact ⟨place.pattern, (Place.visit?_pattern noted).symm⟩

theorem Tree.startsWithAny_below {tree : Tree} {key : Key} {origin : KeyPath} {row : Entry}
    (member : row ∈ (tree.visits key.tokens origin).filterMap Visit.entry?) :
    row.startsWithAny = key.startsWithAny := by
  obtain ⟨visit, met, rowOf⟩ := List.mem_filterMap.mp member
  obtain ⟨rest, same⟩ := Tree.visits_below met
  cases visit with
  | deadEnd stop => cases rowOf
  | entry listed =>
    cases rowOf
    obtain ⟨token, tokens, spelled⟩ := List.exists_cons_of_ne_nil key.tokens_ne_nil
    have starts : row.pattern = token :: (tokens ++ rest) := by
      rw [spelled] at same
      exact same.symm
    rw [Entry.startsWithAny, Entry.program?, starts, Key.startsWithAny, spelled]
    rfl

theorem Children.walk_filter (children : Children) (anyFirst : Bool) :
    ((children.toList.flatMap fun (key, tree) => tree.visits key.tokens [key.raw]).filterMap Visit.entry?).filter
        (fun row => row.startsWithAny = anyFirst) =
      (children.visits [] [] anyFirst).filterMap Visit.entry? := by
  induction children using Children.rec (motive_1 := fun _ => True) with
  | leaf => trivial
  | branch => trivial
  | nil => rfl
  | cons key tree rest _ ih =>
    have group : ((tree.visits key.tokens [key.raw]).filterMap Visit.entry?).filter
        (fun row => row.startsWithAny = anyFirst) =
          if key.startsWithAny = anyFirst then (tree.visits key.tokens [key.raw]).filterMap Visit.entry? else [] := by
      split
      · rename_i same
        exact List.filter_eq_self.mpr fun row member => by simp [Tree.startsWithAny_below member, same]
      · rename_i other
        exact List.filter_eq_nil_iff.mpr fun row member => by simp [Tree.startsWithAny_below member, other]
    rw [toList, List.flatMap_cons, List.filterMap_append, List.filter_append, ih, group, visits, List.filterMap_append,
      List.nil_append, List.nil_append]
    split
    · rfl
    · rfl

namespace Document

theorem root_walked_as_branch (document : Document) (children : Children) (branch : document.root = .branch children) :
    document.table.entries = Entry.order ((document.root.visits [] []).filterMap Visit.entry?) := by
  have groups : (document.root.visits [] []).filterMap Visit.entry? =
      (children.visits [] [] false).filterMap Visit.entry? ++ (children.visits [] [] true).filterMap Visit.entry? := by
    rw [branch]
    cases children with
    | nil => rfl
    | cons key tree rest => rw [Tree.visits, List.filterMap_append]
  have walk : document.walked =
      (children.toList.flatMap fun (key, tree) => tree.visits key.tokens [key.raw]).filterMap Visit.entry? := by
    rw [walked, visits, roots, rootChildren, branch]
  rw [groups, ← children.walk_filter, ← children.walk_filter, ← walk, Entry.order_words_first]
  rfl

def wildcardFirstRules : Children :=
  .cons ⟨"* help", by decide⟩ (.leaf (.words ["topics"]))
    (.cons ⟨"npm", by decide⟩ (.branch
      (.cons ⟨"* again", by decide⟩ (.leaf (.words ["--force"]))
      (.cons ⟨"run", by decide⟩ (.leaf (.command "npm-scripts")) .nil))) .nil)

def wildcardFirst : Document where
  root := .branch wildcardFirstRules
  options := []
  root_distinct := by
    simp [wildcardFirstRules, Tree.KeysDistinct, Children.AllKeysDistinct, Children.toList, Pairs.Distinct]
  options_distinct := Pairs.distinct_nil

theorem wildcardFirst_walked :
    wildcardFirst.root = .branch wildcardFirstRules ∧
    wildcardFirst.walked.map Entry.origin = [["* help"], ["npm", "run"], ["npm", "* again"]] ∧
    wildcardFirst.table.entries = Entry.order
      [⟨[.word "npm", .word "run"], .command "npm-scripts", ["npm", "run"]⟩,
        ⟨[.word "npm", .any, .word "again"], .words ["--force"], ["npm", "* again"]⟩,
        ⟨[.any, .word "help"], .words ["topics"], ["* help"]⟩] := by
  refine ⟨rfl, by decide, ?_⟩
  rw [root_walked_as_branch wildcardFirst wildcardFirstRules rfl]
  rfl

end Document

end CompletionRules
