import Mathlib.Data.List.Induction
import CompletionRules.Proofs.Table.Flatten
import CompletionRules.Proofs.Text.FirstPlaces

-- The programs of a table: the words that root keys start with, each where it is first met. They are
-- the words that entries and dead ends start with, since below every key the walk meets one of the two.

namespace CompletionRules

def keepNew (met : List String) (word : String) : List String := if met.contains word then met else met ++ [word]

theorem mem_keepNew {met : List String} {word other : String} : other ∈ keepNew met word ↔ other ∈ met ∨ other = word := by
  unfold keepNew
  split
  · rename_i known
    have listed : word ∈ met := by simpa using known
    exact ⟨.inl, fun either => either.elim id fun same => same ▸ listed⟩
  · simp

theorem mem_firstPlaces {words : List String} {word : String} : word ∈ words.foldl keepNew [] ↔ word ∈ words := by
  induction words using List.reverseRecOn with
  | nil => simp
  | append_singleton front last ih =>
    rw [List.foldl_append, List.foldl_cons, List.foldl_nil, mem_keepNew, ih, List.mem_append, List.mem_singleton]

theorem firstPlaces_inOrder (words : List String) :
    (words.foldl keepNew []).Pairwise fun first second => words.idxOf first < words.idxOf second := by
  induction words using List.reverseRecOn with
  | nil => exact .nil
  | append_singleton front last ih =>
    rw [List.foldl_append, List.foldl_cons, List.foldl_nil]
    have known : ∀ word ∈ front.foldl keepNew [], word ∈ front := fun word => mem_firstPlaces.mp
    rw [keepNew]
    split
    · exact Text.inOrder_append known ih [last]
    · rename_i fresh
      exact Text.inOrder_concat known ih fun member => fresh (by simpa using mem_firstPlaces.mpr member)

theorem Tree.exists_visit (tree : Tree) :
    ∃ place ∈ tree.places, ∀ pattern origin, (place.visit? pattern origin).isSome := by
  induction tree using Tree.rec (motive_2 := fun children => children.isEmpty = false →
      ∃ place ∈ children.places, ∀ pattern origin, (place.visit? pattern origin).isSome) with
  | leaf source => exact ⟨_, List.mem_singleton_self _, fun _ _ => rfl⟩
  | branch children ih =>
    cases children with
    | nil => exact ⟨_, List.mem_cons_self, fun _ _ => rfl⟩
    | cons key tree rest =>
      obtain ⟨place, listed, met⟩ := ih rfl
      exact ⟨place, List.mem_cons_of_mem _ listed, met⟩
  | nil empty => cases empty
  | cons key tree rest treeHolds restHolds filled =>
    obtain ⟨place, listed, met⟩ := treeHolds
    refine ⟨place.below key, ?_, fun pattern origin => ?_⟩
    · rw [Children.places]
      exact List.mem_append_left _ (List.mem_map_of_mem listed)
    · rw [Place.visit?_below]
      exact met _ _

theorem Children.places_below {children : Children} {pair : Key × Tree} (member : pair ∈ children.toList)
    {place : Place} (inside : place ∈ pair.2.places) : place.below pair.1 ∈ children.places := by
  induction children using Children.rec (motive_1 := fun _ => True) with
  | leaf => trivial
  | branch => trivial
  | nil => cases member
  | cons key tree rest _ ih =>
    rw [places]
    rcases List.mem_cons.mp member with rfl | later
    · exact List.mem_append_left _ (List.mem_map_of_mem inside)
    · exact List.mem_append_right _ (ih later)

def Table.Starts (table : Table) (token : Token) : Prop :=
  (∃ entry ∈ table.entries, entry.pattern.head? = some token) ∨
    ∃ stop ∈ table.deadEnds, stop.pattern.head? = some token

namespace Document

def rootWords (document : Document) : List String :=
  document.roots.filterMap fun (key, _) =>
    match key.tokens.head? with
    | some (.word text) => some text
    | _ => none

theorem programs_firstPlaces (document : Document) : document.programs = document.rootWords.foldl keepNew [] := rfl

theorem mem_rootWords {document : Document} {program : String} :
    program ∈ document.rootWords ↔ ∃ pair ∈ document.roots, pair.1.tokens.head? = some (.word program) := by
  rw [rootWords, List.mem_filterMap]
  constructor
  · rintro ⟨⟨key, tree⟩, root, starts⟩
    refine ⟨(key, tree), root, ?_⟩
    dsimp only at starts
    split at starts
    · rename_i text head
      cases starts
      exact head
    · cases starts
  · rintro ⟨pair, root, starts⟩
    exact ⟨pair, root, by simp [starts]⟩

theorem mem_programs {document : Document} {program : String} :
    program ∈ document.programs ↔ ∃ pair ∈ document.roots, pair.1.tokens.head? = some (.word program) := by
  rw [programs_firstPlaces, mem_firstPlaces, mem_rootWords]

theorem starts_iff_visit {document : Document} {token : Token} :
    document.table.Starts token ↔ ∃ visit ∈ document.visits, visit.pattern.head? = some token := by
  constructor
  · rintro (⟨entry, listed, starts⟩ | ⟨stop, listed, starts⟩)
    · obtain ⟨visit, met, row⟩ := List.mem_filterMap.mp ((Entry.order_perm _).mem_iff.mp listed)
      cases visit with
      | entry row' => cases row; exact ⟨_, met, starts⟩
      | deadEnd stop => cases row
    · obtain ⟨visit, met, row⟩ := List.mem_filterMap.mp listed
      cases visit with
      | entry row' => cases row
      | deadEnd stop' => cases row; exact ⟨_, met, starts⟩
  · rintro ⟨visit, met, starts⟩
    cases visit with
    | entry row => exact .inl ⟨row, (Entry.order_perm _).mem_iff.mpr (List.mem_filterMap.mpr ⟨_, met, rfl⟩), starts⟩
    | deadEnd stop => exact .inr ⟨stop, List.mem_filterMap.mpr ⟨_, met, rfl⟩, starts⟩

-- The tokens of a root key come first in the pattern of everything below it, and something is below it.
theorem visit_starts_iff {document : Document} {token : Token} :
    (∃ visit ∈ document.visits, visit.pattern.head? = some token) ↔
      ∃ pair ∈ document.roots, pair.1.tokens.head? = some token := by
  constructor
  · rintro ⟨visit, met, starts⟩
    obtain ⟨place, listed, noted⟩ := List.mem_filterMap.mp (document.visits_perm.mem_iff.mp met)
    obtain ⟨pair, root, keys, below⟩ := Children.places_keys_head listed
    refine ⟨pair, root, ?_⟩
    rw [← Place.pattern_head below, ← starts, Place.visit?_pattern noted, List.nil_append]
  · rintro ⟨pair, root, starts⟩
    obtain ⟨place, listed, met⟩ := pair.2.exists_visit
    obtain ⟨visit, noted⟩ := Option.isSome_iff_exists.mp (met ([] ++ pair.1.tokens) ([] ++ [pair.1.raw]))
    rw [← Place.visit?_below] at noted
    have walked := List.mem_filterMap.mpr ⟨_, Children.places_below root listed, noted⟩
    refine ⟨visit, document.visits_perm.mem_iff.mpr walked, ?_⟩
    rw [Place.visit?_pattern noted, List.nil_append, ← starts]
    exact Place.pattern_head rfl

theorem program_iff_starts {document : Document} {program : String} :
    program ∈ document.table.programs ↔ document.table.Starts (.word program) := by
  rw [starts_iff_visit, visit_starts_iff]
  exact mem_programs

end Document

end CompletionRules
