import CompletionRules.Proofs.Rules.Pairs
import CompletionRules.Proofs.Rules.Reading
import CompletionRules.Proofs.Table.Flatten

-- What becomes of the leaves of a mapping when it is loaded. Keys of different types can have one text; of
-- such pairs of one mapping only the last is kept, with all that stands below it.

namespace CompletionRules

abbrev LoadedLeaf := KeyPath × Source

def LoadedLeaf.below (text : String) (leaf : LoadedLeaf) : LoadedLeaf := (text :: leaf.1, leaf.2)

def Place.loaded? (place : Place) : Option LoadedLeaf :=
  match place.tree with
  | .leaf source => some (place.origin, source)
  | .branch _ => none

theorem Place.entry?_loaded? (place : Place) :
    place.entry?.map (fun leaf => (leaf.origin, leaf.source)) = place.loaded? := by
  obtain ⟨keys, _ | _⟩ := place <;> rfl

def Tree.loadedLeaves (tree : Tree) : List LoadedLeaf := tree.places.filterMap Place.loaded?

def Children.loadedLeaves (children : Children) : List LoadedLeaf := children.places.filterMap Place.loaded?

theorem Children.loadedLeaves_cons (key : Key) (tree : Tree) (rest : Children) :
    (Children.cons key tree rest).loadedLeaves =
      tree.loadedLeaves.map (LoadedLeaf.below key.raw) ++ rest.loadedLeaves := by
  rw [loadedLeaves, places, List.filterMap_append, List.filterMap_map, Tree.loadedLeaves, List.map_filterMap]
  congr 1
  refine List.filterMap_congr fun place _ => ?_
  obtain ⟨keys, _ | _⟩ := place <;> rfl

theorem Children.loadedLeaves_toList (children : Children) :
    children.loadedLeaves =
      children.toList.flatMap fun pair => pair.2.loadedLeaves.map (LoadedLeaf.below pair.1.raw) := by
  induction children using Children.rec (motive_1 := fun _ => True) with
  | leaf => trivial
  | branch => trivial
  | nil => rfl
  | cons key tree rest _ ih => rw [loadedLeaves_cons, ih, toList, List.flatMap_cons]

-- Putting a pair in front of the others adds what stands below it, unless its key comes again: then
-- the later pair stands for both.
theorem Children.merged_cons_leaves (key : Key) (tree : Tree) (rest : Children) :
    (Children.cons key tree rest).merged.loadedLeaves.Perm
      ((if key ∈ rest.merged.toList.map Prod.fst then [] else tree.merged.loadedLeaves.map (LoadedLeaf.below key.raw)) ++
        rest.merged.loadedLeaves) := by
  have distinct : Pairs.Distinct rest.merged.toList := (Tree.branch rest).merged_keysDistinct.1
  rw [merged, loadedLeaves_toList, toList_ofList, Pairs.front, loadedLeaves_toList rest.merged]
  cases found : Pairs.find? key rest.merged.toList with
  | none =>
    have absent := Pairs.find?_none found
    have missing : key ∉ rest.merged.toList.map Prod.fst := by
      intro member
      obtain ⟨pair, listed, same⟩ := List.mem_map.mp member
      exact absent pair listed same
    rw [if_neg missing, Pairs.erase_of_absent absent, List.flatMap_cons]
    rfl
  | some held =>
    have named : key ∈ rest.merged.toList.map Prod.fst := List.mem_map.mpr ⟨_, Pairs.find?_mem found, rfl⟩
    rw [if_pos named, List.nil_append]
    exact (Pairs.front_perm distinct found).flatMap_right _

theorem Children.mem_merged_cons {key other : Key} {tree : Tree} {rest : Children} :
    other ∈ (Children.cons key tree rest).merged.toList.map Prod.fst ↔
      key = other ∨ other ∈ rest.merged.toList.map Prod.fst := by
  rw [merged, toList_ofList, Pairs.front, List.map_cons, List.mem_cons, eq_comm (a := other)]
  by_cases same : key = other
  · simp [same]
  · have kept : other ∈ (Pairs.erase key rest.merged.toList).map Prod.fst ↔
        other ∈ rest.merged.toList.map Prod.fst := by
      simp only [Pairs.erase, List.mem_map, List.mem_filter]
      constructor
      · rintro ⟨pair, ⟨listed, _⟩, found⟩
        exact ⟨pair, listed, found⟩
      · rintro ⟨pair, listed, rfl⟩
        exact ⟨pair, ⟨listed, by simpa using Ne.symm same⟩, rfl⟩
    rw [kept]

-- A leaf of a mapping as it is written. It is overwritten when one of the keys that lead to it is
-- written again, in the same mapping and further on, as a key with the same text.
structure WrittenLeaf where
  path : KeyPath
  source : Source
  overwritten : Bool
  deriving Repr, DecidableEq

namespace WrittenLeaf

def below (text : String) (again : Bool) (leaf : WrittenLeaf) : WrittenLeaf :=
  ⟨text :: leaf.path, leaf.source, again || leaf.overwritten⟩

def loaded (leaf : WrittenLeaf) : LoadedLeaf := (leaf.path, leaf.source)

def kept (leaves : List WrittenLeaf) : List LoadedLeaf :=
  (leaves.filter fun leaf => !leaf.overwritten).map loaded

theorem kept_append (first second : List WrittenLeaf) : kept (first ++ second) = kept first ++ kept second := by
  simp [kept]

theorem kept_below (text : String) (again : Bool) (leaves : List WrittenLeaf) :
    kept (leaves.map (below text again)) = if again then [] else (kept leaves).map (LoadedLeaf.below text) := by
  cases again with
  | true => simp [kept, below]
  | false => simp [kept, below, List.filter_map, Function.comp_def, loaded, LoadedLeaf.below]

theorem kept_length (leaves : List WrittenLeaf) :
    (kept leaves).length + leaves.countP WrittenLeaf.overwritten = leaves.length := by
  rw [kept, List.length_map, ← List.countP_eq_length_filter, Nat.add_comm,
    List.length_eq_countP_add_countP WrittenLeaf.overwritten]
  simp

end WrittenLeaf

namespace Yaml

def Pairs.names (text : String) (pairs : Pairs) : Bool :=
  pairs.toList.any fun pair => scalarText? pair.1 == some text

mutual

def Value.writtenLeaves : Value → List WrittenLeaf
  | .null => [⟨[], .words [], false⟩]
  | .string command => [⟨[], .command command, false⟩]
  | .list items => [⟨[], .words (items.toList.filterMap scalarText?), false⟩]
  | .mapping pairs => pairs.writtenLeaves
  | .boolean _ | .number _ | .tagged _ _ => []

def Pairs.writtenLeaves : Pairs → List WrittenLeaf
  | .nil => []
  | .cons key value rest =>
    let text := (scalarText? key).getD ""
    value.writtenLeaves.map (WrittenLeaf.below text (rest.names text)) ++ rest.writtenLeaves

end

end Yaml

theorem Children.mem_merged_iff {path : KeyPath} (pairs : Yaml.Pairs) {children : Children}
    (read : Children.ofPairs path pairs = .ok children) (key : Key) :
    key ∈ children.merged.toList.map Prod.fst ↔ pairs.names key.raw = true := by
  cases pairs with
  | nil =>
    cases read
    simp [merged, toList, Yaml.Pairs.names, Yaml.Pairs.toList]
  | cons keyValue value rest =>
    obtain ⟨first, tree, others, text, _, restRead, rfl⟩ := ofPairs_parts read
    have same : scalarText? keyValue = some key.raw ↔ first = key := by
      rw [text, Option.some.injEq]
      exact Key.raw_injective.eq_iff
    rw [mem_merged_cons, mem_merged_iff rest restRead key]
    simp [Yaml.Pairs.names, Yaml.Pairs.toList, same]

mutual

theorem Tree.merged_leaves {path : KeyPath} (value : Yaml.Value) {tree : Tree}
    (read : Tree.ofValue path value = .ok tree) :
    tree.merged.loadedLeaves.Perm (WrittenLeaf.kept value.writtenLeaves) := by
  cases value with
  | null =>
    rw [Tree.ofValue] at read
    cases read
    exact .refl _
  | string command =>
    rw [Tree.ofValue] at read
    cases read
    exact .refl _
  | list items =>
    rw [Tree.ofValue] at read
    obtain ⟨words, wordsRead, same⟩ := bind_ok read
    cases same
    rw [listWords_parts wordsRead]
    exact .refl _
  | mapping pairs =>
    rw [Tree.ofValue] at read
    obtain ⟨children, childrenRead, same⟩ := bind_ok read
    cases same
    exact Children.merged_leaves pairs childrenRead
  | boolean | number | tagged =>
    rw [Tree.ofValue] at read
    cases read

theorem Children.merged_leaves {path : KeyPath} (pairs : Yaml.Pairs) {children : Children}
    (read : Children.ofPairs path pairs = .ok children) :
    children.merged.loadedLeaves.Perm (WrittenLeaf.kept pairs.writtenLeaves) := by
  cases pairs with
  | nil =>
    cases read
    exact .refl _
  | cons keyValue value rest =>
    obtain ⟨key, tree, others, text, treeRead, restRead, rfl⟩ := Children.ofPairs_parts read
    have below := Tree.merged_leaves value treeRead
    have behind := Children.merged_leaves rest restRead
    apply (Children.merged_cons_leaves key tree others).trans
    rw [Yaml.Pairs.writtenLeaves, text, Option.getD_some, WrittenLeaf.kept_append, WrittenLeaf.kept_below]
    refine List.Perm.append ?_ behind
    by_cases again : rest.names key.raw = true
    · rw [if_pos again, if_pos ((Children.mem_merged_iff rest restRead key).mpr again)]
    · rw [if_neg again, if_neg fun named => again ((Children.mem_merged_iff rest restRead key).mp named)]
      exact below.map _

end

namespace Document

-- Exactly the leaves that are not overwritten are loaded, each under the texts of its keys; so none
-- is lost exactly when none is overwritten.
theorem leaves_loaded_unless_overwritten {pairs : Yaml.Pairs} {document : Document}
    (read : ofValue (.mapping pairs) = .ok document) :
    (document.leaves.map fun leaf => (leaf.origin, leaf.source)).Perm
      (WrittenLeaf.kept (rulePairs pairs).writtenLeaves) ∧
    document.root.leafCount + (rulePairs pairs).writtenLeaves.countP WrittenLeaf.overwritten =
      (rulePairs pairs).writtenLeaves.length ∧
    (document.root.leafCount = (rulePairs pairs).writtenLeaves.length ↔
      ∀ leaf ∈ (rulePairs pairs).writtenLeaves, leaf.overwritten = false) := by
  obtain ⟨options, children, _, childrenRead, rfl⟩ := ofValue_parts read
  have loaded : ((build (.branch children) options).leaves.map fun leaf => (leaf.origin, leaf.source)) =
      children.merged.loadedLeaves := by
    rw [leaves, List.map_filterMap]
    exact List.filterMap_congr fun place _ => place.entry?_loaded?
  have perm := Children.merged_leaves (rulePairs pairs) childrenRead
  rw [← loaded] at perm
  have count : (build (.branch children) options).root.leafCount =
      (WrittenLeaf.kept (rulePairs pairs).writtenLeaves).length := by
    rw [← perm.length_eq, List.length_map, ← Tree.leafCount_places]
    rfl
  have total := WrittenLeaf.kept_length (rulePairs pairs).writtenLeaves
  rw [← count] at total
  refine ⟨perm, total, ?_⟩
  have none : (rulePairs pairs).writtenLeaves.countP WrittenLeaf.overwritten = 0 ↔
      ∀ leaf ∈ (rulePairs pairs).writtenLeaves, leaf.overwritten = false := by
    simp [List.countP_eq_zero]
  rw [← none]
  omega

def twiceNumbered : Yaml.Pairs :=
  .cons (.string "tool") (.mapping
    (.cons (.number (.integer 1)) (.list (.cons (.string "one") .nil))
    (.cons (.string "1") (.list (.cons (.string "two") .nil))
    (.cons (.string "2") (.string "echo three") .nil)))) .nil

theorem twiceNumbered_loaded : ∃ document, ofValue (.mapping twiceNumbered) = .ok document ∧
    (document.leaves.map fun leaf => (leaf.origin, leaf.source)).Perm
      [(["tool", "1"], .words ["two"]), (["tool", "2"], .command "echo three")] ∧
    document.root.leafCount + 1 = 3 := by
  obtain ⟨document, read⟩ : ∃ document, ofValue (.mapping twiceNumbered) = .ok document := ⟨_, rfl⟩
  obtain ⟨leaves, count, _⟩ := leaves_loaded_unless_overwritten read
  exact ⟨document, read, leaves, count⟩

theorem twiceNumbered_leaf_lost : ∃ document, ofValue (.mapping twiceNumbered) = .ok document ∧
    document.root.leafCount ≠ (rulePairs twiceNumbered).writtenLeaves.length :=
  ⟨_, rfl, by decide⟩

end Document

end CompletionRules
