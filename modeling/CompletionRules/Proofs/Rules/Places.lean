import Mathlib.Data.List.Nodup
import CompletionRules.Rules.Document

-- The places of a rule tree in document order, each node with the keys that lead to it. Nothing here knows of
-- the order in which a table is filled.

namespace CompletionRules

structure Place where
  keys : List Key
  tree : Tree

namespace Place

def pattern (place : Place) : Pattern := place.keys.flatMap Key.tokens

def origin (place : Place) : KeyPath := place.keys.map Key.raw

def below (key : Key) (place : Place) : Place := ⟨key :: place.keys, place.tree⟩

end Place

mutual

def Tree.places : Tree → List Place
  | .leaf source => [⟨[], .leaf source⟩]
  | .branch children => ⟨[], .branch children⟩ :: children.places

def Children.places : Children → List Place
  | .nil => []
  | .cons key tree rest => tree.places.map (Place.below key) ++ rest.places

end

theorem Key.raw_injective : Function.Injective Key.raw := by
  rintro ⟨left, _⟩ ⟨right, _⟩ same
  cases same
  rfl

theorem Children.places_keys_head {children : Children} {place : Place} (member : place ∈ children.places) :
    ∃ pair ∈ children.toList, ∃ keys, place.keys = pair.1 :: keys := by
  induction children using Children.rec (motive_1 := fun _ => True) with
  | leaf => trivial
  | branch => trivial
  | nil => simp [places] at member
  | cons key tree rest _ ih =>
    rcases List.mem_append.mp (by simpa only [places] using member) with here | later
    · obtain ⟨inner, _, rfl⟩ := List.mem_map.mp here
      exact ⟨(key, tree), by simp [toList], inner.keys, rfl⟩
    · obtain ⟨pair, listed, starts⟩ := ih later
      exact ⟨pair, by simp [toList, listed], starts⟩

theorem Place.pattern_head {place : Place} {key : Key} {keys : List Key} (starts : place.keys = key :: keys) :
    place.pattern.head? = key.tokens.head? := by
  rw [pattern, starts, List.flatMap_cons, List.head?_append_of_ne_nil _ key.tokens_ne_nil]

theorem Tree.places_keys_nodup (tree : Tree) (distinct : tree.KeysDistinct) :
    (tree.places.map Place.keys).Nodup := by
  induction tree using Tree.rec (motive_2 := fun children => Pairs.Distinct children.toList →
    children.AllKeysDistinct → (children.places.map Place.keys).Nodup) with
  | leaf => simp [places]
  | branch children ih =>
    obtain ⟨here, inside⟩ := distinct
    rw [places, List.map_cons, List.nodup_cons]
    refine ⟨fun member => ?_, ih here inside⟩
    obtain ⟨place, listed, empty⟩ := List.mem_map.mp member
    obtain ⟨_, _, keys, starts⟩ := Children.places_keys_head listed
    simp [starts] at empty
  | nil => simp [Children.places]
  | cons key tree rest treeHolds restHolds here inside =>
    obtain ⟨fresh, restDistinct⟩ := List.nodup_cons.mp here
    rw [Children.places, List.map_append, List.nodup_append]
    refine ⟨?_, restHolds restDistinct inside.2, ?_⟩
    · rw [List.map_map, show Place.keys ∘ Place.below key = List.cons key ∘ Place.keys from rfl, ← List.map_map]
      exact (treeHolds inside.1).map List.cons_injective
    · intro keys left others right same
      subst same
      obtain ⟨first, listed, rfl⟩ := List.mem_map.mp left
      obtain ⟨inner, _, rfl⟩ := List.mem_map.mp listed
      obtain ⟨second, later, equal⟩ := List.mem_map.mp right
      obtain ⟨pair, paired, tail, starts⟩ := Children.places_keys_head later
      have sameKey : pair.1 = key := by
        rw [starts] at equal
        exact (List.cons.inj equal).1
      exact fresh (List.mem_map.mpr ⟨pair, paired, sameKey⟩)

end CompletionRules
