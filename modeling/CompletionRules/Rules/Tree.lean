import CompletionRules.Rules.Token
import CompletionRules.Rules.Pairs

-- A rule tree: leaves say where candidates come from, branches select by key. The children of a
-- branch are a list type of its own, so that a statement about trees is one induction over both.

namespace CompletionRules

inductive Source where
  | words (words : List String)
  | command (text : String)
  deriving Repr, DecidableEq

mutual

inductive Tree where
  | leaf (source : Source)
  | branch (children : Children)

inductive Children where
  | nil
  | cons (key : Key) (tree : Tree) (rest : Children)

end

instance : Inhabited Tree := ⟨.branch .nil⟩

namespace Children

def ofList : List (Key × Tree) → Children
  | [] => .nil
  | (key, tree) :: rest => .cons key tree (ofList rest)

def toList : Children → List (Key × Tree)
  | .nil => []
  | .cons key tree rest => (key, tree) :: rest.toList

@[simp] theorem toList_ofList (pairs : List (Key × Tree)) : (ofList pairs).toList = pairs := by
  induction pairs with
  | nil => rfl
  | cons pair rest ih => simp [ofList, toList, ih]

def isEmpty : Children → Bool
  | .nil => true
  | .cons .. => false

end Children

mutual

def Tree.leafCount : Tree → Nat
  | .leaf _ => 1
  | .branch children => children.leafCount

def Children.leafCount : Children → Nat
  | .nil => 0
  | .cons _ tree rest => tree.leafCount + rest.leafCount

end

mutual

def Tree.KeysDistinct : Tree → Prop
  | .leaf _ => True
  | .branch children => Pairs.Distinct children.toList ∧ children.AllKeysDistinct

def Children.AllKeysDistinct : Children → Prop
  | .nil => True
  | .cons _ tree rest => tree.KeysDistinct ∧ rest.AllKeysDistinct

end

mutual

def Tree.merged : Tree → Tree
  | .leaf source => .leaf source
  | .branch children => .branch children.merged

def Children.merged : Children → Children
  | .nil => .nil
  | .cons key tree rest => .ofList (Pairs.front key tree.merged rest.merged.toList)

end

namespace Children

theorem allKeysDistinct_iff (children : Children) :
    children.AllKeysDistinct ↔ ∀ pair ∈ children.toList, pair.2.KeysDistinct := by
  induction children using Children.rec (motive_1 := fun _ => True) with
  | leaf => trivial
  | branch => trivial
  | nil => simp [AllKeysDistinct, toList]
  | cons key tree rest _ ih => simp [AllKeysDistinct, toList, ih]

end Children

theorem Pairs.find?_mem {α β : Type} [DecidableEq α] {name : α} {value : β} {pairs : List (α × β)}
    (found : find? name pairs = some value) : (name, value) ∈ pairs := by
  induction pairs with
  | nil => simp [find?] at found
  | cons pair rest ih =>
    obtain ⟨other, held⟩ := pair
    unfold find? at found
    split at found
    · rename_i same
      cases found
      simp [same]
    · exact List.mem_cons_of_mem _ (ih found)

theorem Tree.merged_keysDistinct (tree : Tree) : tree.merged.KeysDistinct := by
  induction tree using Tree.rec
    (motive_2 := fun children => Pairs.Distinct children.merged.toList ∧ children.merged.AllKeysDistinct) with
  | leaf => simp [merged, KeysDistinct]
  | branch children ih => simpa [merged, KeysDistinct] using ih
  | nil => exact ⟨Pairs.distinct_nil, by simp [Children.merged, Children.AllKeysDistinct]⟩
  | cons key tree rest treeHolds restHolds =>
    refine ⟨?_, ?_⟩
    · rw [Children.merged, Children.toList_ofList]
      exact Pairs.front_distinct _ _ _ restHolds.1
    · rw [Children.allKeysDistinct_iff, Children.merged, Children.toList_ofList]
      have below := (Children.allKeysDistinct_iff _).mp restHolds.2
      intro pair member
      rcases List.mem_cons.mp member with rfl | kept
      · cases found : Pairs.find? key rest.merged.toList with
        | none => simpa [found] using treeHolds
        | some held => simpa [found] using below _ (Pairs.find?_mem found)
      · exact below _ (List.mem_filter.mp kept).1

end CompletionRules
