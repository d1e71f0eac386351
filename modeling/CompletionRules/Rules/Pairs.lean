-- Pairs listed under distinct names, in the order in which the names were first met. A later pair
-- of a name replaces the value and keeps the place.

namespace CompletionRules.Pairs

variable {α β : Type} [DecidableEq α]

def find? (name : α) : List (α × β) → Option β
  | [] => none
  | (other, value) :: rest => if other = name then some value else find? name rest

def erase (name : α) (pairs : List (α × β)) : List (α × β) := pairs.filter fun pair => pair.1 ≠ name

-- Put in front of `pairs`: a value that `pairs` already holds under the name is the later one.
def front (name : α) (value : β) (pairs : List (α × β)) : List (α × β) :=
  (name, (find? name pairs).getD value) :: erase name pairs

def merged : List (α × β) → List (α × β)
  | [] => []
  | (name, value) :: rest => front name value (merged rest)

def Distinct (pairs : List (α × β)) : Prop := (pairs.map Prod.fst).Nodup

omit [DecidableEq α] in
theorem distinct_nil : Distinct ([] : List (α × β)) := by simp [Distinct]

theorem front_distinct (name : α) (value : β) (pairs : List (α × β)) (distinct : Distinct pairs) :
    Distinct (front name value pairs) := by
  unfold Distinct front erase at *
  rw [List.map_cons, List.nodup_cons]
  refine ⟨?_, (List.filter_sublist.map Prod.fst).nodup distinct⟩
  intro member
  obtain ⟨pair, kept, same⟩ := List.mem_map.mp member
  have differs := (List.mem_filter.mp kept).2
  simp [same] at differs

theorem merged_distinct (pairs : List (α × β)) : Distinct (merged pairs) := by
  induction pairs with
  | nil => exact distinct_nil
  | cons pair rest ih => exact front_distinct _ _ _ ih

end CompletionRules.Pairs
