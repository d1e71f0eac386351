import CompletionRules.Rules.Tree

-- Pairs under names: a name that is not among them is not found and takes nothing away, and what is put
-- under one name leaves the others as they are.

namespace CompletionRules.Pairs

variable {α β : Type} [DecidableEq α] {name : α} {pairs : List (α × β)}

theorem find?_none (missing : find? name pairs = none) : ∀ pair ∈ pairs, pair.1 ≠ name := by
  induction pairs with
  | nil => simp
  | cons pair rest ih =>
    unfold find? at missing
    split at missing
    · cases missing
    · rename_i other
      intro found member
      rcases List.mem_cons.mp member with rfl | later
      · exact other
      · exact ih missing found later

theorem erase_of_absent (absent : ∀ pair ∈ pairs, pair.1 ≠ name) : erase name pairs = pairs :=
  List.filter_eq_self.mpr fun pair member => by simpa using absent pair member

theorem front_of_absent {value : β} (absent : ∀ pair ∈ pairs, pair.1 ≠ name) :
    front name value pairs = (name, value) :: pairs := by
  have missing : find? name pairs = none := by
    cases found : find? name pairs with
    | none => rfl
    | some held => exact absurd rfl (absent _ (find?_mem found))
  rw [front, missing, erase_of_absent absent, Option.getD_none]

theorem front_perm {value : β} (distinct : Distinct pairs) (found : find? name pairs = some value) :
    ((name, value) :: erase name pairs).Perm pairs := by
  induction pairs with
  | nil => cases found
  | cons pair rest ih =>
    obtain ⟨fresh, restDistinct⟩ := List.nodup_cons.mp distinct
    unfold find? at found
    split at found
    · rename_i same
      cases found
      have absent : ∀ other ∈ rest, other.1 ≠ name := by
        intro other member equal
        apply fresh
        exact List.mem_map.mpr ⟨other, member, equal.trans same.symm⟩
      subst same
      rw [erase, List.filter_cons_of_neg (by simp), ← erase, erase_of_absent absent]
    · rename_i other
      rw [erase, List.filter_cons_of_pos (by simpa using other), ← erase]
      exact (List.Perm.swap _ _ _).trans ((ih restDistinct found).cons pair)

theorem find?_append_other {name other : α} {value : β} (unlike : other ≠ name) (pairs : List (α × β)) :
    find? name (pairs ++ [(other, value)]) = find? name pairs := by
  induction pairs with
  | nil => simp [find?, unlike]
  | cons pair rest ih =>
    obtain ⟨first, held⟩ := pair
    rw [List.cons_append, find?, find?, ih]

theorem find?_erase_other {name other : α} (unlike : other ≠ name) (pairs : List (α × β)) :
    find? name (erase other pairs) = find? name pairs := by
  induction pairs with
  | nil => rfl
  | cons pair rest ih =>
    obtain ⟨first, held⟩ := pair
    rw [erase] at ih ⊢
    by_cases same : first = other
    · subst same
      rw [List.filter_cons_of_neg (by simp), ih, find?, if_neg unlike]
    · rw [List.filter_cons_of_pos (by simpa using same), find?, find?, ih]

theorem find?_erase_same (name : α) (pairs : List (α × β)) : find? name (erase name pairs) = none := by
  induction pairs with
  | nil => rfl
  | cons pair rest ih =>
    obtain ⟨first, held⟩ := pair
    rw [erase] at ih ⊢
    by_cases same : first = name
    · rw [List.filter_cons_of_neg (by simp [same]), ih]
    · rw [List.filter_cons_of_pos (by simpa using same), find?, if_neg same, ih]

theorem find?_erase_append (name : α) (value : β) (pairs : List (α × β)) :
    find? name (erase name pairs ++ [(name, value)]) = some value := by
  induction pairs with
  | nil => simp [erase, find?]
  | cons pair rest ih =>
    obtain ⟨first, held⟩ := pair
    rw [erase] at ih ⊢
    by_cases same : first = name
    · rw [List.filter_cons_of_neg (by simp [same]), ih]
    · rw [List.filter_cons_of_pos (by simpa using same), List.cons_append, find?, if_neg same, ih]

theorem erase_erase_append (name : α) (first : β) (pairs : List (α × β)) :
    erase name (erase name pairs ++ [(name, first)]) = erase name pairs := by
  simp [erase, List.filter_filter]

end CompletionRules.Pairs
