import CompletionRules.Rules.Load

-- What is known of a reading that succeeded: the parts that it was put together from.

namespace CompletionRules

theorem bind_ok {α β ε : Type} {action : Except ε α} {next : α → Except ε β} {result : β}
    (succeeded : action >>= next = .ok result) : ∃ value, action = .ok value ∧ next value = .ok result := by
  cases action with
  | error _ => cases succeeded
  | ok value => exact ⟨value, rfl, succeeded⟩

theorem Key.ofValue_parts {path : KeyPath} {value : Yaml.Value} {key : Key}
    (read : Key.ofValue path value = .ok key) : scalarText? value = some key.raw := by
  unfold Key.ofValue at read
  split at read
  · cases read
  · rename_i raw scalar
    split at read
    · cases read
    · rename_i found held
      cases read
      unfold Key.ofText? at held
      split at held
      · cases held
        exact scalar
      · cases held

theorem listWords_texts {path : KeyPath} {index : Nat} {values : List Yaml.Value} {words : List String}
    (read : listWords path index values = .ok words) : values.map scalarText? = words.map some := by
  induction values generalizing index words with
  | nil =>
    cases read
    rfl
  | cons value rest ih =>
    unfold listWords at read
    split at read
    · cases read
    · rename_i word scalar
      obtain ⟨others, restRead, same⟩ := bind_ok read
      cases same
      rw [List.map_cons, List.map_cons, scalar, ih restRead]

theorem listWords_parts {path : KeyPath} {index : Nat} {values : List Yaml.Value} {words : List String}
    (read : listWords path index values = .ok words) : words = values.filterMap scalarText? := by
  calc words = (words.map some).filterMap id := by simp
    _ = (values.map scalarText?).filterMap id := by rw [listWords_texts read]
    _ = values.filterMap scalarText? := by rw [List.filterMap_map]; rfl

theorem Children.ofPairs_parts {path : KeyPath} {keyValue value : Yaml.Value} {rest : Yaml.Pairs} {children : Children}
    (read : Children.ofPairs path (.cons keyValue value rest) = .ok children) :
    ∃ key tree others, scalarText? keyValue = some key.raw ∧ Tree.ofValue (path ++ [key.raw]) value = .ok tree ∧
      Children.ofPairs path rest = .ok others ∧ children = .cons key tree others := by
  rw [Children.ofPairs] at read
  obtain ⟨key, keyRead, read⟩ := bind_ok read
  obtain ⟨tree, treeRead, read⟩ := bind_ok read
  obtain ⟨others, restRead, same⟩ := bind_ok read
  cases same
  exact ⟨key, tree, others, Key.ofValue_parts keyRead, treeRead, restRead, rfl⟩

theorem Document.ofValue_parts {pairs : Yaml.Pairs} {document : Document}
    (read : Document.ofValue (.mapping pairs) = .ok document) :
    ∃ options children, optionsOf (optionsValue? pairs) = .ok options ∧
      Children.ofPairs [] (rulePairs pairs) = .ok children ∧ document = .build (.branch children) options := by
  rw [Document.ofValue] at read
  obtain ⟨options, optionsRead, read⟩ := bind_ok read
  obtain ⟨children, childrenRead, same⟩ := bind_ok read
  cases same
  exact ⟨options, children, optionsRead, childrenRead, rfl⟩

end CompletionRules
