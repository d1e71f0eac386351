import CompletionRules.Proofs.Rules.Loaded

-- What may be loaded, told without the loader: a grammar of nested values, and the spots at which something
-- can offend against it in the order of the text. The loader reports the first spot that offends.

namespace CompletionRules

namespace Yaml

mutual

inductive Value.IsRule : Value → Prop where
  | null : Value.IsRule .null
  | string (command : String) : Value.IsRule (.string command)
  | list {items : Items} (words : ∀ item ∈ items.toList, (scalarText? item).isSome) : Value.IsRule (.list items)
  | mapping {pairs : Pairs} (rules : pairs.AreRules) : Value.IsRule (.mapping pairs)

inductive Pairs.AreRules : Pairs → Prop where
  | nil : Pairs.AreRules .nil
  | cons {key value : Value} {rest : Pairs} {text : String} (named : scalarText? key = some text)
      (holdsWord : Text.words text ≠ []) (rule : value.IsRule) (others : rest.AreRules) :
      Pairs.AreRules (.cons key value rest)

end

inductive Spot where
  | key (path : KeyPath) (held : Value)
  | value (path : KeyPath) (held : Value)
  | item (path : KeyPath) (index : Nat) (held : Value)

def Spot.offence? : Spot → Option LoadError
  | .key path held =>
    match scalarText? held with
    | none => some (.invalidKey path (.notAWord (.of held)))
    | some text => if Text.words text = [] then some (.invalidKey path .blank) else none
  | .value path held =>
    match held with
    | .boolean _ | .number _ | .tagged _ _ => some (.unsupportedValue path (.of held) none)
    | .null | .string _ | .list _ | .mapping _ => none
  | .item path index held =>
    if (scalarText? held).isSome then none else some (.unsupportedValue path (.of held) (some index))

mutual

def Value.spots (path : KeyPath) : Value → List Spot
  | .null => [.value path .null]
  | .boolean held => [.value path (.boolean held)]
  | .number held => [.value path (.number held)]
  | .string text => [.value path (.string text)]
  | .tagged tag held => [.value path (.tagged tag held)]
  | .list items => .value path (.list items) :: items.toList.zipIdx.map fun (item, index) => .item path index item
  | .mapping pairs => .value path (.mapping pairs) :: pairs.spots path

def Pairs.spots (path : KeyPath) : Pairs → List Spot
  | .nil => []
  | .cons key value rest =>
    .key path key :: (value.spots (path ++ [(scalarText? key).getD ""]) ++ rest.spots path)

end

mutual

inductive Value.Gives : Value → Tree → Prop where
  | null : Value.Gives .null (.leaf (.words []))
  | string (command : String) : Value.Gives (.string command) (.leaf (.command command))
  | list {items : Items} {words : List String} (texts : items.toList.map scalarText? = words.map some) :
      Value.Gives (.list items) (.leaf (.words words))
  | mapping {pairs : Pairs} {children : Children} (given : pairs.Give children) :
      Value.Gives (.mapping pairs) (.branch children)

inductive Pairs.Give : Pairs → Children → Prop where
  | nil : Pairs.Give .nil .nil
  | cons {keyValue value : Value} {rest : Pairs} {key : Key} {tree : Tree} {others : Children}
      (named : scalarText? keyValue = some key.raw) (below : value.Gives tree) (behind : rest.Give others) :
      Pairs.Give (.cons keyValue value rest) (.cons key tree others)

end

mutual

def Value.KeysDiffer : Value → Prop
  | .mapping pairs => (pairs.toList.map fun pair => scalarText? pair.1).Nodup ∧ pairs.KeysDifferBelow
  | _ => True

def Pairs.KeysDifferBelow : Pairs → Prop
  | .nil => True
  | .cons _ value rest => value.KeysDiffer ∧ rest.KeysDifferBelow

end

end Yaml

def fault? {ε α : Type} : Except ε α → Option ε
  | .error error => some error
  | .ok _ => none

theorem fault?_eq_some {ε α : Type} {result : Except ε α} {error : ε} :
    fault? result = some error ↔ result = .error error := by
  cases result <;> simp [fault?]

theorem fault?_eq_none {ε α : Type} {result : Except ε α} :
    fault? result = none ↔ ∃ value, result = .ok value := by
  cases result <;> simp [fault?]

theorem fault?_bind_pure {ε α β : Type} (result : Except ε α) (next : α → β) :
    fault? (result >>= fun value => pure (next value)) = fault? result := by
  cases result <;> rfl

open Yaml

theorem Key.ofValue_fault (path : KeyPath) (held : Value) :
    fault? (Key.ofValue path held) = (Spot.key path held).offence? := by
  rw [Key.ofValue, Spot.offence?]
  cases text : scalarText? held with
  | none => rfl
  | some raw =>
    by_cases blank : Text.words raw = []
    · simp [Key.ofText?, blank, fault?]
    · simp [Key.ofText?, blank, fault?]

theorem listWords_fault (path : KeyPath) (index : Nat) (values : List Value) :
    fault? (listWords path index values) =
      ((values.zipIdx index).map fun (item, place) => Spot.item path place item).findSome? Spot.offence? := by
  induction values generalizing index with
  | nil => rfl
  | cons value rest ih =>
    rw [listWords, List.zipIdx_cons, List.map_cons, List.findSome?_cons]
    cases text : scalarText? value with
    | none => simp [Spot.offence?, text, fault?]
    | some word =>
      rw [fault?_bind_pure, ih]
      simp [Spot.offence?, text]

mutual

-- The loader stops at the first spot that offends; the recursion is the one over the value and the
-- pairs of its mappings.
theorem Tree.ofValue_fault (path : KeyPath) (value : Value) :
    fault? (Tree.ofValue path value) = (value.spots path).findSome? Spot.offence? := by
  cases value with
  | null | boolean | number | string | tagged =>
    rw [Tree.ofValue, Value.spots]
    rfl
  | list items =>
    rw [Tree.ofValue, fault?_bind_pure, listWords_fault, Value.spots]
    rfl
  | mapping pairs =>
    rw [Tree.ofValue, fault?_bind_pure, Children.ofPairs_fault path pairs, Value.spots]
    rfl

theorem Children.ofPairs_fault (path : KeyPath) (pairs : Pairs) :
    fault? (Children.ofPairs path pairs) = (pairs.spots path).findSome? Spot.offence? := by
  cases pairs with
  | nil =>
    rw [Children.ofPairs, Pairs.spots]
    rfl
  | cons keyValue value rest =>
    rw [Children.ofPairs, Pairs.spots, List.findSome?_cons, ← Key.ofValue_fault path keyValue,
      List.findSome?_append]
    cases keyRead : Key.ofValue path keyValue with
    | error => rfl
    | ok key =>
      have below := Tree.ofValue_fault (path ++ [key.raw]) value
      rw [Key.ofValue_parts keyRead, Option.getD_some, ← below, ← Children.ofPairs_fault path rest]
      cases treeRead : Tree.ofValue (path ++ [key.raw]) value with
      | error error =>
        change fault? (Tree.ofValue (path ++ [key.raw]) value >>= _) = _
        rw [treeRead]
        rfl
      | ok tree =>
        change fault? (Tree.ofValue (path ++ [key.raw]) value >>= _) = _
        rw [treeRead]
        exact fault?_bind_pure (Children.ofPairs path rest) (Children.cons key tree)

end

theorem Yaml.Spot.item_offence?_none {path : KeyPath} {index : Nat} {held : Value} :
    (Spot.item path index held).offence? = none ↔ (scalarText? held).isSome := by
  cases text : scalarText? held with
  | none => simp [Spot.offence?, text]
  | some word => simp [Spot.offence?, text]

theorem Yaml.Spot.key_offence?_none (path : KeyPath) (held : Value) :
    (Spot.key path held).offence? = none ↔ ∃ text, scalarText? held = some text ∧ Text.words text ≠ [] := by
  cases text : scalarText? held with
  | none => simp [Spot.offence?, text]
  | some raw => simp [Spot.offence?, text]

mutual

theorem Yaml.Value.isRule_iff (path : KeyPath) (value : Value) :
    (value.spots path).findSome? Spot.offence? = none ↔ value.IsRule := by
  cases value with
  | null => exact ⟨fun _ => .null, fun _ => rfl⟩
  | string command => exact ⟨fun _ => .string command, fun _ => rfl⟩
  | boolean | number | tagged => exact ⟨nofun, nofun⟩
  | list items =>
    have grammar : (Value.list items).IsRule ↔ ∀ item ∈ items.toList, (scalarText? item).isSome :=
      ⟨fun | .list words => words, .list⟩
    have spots : ((Value.list items).spots path).findSome? Spot.offence? =
        (items.toList.zipIdx.map fun (item, index) => Spot.item path index item).findSome? Spot.offence? := rfl
    rw [grammar, spots, List.findSome?_eq_none_iff, List.forall_mem_map]
    simp only [Spot.item_offence?_none]
    rw [← List.forall_mem_map (f := Prod.fst) (P := fun item => (scalarText? item).isSome), List.zipIdx_map_fst]
  | mapping pairs =>
    have grammar : (Value.mapping pairs).IsRule ↔ pairs.AreRules := ⟨fun | .mapping rules => rules, .mapping⟩
    rw [grammar, Value.spots, ← Yaml.Pairs.areRules_iff path pairs]
    rfl

theorem Yaml.Pairs.areRules_iff (path : KeyPath) (pairs : Pairs) :
    (pairs.spots path).findSome? Spot.offence? = none ↔ pairs.AreRules := by
  cases pairs with
  | nil => exact ⟨fun _ => .nil, fun _ => rfl⟩
  | cons key value rest =>
    have parts : (Pairs.cons key value rest).AreRules ↔
        (∃ text, scalarText? key = some text ∧ Text.words text ≠ []) ∧ value.IsRule ∧ rest.AreRules := by
      constructor
      · rintro (_ | ⟨named, holdsWord, rule, others⟩)
        exact ⟨⟨_, named, holdsWord⟩, rule, others⟩
      · rintro ⟨⟨text, named, holdsWord⟩, rule, others⟩
        exact .cons named holdsWord rule others
    rw [parts, Pairs.spots, ← Spot.key_offence?_none path key,
      ← Yaml.Value.isRule_iff (path ++ [(scalarText? key).getD ""]) value, ← Yaml.Pairs.areRules_iff path rest]
    simp only [List.findSome?_eq_none_iff, List.forall_mem_cons, List.forall_mem_append]

end

theorem Children.ofList_toList : ∀ children : Children, ofList children.toList = children
  | .nil => rfl
  | .cons key tree rest => by rw [toList, ofList, ofList_toList rest]

theorem Children.merged_cons_of_absent {key : Key} {rest : Children} (tree : Tree)
    (absent : key ∉ rest.merged.toList.map Prod.fst) :
    (Children.cons key tree rest).merged = .cons key tree.merged rest.merged := by
  have unlike : ∀ pair ∈ rest.merged.toList, pair.1 ≠ key := fun pair member same =>
    absent (List.mem_map.mpr ⟨pair, member, same⟩)
  rw [merged, Pairs.front_of_absent unlike, ofList, ofList_toList]

mutual

theorem Tree.merged_given {path : KeyPath} (value : Value) {tree : Tree} (read : Tree.ofValue path value = .ok tree)
    (differ : value.KeysDiffer) : value.Gives tree.merged := by
  cases value with
  | null =>
    rw [Tree.ofValue] at read
    cases read
    exact .null
  | string command =>
    rw [Tree.ofValue] at read
    cases read
    exact .string command
  | list items =>
    rw [Tree.ofValue] at read
    obtain ⟨words, wordsRead, same⟩ := bind_ok read
    cases same
    exact .list (listWords_texts wordsRead)
  | mapping pairs =>
    rw [Tree.ofValue] at read
    obtain ⟨children, childrenRead, same⟩ := bind_ok read
    cases same
    exact .mapping (Children.merged_given pairs childrenRead differ.1 differ.2)
  | boolean | number | tagged =>
    rw [Tree.ofValue] at read
    cases read

theorem Children.merged_given {path : KeyPath} (pairs : Yaml.Pairs) {children : Children}
    (read : Children.ofPairs path pairs = .ok children)
    (differ : (pairs.toList.map fun pair => scalarText? pair.1).Nodup) (below : pairs.KeysDifferBelow) :
    pairs.Give children.merged := by
  cases pairs with
  | nil =>
    cases read
    exact .nil
  | cons keyValue value rest =>
    obtain ⟨key, tree, others, text, treeRead, restRead, rfl⟩ := Children.ofPairs_parts read
    obtain ⟨fresh, restDiffer⟩ := List.nodup_cons.mp differ
    have absent : key ∉ others.merged.toList.map Prod.fst := by
      intro again
      obtain ⟨pair, later, same⟩ := List.any_eq_true.mp ((Children.mem_merged_iff rest restRead key).mp again)
      apply fresh
      exact List.mem_map.mpr ⟨pair, later, (beq_iff_eq.mp same).trans text.symm⟩
    rw [Children.merged_cons_of_absent tree absent]
    exact .cons text (Tree.merged_given value treeRead below.1)
      (Children.merged_given rest restRead restDiffer below.2)

end

theorem Yaml.Pairs.ofList_toList : ∀ pairs : Yaml.Pairs, ofList pairs.toList = pairs
  | .nil => rfl
  | .cons key value rest => by rw [toList, ofList, ofList_toList rest]

theorem Document.ofValue_rules {pairs : Yaml.Pairs} (rulesOnly : ∀ pair ∈ pairs.toList, isOptionsKey pair.1 = false) :
    Document.ofValue (.mapping pairs) =
      (do pure (Document.build (.branch (← Children.ofPairs [] pairs)) [])) := by
  have noOptions : optionsValue? pairs = none := by
    rw [optionsValue?, List.find?_eq_none.mpr fun pair member => by simp [rulesOnly pair member]]
    rfl
  have allRules : rulePairs pairs = pairs := by
    rw [rulePairs, List.filter_eq_self.mpr fun pair member => by simp [rulesOnly pair member], Yaml.Pairs.ofList_toList]
  rw [Document.ofValue, noOptions, allRules]
  rfl

namespace Document

-- A mapping of rules is loaded just when it is one of the grammar; otherwise the first offence is
-- told. Where no two keys of a mapping have one text, nothing is moved or left out.
theorem rules_loaded_iff_grammar {pairs : Yaml.Pairs}
    (rulesOnly : ∀ pair ∈ pairs.toList, isOptionsKey pair.1 = false) :
    ((∃ document, ofValue (.mapping pairs) = .ok document) ↔ pairs.AreRules) ∧
    (∀ error, ofValue (.mapping pairs) = .error error ↔
      (pairs.spots []).findSome? Yaml.Spot.offence? = some error) ∧
    ∀ document, ofValue (.mapping pairs) = .ok document → (Yaml.Value.mapping pairs).KeysDiffer →
      (Yaml.Value.mapping pairs).Gives document.root := by
  have fault : fault? (ofValue (.mapping pairs)) = (pairs.spots []).findSome? Yaml.Spot.offence? := by
    rw [ofValue_rules rulesOnly, fault?_bind_pure, Children.ofPairs_fault]
  refine ⟨?_, fun error => ?_, fun document read differ => ?_⟩
  · rw [← fault?_eq_none, fault, Yaml.Pairs.areRules_iff]
  · rw [← fault?_eq_some, fault]
  · rw [ofValue_rules rulesOnly] at read
    obtain ⟨children, childrenRead, same⟩ := bind_ok read
    cases same
    exact .mapping (Children.merged_given pairs childrenRead differ.1 differ.2)

def twiceOffending : Yaml.Pairs :=
  .cons (.string "tool") (.mapping
    (.cons (.boolean true) .null
    (.cons (.string "push") (.list (.cons (.string "origin") (.cons .null (.cons (.list .nil) .nil))))
    (.cons (.string " ") (.string "echo") .nil)))) .nil

def wellFormed : Yaml.Pairs :=
  .cons (.string "tool") (.mapping
    (.cons (.boolean true) .null
    (.cons (.string "push") (.list (.cons (.string "origin") (.cons (.number (.integer 2)) .nil)))
    (.cons (.string "log *") (.string "echo") .nil)))) .nil

theorem twiceOffending_refused :
    (∀ pair ∈ twiceOffending.toList, isOptionsKey pair.1 = false) ∧
    ofValue (.mapping twiceOffending) = .error (.unsupportedValue ["tool", "push"] .null (some 1)) ∧
    (∀ pair ∈ wellFormed.toList, isOptionsKey pair.1 = false) ∧ (Yaml.Value.mapping wellFormed).KeysDiffer ∧
    ∃ document, ofValue (.mapping wellFormed) = .ok document ∧ (Yaml.Value.mapping wellFormed).Gives document.root := by
  have offending : ∀ pair ∈ twiceOffending.toList, isOptionsKey pair.1 = false := by decide
  have clean : ∀ pair ∈ wellFormed.toList, isOptionsKey pair.1 = false := by decide
  have differ : (Yaml.Value.mapping wellFormed).KeysDiffer :=
    ⟨by decide, ⟨by decide, trivial, trivial, trivial, trivial⟩, trivial⟩
  obtain ⟨document, read⟩ : ∃ document, ofValue (.mapping wellFormed) = .ok document := ⟨_, rfl⟩
  refine ⟨offending, ((rules_loaded_iff_grammar offending).2.1 _).mpr rfl, clean, differ, document, read, ?_⟩
  exact (rules_loaded_iff_grammar clean).2.2 document read differ

end Document

end CompletionRules
