import Mathlib.Logic.Equiv.Basic
import CompletionRules.Proofs.Rules.Grammar

-- Other names for the keys below the top. No key is special there, so what is loaded is the same tree under
-- other names, and what is refused is refused for the same thing.

namespace CompletionRules

namespace Pairs

variable {α β γ δ : Type} [DecidableEq α] [DecidableEq γ] {rename : α → γ}
  (injective : Function.Injective rename) (below : β → δ)

include injective

theorem find?_map (name : α) (pairs : List (α × β)) :
    find? (rename name) (pairs.map (Prod.map rename below)) = (find? name pairs).map below := by
  induction pairs with
  | nil => rfl
  | cons pair rest ih =>
    obtain ⟨other, value⟩ := pair
    simp only [List.map_cons, Prod.map, find?, injective.eq_iff]
    split
    · rfl
    · exact ih

theorem erase_map (name : α) (pairs : List (α × β)) :
    erase (rename name) (pairs.map (Prod.map rename below)) = (erase name pairs).map (Prod.map rename below) := by
  rw [erase, erase, List.filter_map]
  congr 1
  refine List.filter_congr fun pair _ => ?_
  simp [injective.eq_iff]

theorem front_map (name : α) (value : β) (pairs : List (α × β)) :
    front (rename name) (below value) (pairs.map (Prod.map rename below)) =
      (front name value pairs).map (Prod.map rename below) := by
  rw [front, front, find?_map injective below, erase_map injective below, List.map_cons, Option.getD_map]
  rfl

end Pairs

-- Different texts get different names, and a text without a word gets one without a word.
structure Naming where
  rename : String → String
  injective : Function.Injective rename
  blank_iff : ∀ text, Text.words (rename text) = [] ↔ Text.words text = []

namespace Naming

def exchange (left right : String) (leftWord : Text.words left ≠ []) (rightWord : Text.words right ≠ []) : Naming where
  rename := Equiv.swap left right
  injective := (Equiv.swap left right).injective
  blank_iff text := by
    by_cases onLeft : text = left
    · simp [onLeft, leftWord, rightWord]
    · by_cases onRight : text = right
      · simp [onRight, leftWord, rightWord]
      · rw [Equiv.swap_apply_of_ne_of_ne onLeft onRight]

end Naming

def KeyPath.named (naming : Naming) : KeyPath → KeyPath
  | [] => []
  | top :: below => top :: below.map naming.rename

theorem KeyPath.named_append {naming : Naming} {path : KeyPath} (below : path ≠ []) (text : String) :
    KeyPath.named naming (path ++ [text]) = path.named naming ++ [naming.rename text] := by
  obtain ⟨top, rest, rfl⟩ := List.exists_cons_of_ne_nil below
  simp [named]

def LoadError.named (naming : Naming) : LoadError → LoadError
  | .invalidKey path offence => .invalidKey (path.named naming) offence
  | .unsupportedValue path found item => .unsupportedValue (path.named naming) found item
  | other => other

def answered {α β : Type} (naming : Naming) (rename : α → β) : Except LoadError α → Except LoadError β
  | .ok value => .ok (rename value)
  | .error error => .error (error.named naming)

theorem answered_bind {α β γ δ : Type} {naming : Naming} {rename : α → γ} {renameResult : β → δ}
    {next : α → Except LoadError β} {nextNamed : γ → Except LoadError δ}
    (agree : ∀ value, nextNamed (rename value) = answered naming renameResult (next value))
    (action : Except LoadError α) :
    answered naming rename action >>= nextNamed = answered naming renameResult (action >>= next) := by
  cases action with
  | error => rfl
  | ok value => exact agree value

theorem answered_pure {α β γ δ : Type} {naming : Naming} {rename : α → γ} {renameResult : β → δ} {next : α → β}
    {nextNamed : γ → δ} (agree : ∀ value, nextNamed (rename value) = renameResult (next value))
    (action : Except LoadError α) :
    (do pure (nextNamed (← answered naming rename action))) =
      answered naming renameResult (do pure (next (← action))) :=
  answered_bind (fun value => by rw [agree]; rfl) action

def Key.named (naming : Naming) (key : Key) : Key :=
  ⟨naming.rename key.raw, fun blank => key.holdsWord ((naming.blank_iff key.raw).mp blank)⟩

theorem Key.named_injective (naming : Naming) : Function.Injective (Key.named naming) := by
  intro left right same
  exact Key.raw_injective (naming.injective (congrArg Key.raw same))

namespace Yaml

def Value.namedKey (naming : Naming) (key : Value) : Value :=
  match scalarText? key with
  | some text => .string (naming.rename text)
  | none => key

mutual

def Value.named (naming : Naming) : Value → Value
  | .mapping pairs => .mapping (pairs.named naming)
  | .null => .null
  | .boolean value => .boolean value
  | .number value => .number value
  | .string text => .string text
  | .list items => .list items
  | .tagged tag value => .tagged tag value

def Pairs.named (naming : Naming) : Pairs → Pairs
  | .nil => .nil
  | .cons key value rest => .cons (key.namedKey naming) (value.named naming) (rest.named naming)

end

def namedBelow (naming : Naming) (pair : Value × Value) : Value × Value := (pair.1, pair.2.named naming)

end Yaml

mutual

def Tree.named (naming : Naming) : Tree → Tree
  | .leaf source => .leaf source
  | .branch children => .branch (children.named naming)

def Children.named (naming : Naming) : Children → Children
  | .nil => .nil
  | .cons key tree rest => .cons (key.named naming) (tree.named naming) (rest.named naming)

end

def Children.renamed (rename : Key → Key) (below : Tree → Tree) : Children → Children
  | .nil => .nil
  | .cons key tree rest => .cons (rename key) (below tree) (rest.renamed rename below)

def Tree.namedBelow (naming : Naming) : Tree → Tree
  | .leaf source => .leaf source
  | .branch children => .branch (children.renamed id (Tree.named naming))

theorem Key.ofValue_named (naming : Naming) {path : KeyPath} (key : Yaml.Value) :
    Key.ofValue (path.named naming) (key.namedKey naming) =
      answered naming (Key.named naming) (Key.ofValue path key) := by
  cases text : scalarText? key with
  | none => simp [Key.ofValue, Yaml.Value.namedKey, text, answered, LoadError.named]
  | some raw =>
    have renamed : scalarText? (key.namedKey naming) = some (naming.rename raw) := by
      rw [Yaml.Value.namedKey, text]
      rfl
    by_cases blank : Text.words raw = []
    · simp [Key.ofValue, renamed, text, Key.ofText?, blank, (naming.blank_iff raw).mpr blank, answered, LoadError.named]
    · have holdsWord : Text.words (naming.rename raw) ≠ [] := fun empty => blank ((naming.blank_iff raw).mp empty)
      simp [Key.ofValue, renamed, text, Key.ofText?, blank, holdsWord, answered, Key.named]

theorem Key.ofValue_top (naming : Naming) (key : Yaml.Value) :
    answered naming id (Key.ofValue [] key) = Key.ofValue [] key := by
  cases text : scalarText? key with
  | none => simp [Key.ofValue, text, answered, LoadError.named, KeyPath.named]
  | some raw =>
    by_cases blank : Text.words raw = []
    · simp [Key.ofValue, text, Key.ofText?, blank, answered, LoadError.named, KeyPath.named]
    · simp [Key.ofValue, text, Key.ofText?, blank, answered]

theorem listWords_named (naming : Naming) {path : KeyPath} (index : Nat) (values : List Yaml.Value) :
    listWords (path.named naming) index values = answered naming id (listWords path index values) := by
  induction values generalizing index with
  | nil => rfl
  | cons value rest ih =>
    rw [listWords, listWords]
    cases scalarText? value with
    | none => rfl
    | some word =>
      simp only [ih]
      exact answered_pure (fun _ => by rfl) _

mutual

theorem Tree.ofValue_named (naming : Naming) {path : KeyPath} (below : path ≠ []) (value : Yaml.Value) :
    Tree.ofValue (path.named naming) (value.named naming) =
      answered naming (Tree.named naming) (Tree.ofValue path value) := by
  cases value with
  | null | boolean | number | string | tagged =>
    rw [Yaml.Value.named, Tree.ofValue, Tree.ofValue]
    rfl
  | list items =>
    rw [Yaml.Value.named, Tree.ofValue, Tree.ofValue, listWords_named]
    exact answered_pure (fun _ => by rfl) _
  | mapping pairs =>
    rw [Yaml.Value.named, Tree.ofValue, Tree.ofValue, Children.ofPairs_named naming below pairs]
    exact answered_pure (fun _ => by rfl) _

theorem Children.ofPairs_named (naming : Naming) {path : KeyPath} (below : path ≠ []) (pairs : Yaml.Pairs) :
    Children.ofPairs (path.named naming) (pairs.named naming) =
      answered naming (Children.named naming) (Children.ofPairs path pairs) := by
  cases pairs with
  | nil =>
    rw [Yaml.Pairs.named, Children.ofPairs, Children.ofPairs]
    rfl
  | cons keyValue value rest =>
    rw [Yaml.Pairs.named, Children.ofPairs, Children.ofPairs, Key.ofValue_named]
    refine answered_bind (fun key => ?_) _
    change Tree.ofValue (path.named naming ++ [naming.rename key.raw]) (value.named naming) >>= _ = _
    rw [← KeyPath.named_append below, Tree.ofValue_named naming (by simp) value]
    refine answered_bind (fun tree => ?_) _
    rw [Children.ofPairs_named naming below rest]
    exact answered_pure (fun _ => by rfl) _

end

theorem Children.ofPairs_top (naming : Naming) (pairs : List (Yaml.Value × Yaml.Value)) :
    Children.ofPairs [] (.ofList (pairs.map (Yaml.namedBelow naming))) =
      answered naming (Children.renamed id (Tree.named naming)) (Children.ofPairs [] (.ofList pairs)) := by
  induction pairs with
  | nil => rfl
  | cons pair rest ih =>
    rw [List.map_cons, Yaml.namedBelow, Yaml.Pairs.ofList, Yaml.Pairs.ofList, Children.ofPairs, Children.ofPairs]
    conv_lhs => rw [← Key.ofValue_top naming]
    refine answered_bind (fun key => ?_) _
    change Tree.ofValue (KeyPath.named naming [key.raw]) (pair.2.named naming) >>= _ = _
    rw [Tree.ofValue_named naming (by simp) pair.2]
    refine answered_bind (fun tree => ?_) _
    rw [ih]
    exact answered_pure (fun _ => by rfl) _

namespace Children

variable {rename : Key → Key} {below : Tree → Tree}

theorem named_eq_renamed (naming : Naming) : ∀ children : Children,
    children.named naming = children.renamed (Key.named naming) (Tree.named naming)
  | .nil => by rw [named, renamed]
  | .cons key tree rest => by rw [named, renamed, named_eq_renamed naming rest]

theorem toList_renamed : ∀ children : Children,
    (children.renamed rename below).toList = children.toList.map (Prod.map rename below)
  | .nil => rfl
  | .cons key tree rest => by rw [renamed, toList, toList, toList_renamed rest]; rfl

theorem ofList_renamed (pairs : List (Key × Tree)) :
    ofList (pairs.map (Prod.map rename below)) = (ofList pairs).renamed rename below := by
  induction pairs with
  | nil => rfl
  | cons pair rest ih =>
    change cons (rename pair.1) (below pair.2) (ofList (rest.map _)) = _
    rw [ih, ofList, renamed]

theorem merged_renamed (injective : Function.Injective rename) {key : Key} {tree : Tree} {rest : Children}
    (treeAlike : (below tree).merged = below tree.merged)
    (restAlike : (rest.renamed rename below).merged = rest.merged.renamed rename below) :
    ((cons key tree rest).renamed rename below).merged = (cons key tree rest).merged.renamed rename below := by
  rw [renamed, merged, merged, treeAlike, restAlike, toList_renamed, Pairs.front_map injective, ofList_renamed]

end Children

theorem Tree.merged_named (naming : Naming) (tree : Tree) : (tree.named naming).merged = tree.merged.named naming := by
  induction tree using Tree.rec (motive_2 := fun children =>
    (children.renamed (Key.named naming) (Tree.named naming)).merged =
      children.merged.renamed (Key.named naming) (Tree.named naming)) with
  | leaf => simp [named, merged]
  | branch children ih => simp [named, merged, Children.named_eq_renamed, ih]
  | nil => rfl
  | cons key tree rest treeAlike restAlike =>
    exact Children.merged_renamed (Key.named_injective naming) treeAlike restAlike

theorem Children.merged_top (naming : Naming) : ∀ children : Children,
    (children.renamed id (Tree.named naming)).merged = children.merged.renamed id (Tree.named naming)
  | .nil => rfl
  | .cons _ tree rest => merged_renamed Function.injective_id (tree.merged_named naming) (merged_top naming rest)

theorem Document.ofValue_named (naming : Naming) {pairs : List (Yaml.Value × Yaml.Value)}
    (rulesOnly : ∀ pair ∈ pairs, isOptionsKey pair.1 = false) :
    (Document.ofValue (.mapping (.ofList (pairs.map (Yaml.namedBelow naming))))).map Document.root =
      answered naming (Tree.namedBelow naming) ((Document.ofValue (.mapping (.ofList pairs))).map Document.root) := by
  have stillRules : ∀ pair ∈ pairs.map (Yaml.namedBelow naming), isOptionsKey pair.1 = false := by
    rw [List.forall_mem_map]
    exact rulesOnly
  rw [Document.ofValue_rules (by rwa [Yaml.Pairs.toList_ofList]), Document.ofValue_rules (by rwa [Yaml.Pairs.toList_ofList]),
    Children.ofPairs_top]
  cases Children.ofPairs [] (.ofList pairs) with
  | error => rfl
  | ok children =>
    change Except.ok (Tree.branch (children.renamed id (Tree.named naming)).merged) = _
    rw [Children.merged_top]
    rfl

end CompletionRules
