import CompletionRules.Candidates.Completion
import CompletionRules.Proofs.Rules.Naming
import CompletionRules.Table.Diagnostic

-- Options among the rules of a document. Wherever they stand, the rules are read as if they were not there;
-- options that cannot be read are an error before any rule is looked at.

namespace CompletionRules

namespace Yaml

def OptionText (pair : Value × Value) (text : String × String) : Prop :=
  pair.1 = .string text.1 ∧ scalarText? pair.2 = some text.2

inductive OptionFault : Value × Value → OptionsOffence → Prop where
  | nameNotText {key held : Value} (other : ∀ name, key ≠ .string name) :
      OptionFault (key, held) (.nameNotText (.of key))
  | valueNotText {name : String} {held : Value} (textless : scalarText? held = none) :
      OptionFault (.string name, held) (.valueNotText name (.of held))

inductive Value.Options : Value → List (String × String) → Prop where
  | mapping {pairs : Pairs} {texts : List (String × String)} (options : List.Forall₂ OptionText pairs.toList texts) :
      Value.Options (.mapping pairs) texts

inductive Value.OptionsFault : Value → OptionsOffence → Prop where
  | notAMapping {value : Value} (other : ∀ pairs, value ≠ .mapping pairs) :
      Value.OptionsFault value (.notAMapping (.of value))
  | pair {pairs : Pairs} {before behind : List (Value × Value)} {first : Value × Value}
      {texts : List (String × String)} {offence : OptionsOffence} (listed : pairs.toList = before ++ first :: behind)
      (options : List.Forall₂ OptionText before texts) (fault : OptionFault first offence) :
      Value.OptionsFault (.mapping pairs) offence

def withoutOptions (front back : List (Value × Value)) : Value := .mapping (.ofList (front ++ back))

def withOptions (front back : List (Value × Value)) (value : Value) : Value :=
  .mapping (.ofList (front ++ (.string optionsKey, value) :: back))

theorem option_or_fault (pair : Value × Value) :
    (∃ text, OptionText pair text) ∨ ∃ offence, OptionFault pair offence := by
  obtain ⟨key, held⟩ := pair
  cases key with
  | string name =>
    cases scalar : scalarText? held with
    | some text => exact .inl ⟨(name, text), rfl, scalar⟩
    | none => exact .inr ⟨_, .valueNotText scalar⟩
  | null | boolean | number | list | mapping | tagged => exact .inr ⟨_, .nameNotText nofun⟩

theorem options_or_first_fault (pairs : List (Value × Value)) :
    (∃ texts, List.Forall₂ OptionText pairs texts) ∨ ∃ before first behind texts offence,
      pairs = before ++ first :: behind ∧ List.Forall₂ OptionText before texts ∧ OptionFault first offence := by
  induction pairs with
  | nil => exact .inl ⟨[], .nil⟩
  | cons pair rest ih =>
    rcases option_or_fault pair with ⟨text, option⟩ | ⟨offence, fault⟩
    · rcases ih with ⟨texts, options⟩ | ⟨before, first, behind, texts, offence, rfl, options, fault⟩
      · exact .inl ⟨text :: texts, .cons option options⟩
      · exact .inr ⟨pair :: before, first, behind, text :: texts, offence, rfl, .cons option options, fault⟩
    · exact .inr ⟨[], pair, rest, [], offence, rfl, .nil, fault⟩

theorem Value.options_or_fault (value : Value) :
    (∃ texts, value.Options texts) ∨ ∃ offence, value.OptionsFault offence := by
  cases value with
  | mapping pairs =>
    rcases options_or_first_fault pairs.toList with ⟨texts, options⟩ | ⟨_, _, _, _, offence, listed, options, fault⟩
    · exact .inl ⟨texts, .mapping options⟩
    · exact .inr ⟨offence, .pair listed options fault⟩
  | null | boolean | number | string | list | tagged => exact .inr ⟨_, .notAMapping nofun⟩

end Yaml

open Yaml

theorem optionPairs_options {pairs : List (Value × Value)} {texts : List (String × String)}
    (options : List.Forall₂ OptionText pairs texts) : optionPairs pairs = .ok texts := by
  induction options with
  | nil => rfl
  | @cons pair text rest others option _ ih =>
    obtain ⟨key, held⟩ := pair
    obtain ⟨rfl, scalar⟩ := option
    rw [optionPairs, scalar, ih]
    rfl

theorem optionPairs_fault {before behind : List (Value × Value)} {first : Value × Value}
    {texts : List (String × String)} {offence : OptionsOffence} (options : List.Forall₂ OptionText before texts)
    (fault : OptionFault first offence) :
    optionPairs (before ++ first :: behind) = .error (.malformedOptions offence) := by
  induction options with
  | nil =>
    cases fault with
    | @nameNotText key held other =>
      cases key with
      | string name => exact absurd rfl (other name)
      | null | boolean | number | list | mapping | tagged => rfl
    | valueNotText textless => rw [List.nil_append, optionPairs, textless]
  | @cons pair text rest others option _ ih =>
    obtain ⟨key, held⟩ := pair
    obtain ⟨rfl, scalar⟩ := option
    rw [List.cons_append, optionPairs, scalar, ih]
    rfl

theorem optionsOf_options {value : Value} {texts : List (String × String)} (options : value.Options texts) :
    optionsOf (some value) = .ok texts := by
  obtain ⟨options⟩ := options
  exact optionPairs_options options

theorem optionsOf_fault {value : Value} {offence : OptionsOffence} (fault : value.OptionsFault offence) :
    optionsOf (some value) = .error (.malformedOptions offence) := by
  cases fault with
  | notAMapping other =>
    cases value with
    | mapping pairs => exact absurd rfl (other pairs)
    | null | boolean | number | string | list | tagged => rfl
  | pair listed options fault =>
    rw [optionsOf, listed]
    exact optionPairs_fault options fault

theorem Pairs.merged_of_distinct {α β : Type} [DecidableEq α] {pairs : List (α × β)} (distinct : Distinct pairs) :
    merged pairs = pairs := by
  induction pairs with
  | nil => rfl
  | cons pair rest ih =>
    obtain ⟨name, value⟩ := pair
    obtain ⟨fresh, restDistinct⟩ := List.nodup_cons.mp distinct
    have absent : ∀ other ∈ rest, other.1 ≠ name := fun other member same =>
      fresh (List.mem_map.mpr ⟨other, member, same⟩)
    rw [merged, ih restDistinct, front_of_absent absent]

namespace Document

variable {front back : List (Value × Value)}

theorem table_of_root {left right : Document} (same : left.root = right.root) : left.table = right.table := by
  unfold table visits programs roots rootChildren
  rw [same]

theorem ofValue_withOptions (rulesOnly : ∀ pair ∈ front ++ back, isOptionsKey pair.1 = false) (value : Value) :
    ofValue (withOptions front back value) = (do
      let options ← optionsOf (some value)
      let children ← Children.ofPairs [] (.ofList (front ++ back))
      pure (.build (.branch children) options)) := by
  have frontRules := (List.forall_mem_append.mp rulesOnly).1
  have reserved : isOptionsKey (.string optionsKey) = true := by simp [isOptionsKey]
  have found : optionsValue? (.ofList (front ++ (.string optionsKey, value) :: back)) = some value := by
    rw [optionsValue?, Yaml.Pairs.toList_ofList, List.find?_append,
      List.find?_eq_none.mpr fun pair member => by simp [frontRules pair member], Option.none_or,
      List.find?_cons_of_pos (by exact reserved), Option.map_some]
  have rules : rulePairs (.ofList (front ++ (.string optionsKey, value) :: back)) = .ofList (front ++ back) := by
    rw [rulePairs, Yaml.Pairs.toList_ofList, List.filter_append, List.filter_cons_of_neg (by simp [reserved]),
      ← List.filter_append, List.filter_eq_self.mpr fun pair member => by simp [rulesOnly pair member]]
  rw [withOptions, ofValue, found, rules]

theorem read_alike {α : Type} {result resultAlone : Document → α} {value : Value} {texts : List (String × String)}
    (rulesOnly : ∀ pair ∈ front ++ back, isOptionsKey pair.1 = false) (options : value.Options texts)
    (distinct : Pairs.Distinct texts)
    (alike : ∀ {document alone : Document}, document.root = alone.root → document.options = texts →
      result document = resultAlone alone) :
    (ofValue (withOptions front back value)).map result = (ofValue (withoutOptions front back)).map resultAlone := by
  rw [ofValue_withOptions rulesOnly, optionsOf_options options, withoutOptions,
    ofValue_rules (by rwa [Yaml.Pairs.toList_ofList])]
  cases Children.ofPairs [] (.ofList (front ++ back)) with
  | error => rfl
  | ok children => exact congrArg Except.ok (alike rfl (Pairs.merged_of_distinct distinct))

-- The rules come to the same with options as without them; what holds no options is refused before the
-- rules; and below the top any two keys, the reserved one among them, can take each other's place.
theorem options_beside_rules (rulesOnly : ∀ pair ∈ front ++ back, isOptionsKey pair.1 = false) :
    (∀ value texts, value.Options texts → Pairs.Distinct texts →
      (ofValue (withOptions front back value)).map (fun document => (document.root, document.options)) =
        (ofValue (withoutOptions front back)).map (fun document => (document.root, texts)) ∧
      (ofValue (withOptions front back value)).map table = (ofValue (withoutOptions front back)).map table ∧
      (ofValue (withOptions front back value)).map (fun document => document.table.diagnostics) =
        (ofValue (withoutOptions front back)).map (fun document => document.table.diagnostics) ∧
      ∀ {m : Type → Type} [Monad m] (run : String → m (Option String)) (request : Request),
        (ofValue (withOptions front back value)).map (fun document => document.table.complete run request) =
          (ofValue (withoutOptions front back)).map fun document => document.table.complete run request) ∧
    (∀ value, (¬∃ texts, value.Options texts) → ∃ offence, value.OptionsFault offence ∧
      ofValue (withOptions front back value) = .error (.malformedOptions offence)) ∧
    ∀ naming : Naming,
      (ofValue (withoutOptions (front.map (namedBelow naming)) (back.map (namedBelow naming)))).map root =
        answered naming (Tree.namedBelow naming) ((ofValue (withoutOptions front back)).map root) := by
  refine ⟨fun value texts options distinct => ?_, fun value noOptions => ?_, fun naming => ?_⟩
  · refine ⟨read_alike rulesOnly options distinct fun root texts => by rw [root, texts],
      read_alike rulesOnly options distinct fun root _ => table_of_root root,
      read_alike rulesOnly options distinct fun root _ => by rw [table_of_root root],
      fun run request => read_alike rulesOnly options distinct fun root _ => by rw [table_of_root root]⟩
  · rcases value.options_or_fault with read | ⟨offence, fault⟩
    · exact absurd read noOptions
    · refine ⟨offence, fault, ?_⟩
      rw [ofValue_withOptions rulesOnly, optionsOf_fault fault]
      rfl
  · rw [withoutOptions, ← List.map_append]
    exact ofValue_named naming rulesOnly

def toolRules : List (Value × Value) :=
  [(.string "tool", .mapping
    (.cons (.string "push") (.list (.cons (.string "origin") .nil))
    (.cons (.string "comptree_options") (.string "echo a") .nil)))]

def starRules : List (Value × Value) := [(.string "tool *", .null)]

def widthOptions : Value :=
  .mapping (.cons (.string "complete_options") (.string "-o nosort") (.cons (.string "width") (.number (.integer 80)) .nil))

def numberedOptions : Value :=
  .mapping (.cons (.string "width") (.boolean true) (.cons (.number (.integer 1)) .null .nil))

theorem push_holdsWord : Text.words "push" ≠ [] := by decide

theorem optionsKey_holdsWord : Text.words optionsKey ≠ [] := by decide

def pushExchanged : Naming := .exchange "push" optionsKey push_holdsWord optionsKey_holdsWord

theorem toolRules_unmoved :
    (∀ pair ∈ toolRules ++ starRules, isOptionsKey pair.1 = false) ∧
    widthOptions.Options [("complete_options", "-o nosort"), ("width", "80")] ∧
    (ofValue (withOptions toolRules starRules widthOptions)).map (fun document => (document.root, document.options)) =
      (ofValue (withoutOptions toolRules starRules)).map
        (fun document => (document.root, [("complete_options", "-o nosort"), ("width", "80")])) ∧
    (∃ offence, numberedOptions.OptionsFault offence ∧
      ofValue (withOptions toolRules starRules numberedOptions) = .error (.malformedOptions offence)) ∧
    (ofValue (withoutOptions (toolRules.map (namedBelow pushExchanged)) (starRules.map (namedBelow pushExchanged)))).map
        root =
      answered pushExchanged (Tree.namedBelow pushExchanged) ((ofValue (withoutOptions toolRules starRules)).map root) := by
  have rulesOnly : ∀ pair ∈ toolRules ++ starRules, isOptionsKey pair.1 = false := by decide
  have options : widthOptions.Options [("complete_options", "-o nosort"), ("width", "80")] :=
    .mapping (.cons ⟨rfl, rfl⟩ (.cons ⟨rfl, rfl⟩ .nil))
  have noOptions : ¬∃ texts, numberedOptions.Options texts := by
    rintro ⟨_, ⟨_ | ⟨_, _ | ⟨⟨named, _⟩, _⟩⟩⟩⟩
    cases named
  obtain ⟨alike, refused, renamed⟩ := options_beside_rules rulesOnly
  exact ⟨rulesOnly, options, (alike _ _ options (by simp [Pairs.Distinct])).1, refused _ noOptions, renamed pushExchanged⟩

end Document

end CompletionRules
