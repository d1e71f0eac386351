import Mathlib.Data.List.Count
import Mathlib.Data.List.Perm.Basic
import CompletionRules.Table.Flatten
import CompletionRules.Proofs.Rules.Places
import CompletionRules.Proofs.Table.Order

-- Flattening loses and invents nothing. Two leaves with one pattern part inside one group of children, so
-- among equal patterns the order of the walk is that of the document.

namespace CompletionRules

namespace Visit

def pattern : Visit → Pattern
  | .entry row => row.pattern
  | .deadEnd stop => stop.pattern

def origin : Visit → KeyPath
  | .entry row => row.origin
  | .deadEnd stop => stop.origin

end Visit

namespace Place

def entry? (place : Place) : Option Entry :=
  match place.tree with
  | .leaf source => some ⟨place.pattern, source, place.origin⟩
  | .branch _ => none

def deadEnd? (place : Place) : Option DeadEnd :=
  match place.tree with
  | .branch .nil => some ⟨place.pattern, place.origin⟩
  | _ => none

def visit? (pattern : Pattern) (origin : KeyPath) (place : Place) : Option Visit :=
  match place.tree with
  | .leaf source => some (.entry ⟨pattern ++ place.pattern, source, origin ++ place.origin⟩)
  | .branch .nil => some (.deadEnd ⟨pattern ++ place.pattern, origin ++ place.origin⟩)
  | .branch (.cons ..) => none

theorem visit?_below (pattern : Pattern) (origin : KeyPath) (key : Key) (place : Place) :
    (place.below key).visit? pattern origin = place.visit? (pattern ++ key.tokens) (origin ++ [key.raw]) := by
  simp [visit?, below, Place.pattern, Place.origin]

theorem visit?_pattern {pattern : Pattern} {origin : KeyPath} {place : Place} {visit : Visit}
    (noted : place.visit? pattern origin = some visit) : visit.pattern = pattern ++ place.pattern := by
  unfold visit? at noted
  split at noted <;> cases noted <;> rfl

theorem visit?_origin {place : Place} {visit : Visit} (noted : place.visit? [] [] = some visit) :
    visit.origin = place.origin := by
  unfold visit? at noted
  split at noted <;> cases noted <;> rfl

theorem visit?_entry (place : Place) : (place.visit? [] []).bind Visit.entry? = place.entry? := by
  unfold visit? entry?
  split <;> simp_all [Visit.entry?]

theorem visit?_deadEnd (place : Place) : (place.visit? [] []).bind Visit.deadEnd? = place.deadEnd? := by
  unfold visit? deadEnd?
  split <;> simp_all [Visit.deadEnd?]

end Place

def ofPattern (asked : Pattern) (visits : List Visit) : List Visit :=
  visits.filter fun visit => visit.pattern = asked

theorem ofPattern_append (asked : Pattern) (first second : List Visit) :
    ofPattern asked (first ++ second) = ofPattern asked first ++ ofPattern asked second :=
  List.filter_append _ _

def asksAny (pattern asked : Pattern) : Bool :=
  ((asked.drop pattern.length).head?.map Token.isAny).getD false

theorem asksAny_key (pattern rest : Pattern) (key : Key) :
    asksAny pattern (pattern ++ key.tokens ++ rest) = key.startsWithAny := by
  unfold asksAny Key.startsWithAny
  rw [List.append_assoc, List.drop_left]
  cases held : key.tokens with
  | nil => exact absurd held key.tokens_ne_nil
  | cons token tokens => rfl

theorem ofPattern_below_key (tree : Tree) (pattern asked : Pattern) (origin : KeyPath) (key : Key)
    (other : key.startsWithAny ≠ asksAny pattern asked) :
    ofPattern asked (tree.places.filterMap (Place.visit? (pattern ++ key.tokens) origin)) = [] := by
  refine List.filter_eq_nil_iff.mpr fun visit member same => other ?_
  obtain ⟨place, _, noted⟩ := List.mem_filterMap.mp member
  have reached : visit.pattern = asked := by simpa using same
  rw [← reached, Place.visit?_pattern noted, asksAny_key]

theorem Children.filterMap_places_cons (pattern : Pattern) (origin : KeyPath) (key : Key) (tree : Tree)
    (rest : Children) : (Children.cons key tree rest).places.filterMap (Place.visit? pattern origin) =
      tree.places.filterMap (Place.visit? (pattern ++ key.tokens) (origin ++ [key.raw])) ++
        rest.places.filterMap (Place.visit? pattern origin) := by
  rw [places, List.filterMap_append, List.filterMap_map]
  congr 1
  exact List.filterMap_congr fun place _ => Place.visit?_below pattern origin key place

-- One induction over the tree and its children lists: a group of children holds all visits of a
-- pattern or none of them.
theorem Tree.visits_ofPattern (tree : Tree) (asked pattern : Pattern) (origin : KeyPath) :
    ofPattern asked (tree.visits pattern origin) =
      ofPattern asked (tree.places.filterMap (Place.visit? pattern origin)) := by
  induction tree using Tree.rec (motive_2 := fun children => ∀ pattern origin anyFirst,
    ofPattern asked (children.visits pattern origin anyFirst) =
      if asksAny pattern asked = anyFirst then
        ofPattern asked (children.places.filterMap (Place.visit? pattern origin)) else [])
    generalizing pattern origin with
  | leaf source => simp [visits, places, Place.visit?, Place.pattern, Place.origin]
  | branch children ih =>
    cases children with
    | nil => simp [visits, places, Children.places, Place.visit?, Place.pattern, Place.origin]
    | cons key tree rest =>
      have words := ih pattern origin false
      have anys := ih pattern origin true
      rw [visits, ofPattern_append, words, anys, places, List.filterMap_cons_none rfl]
      cases asksAny pattern asked <;> simp
  | nil => simp [Children.visits, Children.places, ofPattern]
  | cons key tree rest treeHolds restHolds pattern origin anyFirst =>
    rw [Children.visits, ofPattern_append, restHolds, Children.filterMap_places_cons, ofPattern_append]
    by_cases group : key.startsWithAny = anyFirst
    · rw [if_pos group, treeHolds]
      by_cases reached : asksAny pattern asked = anyFirst
      · rw [if_pos reached, if_pos reached]
      · rw [if_neg reached, if_neg reached, ofPattern_below_key _ _ _ _ _ fun same => reached (same ▸ group)]
        rfl
    · rw [if_neg group]
      by_cases reached : asksAny pattern asked = anyFirst
      · rw [if_pos reached, if_pos reached, ofPattern_below_key _ _ _ _ _ fun same => group (same.trans reached)]
        rfl
      · rw [if_neg reached, if_neg reached]
        rfl

theorem Children.visits_ofPattern (children : Children) (asked : Pattern) :
    ofPattern asked (children.toList.flatMap fun (key, tree) => tree.visits key.tokens [key.raw]) =
      ofPattern asked (children.places.filterMap (Place.visit? [] [])) := by
  induction children using Children.rec (motive_1 := fun _ => True) with
  | leaf => trivial
  | branch => trivial
  | nil => rfl
  | cons key tree rest _ ih =>
    rw [toList, List.flatMap_cons, ofPattern_append, ih, filterMap_places_cons, ofPattern_append]
    congr 1
    exact tree.visits_ofPattern asked key.tokens [key.raw]

namespace Document

def leaves (document : Document) : List Entry := document.rootChildren.places.filterMap Place.entry?

theorem visits_ofPattern (document : Document) (asked : Pattern) :
    ofPattern asked document.visits =
      ofPattern asked (document.rootChildren.places.filterMap (Place.visit? [] [])) :=
  document.rootChildren.visits_ofPattern asked

theorem visits_perm (document : Document) :
    document.visits.Perm (document.rootChildren.places.filterMap (Place.visit? [] [])) := by
  refine List.perm_iff_count.mpr fun visit => ?_
  have sameCount (visits : List Visit) : visits.count visit = (ofPattern visit.pattern visits).count visit :=
    (List.count_filter (by simp)).symm
  rw [sameCount, visits_ofPattern, ← sameCount]

end Document

theorem filter_entries (asked : Pattern) (visits : List Visit) :
    (visits.filterMap Visit.entry?).filter (fun row => row.pattern = asked) =
      (ofPattern asked visits).filterMap Visit.entry? := by
  induction visits with
  | nil => rfl
  | cons visit rest ih =>
    cases visit with
    | entry row =>
      rw [ofPattern] at ih ⊢
      by_cases same : row.pattern = asked <;>
        simp [Visit.entry?, Visit.pattern, same, ih]
    | deadEnd stop =>
      rw [ofPattern] at ih ⊢
      by_cases same : stop.pattern = asked <;>
        simp [Visit.entry?, Visit.pattern, List.filterMap_cons, same, ih]

theorem origins_perm (visits : List Visit) :
    ((visits.filterMap Visit.entry?).map Entry.origin ++ (visits.filterMap Visit.deadEnd?).map DeadEnd.origin).Perm
      (visits.map Visit.origin) := by
  induction visits with
  | nil => exact .nil
  | cons visit rest ih =>
    cases visit with
    | entry row => exact ih.cons row.origin
    | deadEnd stop => exact List.perm_middle.trans (ih.cons stop.origin)

theorem Place.visits_origins (places : List Place) :
    ((places.filterMap (Place.visit? [] [])).map Visit.origin).Sublist (places.map Place.origin) := by
  induction places with
  | nil => exact .slnil
  | cons place rest ih =>
    cases noted : place.visit? [] [] with
    | none =>
      rw [List.filterMap_cons_none noted]
      exact ih.cons _
    | some visit =>
      rw [List.filterMap_cons_some noted, List.map_cons, List.map_cons, Place.visit?_origin noted]
      exact ih.cons_cons _

theorem Tree.leafCount_places (tree : Tree) : (tree.places.filterMap Place.entry?).length = tree.leafCount := by
  induction tree using Tree.rec (motive_2 := fun children =>
    (children.places.filterMap Place.entry?).length = children.leafCount) with
  | leaf => rfl
  | branch children ih => exact ih
  | nil => rfl
  | cons key tree rest treeHolds restHolds =>
    rw [Children.places, Children.leafCount, List.filterMap_append, List.length_append, restHolds,
      ← treeHolds, List.filterMap_map]
    congr 1
    rw [List.length_filterMap_eq_countP, List.length_filterMap_eq_countP]
    refine List.countP_congr fun place _ => ?_
    obtain ⟨keys, _ | _⟩ := place <;> rfl

namespace Document

theorem entry_visits (document : Document) :
    (document.rootChildren.places.filterMap (Place.visit? [] [])).filterMap Visit.entry? = document.leaves := by
  rw [List.filterMap_filterMap, leaves]
  exact List.filterMap_congr fun place _ => place.visit?_entry

theorem entries_perm (document : Document) : document.table.entries.Perm document.leaves := by
  rw [← entry_visits]
  exact (Entry.order_perm _).trans (document.visits_perm.filterMap _)

theorem entries_ofPattern (document : Document) (asked : Pattern) :
    document.table.entries.filter (fun row => row.pattern = asked) =
      document.leaves.filter (fun row => row.pattern = asked) := by
  rw [table, Entry.order_filter_pattern, filter_entries, visits_ofPattern, ← filter_entries, entry_visits]

theorem deadEnds_perm (document : Document) :
    document.table.deadEnds.Perm (document.rootChildren.places.filterMap Place.deadEnd?) := by
  refine (document.visits_perm.filterMap Visit.deadEnd?).trans (.of_eq ?_)
  rw [List.filterMap_filterMap]
  exact List.filterMap_congr fun place _ => place.visit?_deadEnd

theorem leaf_pattern_ne_nil {document : Document} {entry : Entry} (member : entry ∈ document.leaves) :
    entry.pattern ≠ [] := by
  obtain ⟨place, listed, held⟩ := List.mem_filterMap.mp member
  obtain ⟨pair, _, keys, starts⟩ := Children.places_keys_head listed
  unfold Place.entry? at held
  split at held
  · cases held
    simp [Place.pattern, starts, pair.1.tokens_ne_nil]
  · cases held

theorem place_origins_nodup (document : Document) : (document.rootChildren.places.map Place.origin).Nodup := by
  have distinct := document.root.places_keys_nodup document.root_distinct
  unfold rootChildren
  split
  · exact .nil
  · rename_i children branch
    rw [branch, Tree.places, List.map_cons, List.nodup_cons] at distinct
    have raws := distinct.2.map (List.map_injective_iff.mpr Key.raw_injective)
    rwa [List.map_map] at raws

theorem origins_nodup (document : Document) :
    (document.table.entries.map Entry.origin ++ document.table.deadEnds.map DeadEnd.origin).Nodup := by
  have once := (Place.visits_origins document.rootChildren.places).nodup document.place_origins_nodup
  have walked := (document.visits_perm.map Visit.origin).nodup_iff.mpr once
  have parted := (origins_perm document.visits).nodup_iff.mpr walked
  exact (((Entry.order_perm _).map Entry.origin).append_right _).nodup_iff.mpr parted

theorem table_holds_each_leaf_once (document : Document) (children : Children)
    (branch : document.root = .branch children) :
    document.table.entries.Perm (document.root.places.filterMap Place.entry?) ∧
    document.table.deadEnds.Perm (children.places.filterMap Place.deadEnd?) ∧
    document.table.entries.length = document.root.leafCount ∧
    (∀ entry ∈ document.table.entries, entry.pattern ≠ []) ∧
    (document.table.entries.map Entry.origin ++ document.table.deadEnds.map DeadEnd.origin).Nodup := by
  have below : document.rootChildren = children := by simp [rootChildren, branch]
  have leaves : document.root.places.filterMap Place.entry? = document.leaves := by
    rw [Document.leaves, below, branch, Tree.places]
    rfl
  have entries : document.table.entries.Perm (document.root.places.filterMap Place.entry?) := by
    rw [leaves]
    exact document.entries_perm
  refine ⟨entries, ?_, ?_, ?_, document.origins_nodup⟩
  · rw [← below]
    exact document.deadEnds_perm
  · rw [entries.length_eq, Tree.leafCount_places]
  · intro entry member
    exact leaf_pattern_ne_nil (document.entries_perm.mem_iff.mp member)

def sampleRules : Children :=
  .cons ⟨"tool", by decide⟩ (.branch
    (.cons ⟨"* now", by decide⟩ (.leaf (.words ["later"]))
    (.cons ⟨"push", by decide⟩ (.leaf (.command "git remote"))
    (.cons ⟨"none", by decide⟩ (.branch .nil) .nil)))) .nil

def sample : Document where
  root := .branch sampleRules
  options := []
  root_distinct := by
    simp [sampleRules, Tree.KeysDistinct, Children.AllKeysDistinct, Children.toList, Pairs.Distinct]
  options_distinct := Pairs.distinct_nil

theorem sample_holds_each_leaf_once :
    sample.root = .branch sampleRules ∧
    sample.table.entries.Perm
      [⟨[.word "tool", .any, .word "now"], .words ["later"], ["tool", "* now"]⟩,
        ⟨[.word "tool", .word "push"], .command "git remote", ["tool", "push"]⟩] ∧
    sample.table.deadEnds.Perm [⟨[.word "tool", .word "none"], ["tool", "none"]⟩] ∧
    sample.table.entries.length = 2 := by
  obtain ⟨entries, deadEnds, count, _⟩ := table_holds_each_leaf_once sample sampleRules rfl
  exact ⟨rfl, entries, deadEnds, count⟩

end Document

end CompletionRules
