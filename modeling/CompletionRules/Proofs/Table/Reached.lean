import CompletionRules.Candidates.Request
import CompletionRules.Proofs.Table.FirstMatch
import CompletionRules.Proofs.Table.Overtaking
import CompletionRules.Proofs.Table.Problems
import CompletionRules.Proofs.Text.Words

-- Which entries can ever be the answer. A pattern's own words, and at each any-token a word that no pattern
-- spells out, make a line that only entries of its own pattern can take from it.

namespace CompletionRules

def Token.filled (filler : String) : Token → String
  | .any => filler
  | .word text => text

namespace Pattern

def filled (filler : String) (pattern : Pattern) : List String := pattern.map (Token.filled filler)

theorem accepts_filled (filler : String) (pattern : Pattern) : pattern.accepts (pattern.filled filler) = true := by
  induction pattern with
  | nil => rfl
  | cons token tokens ih =>
    rw [filled, List.map_cons, accepts, Bool.and_eq_true]
    refine ⟨?_, ih⟩
    cases token with
    | any => rfl
    | word text => exact beq_self_eq_true text

theorem precedes_of_accepts_filled {pattern other : Pattern} {filler : String}
    (accepted : other.accepts (pattern.filled filler) = true)
    (unspelled : ∀ text, .word text ∈ other → text ≠ filler) (differ : other ≠ pattern) :
    pattern.mustPrecede other = true := by
  refine (accepted_comparable accepted (accepts_filled filler pattern) differ).resolve_left fun ahead => ?_
  obtain ⟨shared, text, rest, others, spelled, loose⟩ := mustPrecede_exact.mp ahead
  have typed : (pattern.filled filler)[shared.length]? = some text :=
    (accepts_exact.mp accepted).2 shared.length text (by simp [spelled])
  have fillerThere : (pattern.filled filler)[shared.length]? = some filler := by
    simp [filled, loose, Token.filled]
  rw [typed] at fillerThere
  exact unspelled text (by simp [spelled]) (Option.some.inj fillerThere)

end Pattern

namespace Table

def spelledOut (entries : List Entry) : List Char :=
  ((entries.flatMap Entry.pattern).map fun token => token.text.toList).flatten

def unspelled (entries : List Entry) : String := .ofList (List.replicate ((spelledOut entries).length + 1) 'x')

theorem ne_unspelled {entries : List Entry} {entry : Entry} {text : String} (member : entry ∈ entries)
    (spelled : .word text ∈ entry.pattern) : text ≠ unspelled entries := by
  intro same
  have listed : Token.word text ∈ entries.flatMap Entry.pattern :=
    List.mem_flatMap.mpr ⟨entry, member, spelled⟩
  have inside : text.toList ∈ (entries.flatMap Entry.pattern).map fun token => token.text.toList :=
    List.mem_map.mpr ⟨_, listed, rfl⟩
  have bound : text.toList.length ≤ (spelledOut entries).length :=
    (List.sublist_flatten_of_mem inside).length_le
  rw [same, unspelled, String.toList_ofList, List.length_replicate] at bound
  omega

theorem unspelled_isWord (entries : List Entry) : Text.IsWord (unspelled entries) := by
  rw [Text.IsWord, unspelled, String.toList_ofList]
  refine ⟨by simp, fun c member => ?_⟩
  rw [List.eq_of_mem_replicate member]
  decide

theorem slash_not_mem_unspelled (entries : List Entry) : '/' ∉ (unspelled entries).toList := by
  rw [unspelled, String.toList_ofList]
  intro member
  have same := List.eq_of_mem_replicate member
  revert same
  decide

def Reaches (table : Table) (entry : Entry) : Prop :=
  ∃ line request, Request.ofLine? line = some request ∧
    table.find? request.program request.typed = some entry

def ReportedBehind (table : Table) (entry : Entry) : Prop :=
  ∃ diagnostic ∈ table.diagnostics, ∃ origins, diagnostic.problem = .duplicatePattern origins ∧
    entry.origin ∈ origins.tail

end Table

theorem Request.ofLine?_written {program : String} {typed : List String}
    (spelled : ∀ word ∈ program :: typed, Text.IsWord word) :
    ofLine? (Text.written (program :: typed)) = some ⟨program, typed, ""⟩ := by
  have ends : endsBlank (Text.written (program :: typed)) = true := by
    rw [endsBlank, Text.written, String.toList_ofList]
    rcases List.eq_nil_or_concat (program :: typed) with empty | ⟨before, last, parted⟩
    · cases empty
    · rw [parted, List.concat_eq_append, List.flatMap_append, List.flatMap_singleton, ← List.append_assoc, List.getLast?_concat]
      decide
  rw [ofLine?, Text.words_written spelled]
  simp [ends]

theorem commandLine_of_bare {program : String} (bare : '/' ∉ program.toList) (typed : List String) :
    commandLine program typed = program :: typed := by
  rw [commandLine, Text.afterLast_of_not_mem bare, String.ofList_toList]

theorem Key.mem_tokens_word {key : Key} {text : String} (member : .word text ∈ key.tokens) :
    text ∈ Text.words key.raw := by
  obtain ⟨word, listed, same⟩ := List.mem_map.mp member
  unfold Token.ofWord at same
  split at same
  · cases same
  · cases same
    exact listed

namespace Document

theorem leaf_place {document : Document} {entry : Entry} (member : entry ∈ document.leaves) :
    ∃ place ∈ document.rootChildren.places, entry.pattern = place.pattern := by
  obtain ⟨place, listed, held⟩ := List.mem_filterMap.mp member
  refine ⟨place, listed, ?_⟩
  unfold Place.entry? at held
  split at held
  · cases held
    rfl
  · cases held

theorem leaf_isWord {document : Document} {entry : Entry} {text : String} (member : entry ∈ document.leaves)
    (spelled : .word text ∈ entry.pattern) : Text.IsWord text := by
  obtain ⟨place, _, same⟩ := leaf_place member
  rw [same, Place.pattern] at spelled
  obtain ⟨key, _, inKey⟩ := List.mem_flatMap.mp spelled
  exact Text.words_isWord (Key.mem_tokens_word inKey)

theorem leaf_program {document : Document} {entry : Entry} (member : entry ∈ document.leaves) :
    ∃ pair ∈ document.roots, entry.program? = pair.1.tokens.head? := by
  obtain ⟨place, listed, same⟩ := leaf_place member
  obtain ⟨pair, paired, keys, starts⟩ := Children.places_keys_head listed
  refine ⟨pair, paired, ?_⟩
  rw [Entry.program?, same, Place.pattern_head starts]

-- No program is asked for by a name with a slash in it, which could never be typed.
def NamesPrograms (document : Document) : Prop :=
  ∀ pair ∈ document.roots, ∀ text, pair.1.tokens.head? = some (.word text) → '/' ∉ text.toList

def Behind (document : Document) (entry : Entry) : Prop :=
  ∃ row, Entry.Ahead document.table.entries row entry ∧ row.pattern = entry.pattern

-- On the line that is filled in for an entry, what else applies is preceded by it, so nothing that
-- stands before it applies.
theorem find?_filled {document : Document} {entry : Entry} (listed : entry ∈ document.table.entries)
    (first : ¬ document.Behind entry) :
    (document.table.entries.find? fun row =>
      row.pattern.accepts (entry.pattern.filled (Table.unspelled document.table.entries))) = some entry := by
  obtain ⟨before, after, parted⟩ := List.append_of_mem listed
  refine List.find?_eq_some_iff_append.mpr ⟨Pattern.accepts_filled _ _, before, after, parted, ?_⟩
  intro row early
  have ahead : Entry.Ahead document.table.entries row entry := by
    rw [parted]
    exact Entry.ahead_append early (by simp)
  by_contra applies
  have accepted : row.pattern.accepts (entry.pattern.filled (Table.unspelled document.table.entries)) = true := by
    simpa using applies
  have precedes : entry.pattern.mustPrecede row.pattern = true :=
    Pattern.precedes_of_accepts_filled accepted (fun text => Table.ne_unspelled ahead.mem_left)
      fun same => first ⟨row, ahead, same⟩
  have level : entry.pattern.length = row.pattern.length :=
    (Pattern.accepts_exact.mp (Pattern.accepts_filled _ _)).1.trans (Pattern.accepts_exact.mp accepted).1.symm
  rw [List.pairwise_iff_forall_sublist.mp (Entry.order_settled document.walked) ahead level] at precedes
  cases precedes

theorem find?_filled_line {document : Document} {entry : Entry} {token : Token} {tokens : Pattern}
    (listed : entry ∈ document.table.entries) (first : ¬ document.Behind entry)
    (held : entry.pattern = token :: tokens)
    (bare : '/' ∉ (token.filled (Table.unspelled document.table.entries)).toList) :
    document.table.find? (token.filled (Table.unspelled document.table.entries))
      (tokens.filled (Table.unspelled document.table.entries)) = some entry := by
  have found := find?_filled listed first
  rw [held, Pattern.filled, List.map_cons] at found
  rw [find?_accepts, commandLine_of_bare bare]
  exact found

theorem reaches_of_not_behind {document : Document} (named : document.NamesPrograms) {entry : Entry}
    (listed : entry ∈ document.table.entries) (first : ¬ document.Behind entry) :
    document.table.Reaches entry := by
  have leaf : entry ∈ document.leaves := document.entries_perm.mem_iff.mp listed
  have spelled : ∀ word ∈ entry.pattern.filled (Table.unspelled document.table.entries), Text.IsWord word := by
    intro word member
    obtain ⟨token, inside, rfl⟩ := List.mem_map.mp member
    cases token with
    | any => exact Table.unspelled_isWord _
    | word text => exact leaf_isWord leaf inside
  obtain ⟨pair, root, starts⟩ := leaf_program leaf
  cases held : entry.pattern with
  | nil => exact absurd held (leaf_pattern_ne_nil leaf)
  | cons token tokens =>
    rw [held, Pattern.filled, List.map_cons] at spelled
    have bare : '/' ∉ (token.filled (Table.unspelled document.table.entries)).toList := by
      cases token with
      | any => exact Table.slash_not_mem_unspelled _
      | word text =>
        refine named pair root text ?_
        rw [← starts, Entry.program?, held]
        rfl
    exact ⟨_, _, Request.ofLine?_written spelled, find?_filled_line listed first held bare⟩

theorem not_behind_of_reaches {document : Document} {entry : Entry} (reached : document.table.Reaches entry) :
    ¬ document.Behind entry := by
  rintro ⟨row, ahead, same⟩
  obtain ⟨_, request, _, found⟩ := reached
  rw [find?_accepts] at found
  obtain ⟨accepted, before, after, parted, passed⟩ := List.find?_eq_some_iff_append.mp found
  have once := document.entries_nodup
  rw [parted] at ahead once
  have refused := passed row ((Entry.ahead_here_iff once).mp ahead)
  rw [same, accepted] at refused
  cases refused

end Document

theorem Entry.mem_tail_iff {entries : List Entry} {entry : Entry} :
    entry ∈ entries.tail ↔ ∃ row, Ahead entries row entry := by
  cases entries with
  | nil => simp [Ahead]
  | cons head rest =>
    constructor
    · intro member
      exact ⟨head, ahead_cons.mpr (.inl ⟨rfl, member⟩)⟩
    · rintro ⟨row, ahead⟩
      rcases ahead_cons.mp ahead with ⟨_, member⟩ | inside
      · exact member
      · exact inside.mem_right

namespace Table

theorem duplicate_listed {table : Table} {diagnostic : Diagnostic} {origins : List KeyPath}
    (member : diagnostic ∈ table.diagnostics) (reported : diagnostic.problem = .duplicatePattern origins) :
    origins = originsOf diagnostic.pattern table.entries ∧ 2 ≤ origins.length := by
  rw [diagnostics, List.mem_append, List.mem_append] at member
  rcases member with (faulty | duplicate) | stop
  · obtain ⟨entry, _, found⟩ := List.mem_filterMap.mp faulty
    obtain ⟨_, single⟩ := Entry.sourceProblem?_exact.mp found
    rw [reported] at single
    cases single
  · rw [duplicates_exact] at duplicate
    obtain ⟨pattern, listed, rfl⟩ := List.mem_map.mp duplicate
    cases reported
    exact ⟨rfl, by simpa using (List.mem_filter.mp listed).2⟩
  · obtain ⟨deadEnd, _, rfl⟩ := List.mem_map.mp stop
    cases reported

theorem duplicate_reported {table : Table} {pattern : Pattern}
    (several : 2 ≤ (originsOf pattern table.entries).length) :
    ⟨pattern, .duplicatePattern (originsOf pattern table.entries)⟩ ∈ table.diagnostics := by
  rw [diagnostics, List.mem_append, List.mem_append, duplicates_exact]
  refine .inl (.inr (List.mem_map.mpr ⟨pattern, List.mem_filter.mpr ⟨?_, by simpa using several⟩, rfl⟩))
  cases held : table.entries.filter fun entry => entry.pattern = pattern with
  | nil => simp [originsOf, held] at several
  | cons row rest =>
    have kept : row ∈ table.entries.filter fun entry => entry.pattern = pattern := by simp [held]
    obtain ⟨member, same⟩ := List.mem_filter.mp kept
    exact mem_patterns.mpr ⟨row, member, by simpa using same⟩

end Table

namespace Document

theorem origin_mem_tail_iff {document : Document} {entry : Entry} (listed : entry ∈ document.table.entries)
    {pattern : Pattern} : entry.origin ∈ (Table.originsOf pattern document.table.entries).tail ↔
      entry.pattern = pattern ∧ document.Behind entry := by
  rw [Table.originsOf, ← List.map_tail]
  constructor
  · intro member
    obtain ⟨other, inTail, sameOrigin⟩ := List.mem_map.mp member
    obtain ⟨row, ahead⟩ := Entry.mem_tail_iff.mp inTail
    have held := List.mem_filter.mp (List.mem_of_mem_tail inTail)
    have same : other = entry :=
      List.inj_on_of_nodup_map (List.nodup_append.mp document.origins_nodup).1 held.1 listed sameOrigin
    subst same
    have patternHere : other.pattern = pattern := by simpa using held.2
    have patternThere : row.pattern = pattern := by simpa using (List.mem_filter.mp ahead.mem_left).2
    exact ⟨patternHere, row, List.Sublist.trans ahead List.filter_sublist, patternThere.trans patternHere.symm⟩
  · rintro ⟨rfl, row, ahead, same⟩
    refine List.mem_map.mpr ⟨entry, Entry.mem_tail_iff.mpr ⟨row, ?_⟩, rfl⟩
    have kept := List.Sublist.filter (fun other => decide (other.pattern = entry.pattern)) ahead
    rw [List.filter_eq_self.mpr (by simp [same])] at kept
    exact kept

theorem reportedBehind_iff {document : Document} {entry : Entry} (listed : entry ∈ document.table.entries) :
    document.table.ReportedBehind entry ↔ document.Behind entry := by
  constructor
  · rintro ⟨diagnostic, member, origins, reported, behind⟩
    obtain ⟨rfl, _⟩ := Table.duplicate_listed member reported
    exact ((origin_mem_tail_iff listed).mp behind).2
  · intro behind
    have inTail := (origin_mem_tail_iff listed).mpr ⟨rfl, behind⟩
    refine ⟨_, Table.duplicate_reported ?_, _, rfl, inTail⟩
    have positive := List.length_pos_of_mem inTail
    rw [List.length_tail] at positive
    omega

theorem head_not_behind {document : Document} {pattern : Pattern} {first : KeyPath} {others : List KeyPath}
    (held : Table.originsOf pattern document.table.entries = first :: others) :
    ∃ entry ∈ document.table.entries, entry.origin = first ∧ ¬ document.Behind entry := by
  have once : (first :: others).Nodup := by
    rw [← held]
    exact (List.filter_sublist.map Entry.origin).nodup (List.nodup_append.mp document.origins_nodup).1
  have member : first ∈ Table.originsOf pattern document.table.entries := by simp [held]
  obtain ⟨entry, kept, rfl⟩ := List.mem_map.mp member
  obtain ⟨listed, same⟩ := List.mem_filter.mp kept
  refine ⟨entry, listed, rfl, fun behind => ?_⟩
  have inTail := (origin_mem_tail_iff listed).mpr ⟨by simpa using same, behind⟩
  rw [held] at inTail
  exact (List.nodup_cons.mp once).1 inTail

-- An entry is dead exactly when a duplicate is reported that lists it, and not at its head; the
-- entry at the head of a reported duplicate is alive.
theorem reached_unless_reported (document : Document) (named : document.NamesPrograms) :
    (∀ entry ∈ document.table.entries,
      document.table.Reaches entry ↔ ¬ document.table.ReportedBehind entry) ∧
    ∀ diagnostic ∈ document.table.diagnostics, ∀ origins, diagnostic.problem = .duplicatePattern origins →
      ∃ first others, origins = first :: others ∧
        (∃ entry ∈ document.table.entries, entry.origin = first ∧ document.table.Reaches entry) ∧
        ∀ entry ∈ document.table.entries, entry.origin ∈ others → ¬ document.table.Reaches entry := by
  have alive : ∀ entry ∈ document.table.entries,
      document.table.Reaches entry ↔ ¬ document.table.ReportedBehind entry := by
    intro entry listed
    rw [reportedBehind_iff listed]
    exact ⟨not_behind_of_reaches, reaches_of_not_behind named listed⟩
  refine ⟨alive, fun diagnostic member origins reported => ?_⟩
  obtain ⟨exact, several⟩ := Table.duplicate_listed member reported
  cases origins with
  | nil => simp at several
  | cons first others =>
    obtain ⟨entry, listed, sameOrigin, ahead⟩ := head_not_behind exact.symm
    refine ⟨first, others, rfl, ⟨entry, listed, sameOrigin, reaches_of_not_behind named listed ahead⟩, ?_⟩
    intro other otherListed inOthers reached
    exact (alive other otherListed).mp reached ⟨diagnostic, member, _, reported, inOthers⟩

def writtenTwiceRules : Children :=
  .cons ⟨"git *", by decide⟩ (.leaf (.words ["--help"]))
    (.cons ⟨"git", by decide⟩ (.branch (.cons ⟨"fetch", by decide⟩ (.leaf (.words ["origin"])) .nil))
    (.cons ⟨"git fetch", by decide⟩ (.leaf (.words ["upstream"])) .nil))

def writtenTwice : Document where
  root := .branch writtenTwiceRules
  options := []
  root_distinct := by
    simp [writtenTwiceRules, Tree.KeysDistinct, Children.AllKeysDistinct, Children.toList, Pairs.Distinct]
  options_distinct := Pairs.distinct_nil

theorem writtenTwice_reached :
    writtenTwice.NamesPrograms ∧
    ⟨[.word "git", .word "fetch"], .duplicatePattern [["git", "fetch"], ["git fetch"]]⟩ ∈
      writtenTwice.table.diagnostics ∧
    (∃ entry ∈ writtenTwice.table.entries, entry.origin = ["git", "fetch"] ∧ writtenTwice.table.Reaches entry) ∧
    ¬ writtenTwice.table.Reaches ⟨[.word "git", .word "fetch"], .words ["upstream"], ["git fetch"]⟩ := by
  have named : writtenTwice.NamesPrograms := by
    intro pair root text starts
    have git : ∀ pair ∈ writtenTwice.roots, pair.1.tokens.head? = some (.word "git") := by decide
    rw [git pair root] at starts
    cases starts
    decide
  have origins : Table.originsOf [.word "git", .word "fetch"] writtenTwice.table.entries =
      [["git", "fetch"], ["git fetch"]] :=
    (writtenTwice.originsOf_entries _).trans (by decide)
  have reported : ⟨[.word "git", .word "fetch"], .duplicatePattern [["git", "fetch"], ["git fetch"]]⟩ ∈
      writtenTwice.table.diagnostics := by
    rw [← origins]
    refine Table.duplicate_reported ?_
    rw [origins]
    decide
  obtain ⟨first, others, parted, alive, dead⟩ :=
    (reached_unless_reported writtenTwice named).2 _ reported _ rfl
  cases parted
  exact ⟨named, reported, alive, dead _ (writtenTwice.entries_perm.mem_iff.mpr (by decide)) (by simp)⟩

end Document

end CompletionRules
