import CompletionRules.Proofs.Table.Reached
import CompletionRules.Proofs.Text.Fields

-- A key and the text it is written as. The tokens of a pattern, written with a blank between each two, are
-- read back as they were, whatever blanks their texts have at their ends.

namespace CompletionRules

namespace Text

variable {text : String}

def HasWord (text : String) : Prop := ∃ c ∈ text.toList, isBlank c = false

theorem hasWord_iff : HasWord text ↔ words text ≠ [] := by
  constructor
  · rintro ⟨c, member, whole⟩
    obtain ⟨field, listed, _⟩ := mem_field member whole
    exact List.ne_nil_of_mem (List.mem_map_of_mem listed)
  · intro some
    by_contra none
    have blank : ∀ c ∈ text.toList, isBlank c = true := by simpa [HasWord] using none
    have empty : wordsOf (text.toList ++ []) = wordsOf [] := wordsOf_blanks_append blank []
    rw [List.append_nil] at empty
    exact some (congrArg (List.map String.ofList) empty)

theorem words_append_blank (first second : String) : words (first ++ " " ++ second) = words first ++ words second := by
  have parts : (first ++ " " ++ second).toList = first.toList ++ ' ' :: second.toList := by simp
  rw [words, parts, wordsOf_append_blank _ _ _ (by decide), List.map_append]
  rfl

theorem words_joined (texts : List String) : words (joined " " texts) = texts.flatMap words := by
  induction texts with
  | nil => rfl
  | cons first others ih =>
    cases others with
    | nil =>
      have alone : joined " " [first] = first := String.intercalate_singleton
      rw [alone, List.flatMap_singleton]
    | cons next rest =>
      have whole : joined " " (first :: next :: rest) = first ++ " " ++ joined " " (next :: rest) :=
        String.intercalate_cons_cons
      rw [whole, words_append_blank, ih, ← List.flatMap_cons]

theorem words_isWord_self (isWord : IsWord text) : words text = [text] := by
  rw [words, wordsOf_whole isWord.1 isWord.2, List.map_singleton, String.ofList_toList]

end Text

theorem Token.text_ofWord (word : String) : (Token.ofWord word).text = word := by
  unfold ofWord
  split
  · rename_i star
    exact star.symm
  · rfl

namespace Key

def tokensOf (text : String) : Pattern := ((ofText? text).map tokens).getD []

theorem ofText?_isSome {text : String} : (ofText? text).isSome ↔ Text.HasWord text := by
  rw [Text.hasWord_iff, ofText?]
  split
  · rename_i holdsWord
    exact ⟨fun _ => holdsWord, fun _ => rfl⟩
  · rename_i none
    exact ⟨nofun, fun holdsWord => absurd holdsWord none⟩

theorem tokensOf_words (text : String) : tokensOf text = (Text.words text).map Token.ofWord := by
  rw [tokensOf, ofText?]
  split
  · rfl
  · rename_i none
    rw [Classical.not_not.mp none]
    rfl

theorem ofText?_tokens {text : String} (held : tokensOf text ≠ []) :
    (ofText? text).map tokens = some (tokensOf text) := by
  rw [tokensOf] at held ⊢
  cases read : ofText? text with
  | none => exact absurd (by rw [read]; rfl) held
  | some key => rfl

theorem mem_tokens_exact {key : Key} {text : String} (member : .word text ∈ key.tokens) :
    Text.IsWord text ∧ text ≠ "*" := by
  refine ⟨Text.words_isWord (mem_tokens_word member), ?_⟩
  obtain ⟨word, _, same⟩ := List.mem_map.mp member
  unfold Token.ofWord at same
  split at same
  · cases same
  · rename_i other
    cases same
    exact other

end Key

def Pattern.Spelled (pattern : Pattern) : Prop :=
  ∀ token ∈ pattern, ∃ word, Text.IsWord word ∧ token = Token.ofWord word

theorem Pattern.Spelled.tokensOf_text {pattern : Pattern} (spelled : pattern.Spelled) :
    Key.tokensOf pattern.text = pattern := by
  rw [Key.tokensOf_words, Pattern.text, Text.words_joined, List.flatMap_map, List.map_flatMap]
  calc pattern.flatMap (fun token => (Text.words token.text).map Token.ofWord)
      = pattern.flatMap fun token => [token] := by
        refine List.flatMap_congr fun token member => ?_
        obtain ⟨word, isWord, rfl⟩ := spelled token member
        rw [Token.text_ofWord, Text.words_isWord_self isWord, List.map_singleton]
    _ = pattern := List.flatMap_singleton' pattern

namespace Document

variable {document other : Document} {entry row : Entry}

theorem entry_spelled (listed : entry ∈ document.table.entries) : entry.pattern.Spelled := by
  obtain ⟨place, _, same⟩ := leaf_place (document.entries_perm.mem_iff.mp listed)
  intro token member
  rw [same, Place.pattern] at member
  obtain ⟨key, _, inKey⟩ := List.mem_flatMap.mp member
  obtain ⟨word, inText, rfl⟩ := List.mem_map.mp inKey
  exact ⟨word, Text.words_isWord inText, rfl⟩

theorem entry_text_read (listed : entry ∈ document.table.entries) :
    (Key.ofText? entry.pattern.text).map Key.tokens = some entry.pattern := by
  have whole : Key.tokensOf entry.pattern.text = entry.pattern := (entry_spelled listed).tokensOf_text
  have filled : entry.pattern ≠ [] := leaf_pattern_ne_nil (document.entries_perm.mem_iff.mp listed)
  rw [Key.ofText?_tokens (by rwa [whole]), whole]

-- A text is a key if it has a word, and of a text of several words each stands for one token, in their
-- order. The pattern of an entry is what its own text stands for, so entries that look alike are alike.
theorem patterns_read_back :
    (∀ first second : String,
      ((Key.ofText? (first ++ " " ++ second)).isSome ↔ Text.HasWord first ∨ Text.HasWord second) ∧
      Key.tokensOf (first ++ " " ++ second) = Key.tokensOf first ++ Key.tokensOf second) ∧
    (∀ word, Text.IsWord word → Key.tokensOf word = [Token.ofWord word]) ∧
    (∀ (key : Key) (word : String), .word word ∈ key.tokens → Text.IsWord word ∧ word ≠ "*") ∧
    (∀ document : Document, ∀ entry ∈ document.table.entries,
      (Key.ofText? entry.pattern.text).map Key.tokens = some entry.pattern) ∧
    ∀ document other : Document, ∀ entry ∈ document.table.entries, ∀ row ∈ other.table.entries,
      entry.pattern.text = row.pattern.text → entry.pattern = row.pattern := by
  refine ⟨fun first second => ⟨?_, ?_⟩, fun word isWord => ?_, fun _ _ => Key.mem_tokens_exact,
    fun _ _ => entry_text_read, fun document other entry listed row also same => ?_⟩
  · rw [Key.ofText?_isSome, Text.hasWord_iff, Text.hasWord_iff, Text.hasWord_iff, Text.words_append_blank, Ne,
      List.append_eq_nil_iff, not_and_or]
  · rw [Key.tokensOf_words, Key.tokensOf_words, Key.tokensOf_words, Text.words_append_blank, List.map_append]
  · rw [Key.tokensOf_words, Text.words_isWord_self isWord, List.map_singleton]
  · rw [← (entry_spelled listed).tokensOf_text, same, (entry_spelled also).tokensOf_text]

def deepRules : Children :=
  .cons ⟨" git  remote", by decide⟩ (.branch
    (.cons ⟨"*\u00a0add\t", by decide⟩ (.branch (.cons ⟨"-f", by decide⟩ (.leaf (.words ["origin"])) .nil)) .nil)) .nil

def deep : Document where
  root := .branch deepRules
  options := []
  root_distinct := by
    simp [deepRules, Tree.KeysDistinct, Children.AllKeysDistinct, Children.toList, Pairs.Distinct]
  options_distinct := Pairs.distinct_nil

def deepEntry : Entry :=
  ⟨[.word "git", .word "remote", .any, .word "add", .word "-f"], .words ["origin"],
    [" git  remote", "*\u00a0add\t", "-f"]⟩

theorem deep_read_back :
    deepEntry ∈ deep.table.entries ∧ deepEntry.pattern.text = "git remote * add -f" ∧
    (Key.ofText? "git remote * add -f").map Key.tokens = some deepEntry.pattern ∧
    Key.tokensOf ("git remote" ++ " " ++ "* add -f") = Key.tokensOf "git remote" ++ Key.tokensOf "* add -f" ∧
    ∀ row ∈ deep.table.entries, row.pattern.text = "git remote * add -f" → row.pattern = deepEntry.pattern := by
  obtain ⟨appended, _, _, reads, alike⟩ := patterns_read_back
  have listed : deepEntry ∈ deep.table.entries := deep.entries_perm.mem_iff.mpr (by decide +kernel)
  have text : deepEntry.pattern.text = "git remote * add -f" := by decide
  have read := reads deep deepEntry listed
  rw [text] at read
  refine ⟨listed, text, read, (appended _ _).2, fun row also same => ?_⟩
  exact alike deep deep row also deepEntry listed (same.trans text.symm)

end Document

end CompletionRules
