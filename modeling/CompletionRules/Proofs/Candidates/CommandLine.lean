import CompletionRules.Candidates.Request
import CompletionRules.Proofs.Text.Words

-- A command line as it is written and as it is read. What is read is the request that was written, whichever
-- blanks were used.

namespace CompletionRules

namespace Text

-- Whole words and the word under the cursor. More blanks can only come behind an empty one: behind
-- any other they would end it.
inductive LaidOut (words : List String) (current : String) : List Char → Prop where
  | mk {leading text trailing : List Char} (before : ∀ c ∈ leading, isBlank c = true) (spaced : Spaced words text)
      (whole : ∀ c ∈ current.toList, isBlank c = false) (after : ∀ c ∈ trailing, isBlank c = true)
      (ends : current = "" ∨ trailing = []) : LaidOut words current (leading ++ (text ++ (current.toList ++ trailing)))

theorem forall_getLast?_append {p : Char → Prop} {left right : List Char} (first : ∀ c ∈ left.getLast?, p c)
    (second : ∀ c ∈ right.getLast?, p c) : ∀ c ∈ (left ++ right).getLast?, p c := by
  intro c last
  rw [List.getLast?_append] at last
  rcases Option.or_eq_some_iff.mp last with behind | ⟨_, ahead⟩
  · exact second c behind
  · exact first c ahead

theorem Spaced.ends_blank {words : List String} {text : List Char} (spaced : Spaced words text) :
    ∀ c ∈ text.getLast?, isBlank c = true := by
  induction spaced with
  | nil => simp
  | @cons word others gap text isWord filled blank rest ih =>
    rw [← List.append_assoc]
    refine forall_getLast?_append ?_ ih
    intro c last
    rw [List.getLast?_append, List.getLast?_eq_some_getLast filled, Option.some_or] at last
    cases last
    exact blank _ (List.getLast_mem filled)

namespace LaidOut

variable {words : List String} {current : String} {line : List Char}

theorem words_eq (laid : LaidOut words current line) :
    (wordsOf line).map String.ofList = words ++ if current = "" then [] else [current] := by
  obtain ⟨before, spaced, whole, after, ends⟩ := laid
  rename_i leading text trailing
  have last : wordsOf (current.toList ++ trailing) = if current = "" then [] else [current.toList] := by
    by_cases empty : current = ""
    · subst empty
      have none : wordsOf trailing = wordsOf [] := by
        rw [← List.append_nil trailing]
        exact wordsOf_blanks_append after []
      exact none
    · rw [if_neg empty, ends.resolve_left empty, List.append_nil]
      exact wordsOf_whole (fun none => empty (String.toList_eq_nil_iff.mp none)) whole
  rw [wordsOf_blanks_append before, spaced.wordsOf_append, last, List.map_append, List.map_map]
  split <;> simp [Function.comp_def]

theorem ends_blank (laid : LaidOut words "" line) : ∀ c ∈ line.getLast?, isBlank c = true := by
  obtain ⟨before, spaced, whole, after, ends⟩ := laid
  have blank {run : List Char} (all : ∀ c ∈ run, isBlank c = true) : ∀ c ∈ run.getLast?, isBlank c = true :=
    fun c last => all c (List.mem_of_getLast? last)
  exact forall_getLast?_append (blank before) (forall_getLast?_append spaced.ends_blank (blank after))

theorem ends_whole (laid : LaidOut words current line) (filled : current ≠ "") :
    ∃ c, line.getLast? = some c ∧ isBlank c = false := by
  obtain ⟨before, spaced, whole, after, ends⟩ := laid
  rename_i leading text trailing
  have nonempty : current.toList ≠ [] := fun none => filled (String.toList_eq_nil_iff.mp none)
  have last := List.getLast?_eq_some_getLast nonempty
  refine ⟨_, ?_, whole _ (List.mem_of_getLast? last)⟩
  rw [ends.resolve_left filled, List.append_nil, List.getLast?_append, List.getLast?_append, last]
  rfl

end LaidOut

-- From the end of the line to its start: a blank joins the run in front, another character the word
-- that it touches.
theorem exists_laidOut (line : List Char) : ∃ words current, LaidOut words current line := by
  suffices parts : ∃ leading words text current, line = leading ++ (text ++ current) ∧
      (∀ c ∈ leading, isBlank c = true) ∧ Spaced words text ∧ ∀ c ∈ current, isBlank c = false by
    obtain ⟨leading, words, text, current, rfl, before, spaced, whole⟩ := parts
    have laid : LaidOut words (.ofList current) (leading ++ (text ++ ((String.ofList current).toList ++ []))) :=
      .mk before spaced (by simpa using whole) (by simp) (.inr rfl)
    exact ⟨words, .ofList current, by simpa using laid⟩
  induction line with
  | nil => exact ⟨[], [], [], [], rfl, by simp, .nil, by simp⟩
  | cons c rest ih =>
    obtain ⟨leading, words, text, current, rfl, before, spaced, whole⟩ := ih
    by_cases blank : isBlank c = true
    · exact ⟨c :: leading, words, text, current, rfl, List.forall_mem_cons.mpr ⟨blank, before⟩, spaced, whole⟩
    rw [Bool.not_eq_true] at blank
    cases leading with
    | cons d run =>
      have isWord : IsWord (.ofList [c]) := by simp [IsWord, blank]
      refine ⟨[], .ofList [c] :: words, c :: d :: run ++ text, current, by simp, by simp, ?_, whole⟩
      simpa using Spaced.cons isWord (List.cons_ne_nil d run) before spaced
    | nil =>
      cases spaced with
      | nil => exact ⟨[], [], [], c :: current, rfl, by simp, .nil, List.forall_mem_cons.mpr ⟨blank, whole⟩⟩
      | @cons word others gap text isWord filled gapBlank spaced =>
        have isLonger : IsWord (.ofList (c :: word.toList)) := by
          rw [IsWord, String.toList_ofList]
          exact ⟨List.cons_ne_nil _ _, List.forall_mem_cons.mpr ⟨blank, isWord.2⟩⟩
        refine ⟨[], .ofList (c :: word.toList) :: others, c :: word.toList ++ (gap ++ text), current, by simp, by simp, ?_, whole⟩
        simpa using Spaced.cons isLonger filled gapBlank spaced

end Text

namespace Request

section

variable {line : String} {request : Request}

theorem ofLine?_eq_none : ofLine? line = none ↔
    Text.words line = [] ∨ (Text.words line).length = 1 ∧ endsBlank line = false := by
  unfold ofLine?
  cases Text.words line with
  | nil => simp
  | cons program rest =>
    cases ends : endsBlank line with
    | true => simp
    | false =>
      rcases List.eq_nil_or_concat rest with rfl | ⟨front, last, rfl⟩
      · simp
      · simp

theorem ofLine?_eq_some : ofLine? line = some request ↔
    if endsBlank line then Text.words line = request.program :: request.typed ∧ request.current = ""
    else Text.words line = request.program :: (request.typed ++ [request.current]) := by
  obtain ⟨program, typed, current⟩ := request
  unfold ofLine?
  cases Text.words line with
  | nil => simp
  | cons first rest =>
    cases ends : endsBlank line with
    | true => simp [and_assoc, eq_comm]
    | false =>
      rcases List.eq_nil_or_concat rest with rfl | ⟨front, last, rfl⟩
      · simp
      · simp

end

def WrittenAs (request : Request) (line : String) : Prop :=
  Text.LaidOut (request.program :: request.typed) request.current line.toList

section

variable {line : String} {words : List String} {current : String}

theorem endsBlank_of_filled (laid : Text.LaidOut words current line.toList) (filled : current ≠ "") :
    endsBlank line = false := by
  obtain ⟨c, last, whole⟩ := laid.ends_whole filled
  rw [endsBlank, last]
  exact whole

theorem endsBlank_of_empty (laid : Text.LaidOut words "" line.toList) (some : Text.words line ≠ []) :
    endsBlank line = true := by
  have nonempty : line.toList ≠ [] := by
    intro none
    rw [Text.words, none] at some
    exact some rfl
  have last := List.getLast?_eq_some_getLast nonempty
  rw [endsBlank, last]
  exact laid.ends_blank _ last

theorem ofLine?_laidOut (laid : Text.LaidOut words current line.toList) :
    ofLine? line = match words with
      | [] => none
      | program :: typed => some ⟨program, typed, current⟩ := by
  have read : Text.words line = words ++ if current = "" then [] else [current] := laid.words_eq
  cases words with
  | nil =>
    refine ofLine?_eq_none.mpr ?_
    by_cases empty : current = ""
    · simp [read, empty]
    · simp [read, empty, endsBlank_of_filled laid empty]
  | cons program typed =>
    refine ofLine?_eq_some.mpr ?_
    by_cases empty : current = ""
    · subst empty
      simp [read, endsBlank_of_empty laid (by simp [read])]
    · simp [read, empty, endsBlank_of_filled laid empty]

end

theorem ofLine?_inverts_writing (line : String) :
    (ofLine? line = none ↔ Text.words line = [] ∨ (Text.words line).length = 1 ∧ endsBlank line = false) ∧
    ∀ request,
      (ofLine? line = some request ↔
        if endsBlank line then Text.words line = request.program :: request.typed ∧ request.current = ""
        else Text.words line = request.program :: (request.typed ++ [request.current])) ∧
      (ofLine? line = some request ↔ request.WrittenAs line) := by
  refine ⟨ofLine?_eq_none, fun request => ⟨ofLine?_eq_some, fun read => ?_, fun written => ofLine?_laidOut written⟩⟩
  obtain ⟨words, current, laid⟩ := Text.exists_laidOut line.toList
  rw [ofLine?_laidOut laid] at read
  cases words with
  | nil => cases read
  | cons program typed =>
    cases read
    exact laid

example : ofLine? " git\t push  or" = some ⟨"git", ["push"], "or"⟩ ∧
    ofLine? "git push\u00a0\t" = some ⟨"git", ["push"], ""⟩ ∧ ofLine? " git" = none := by decide

end Request

end CompletionRules
