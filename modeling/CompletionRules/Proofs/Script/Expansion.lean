import Mathlib.Data.List.Forall2
import Mathlib.Data.List.Infix
import CompletionRules.Proofs.Script.Elements

-- No word of a list is expanded before it is offered. One that is quoted is out of the shell's reach, and
-- of those left bare none has a character that sets off an expansion and none starts with a tilde.

namespace CompletionRules.Script

def Mark.bare (c : Char) : Mark := ⟨c, false⟩

theorem Mark.bare_injective : Function.Injective Mark.bare := fun _ _ same => congrArg Mark.char same

def IsName (name : List Char) : Prop :=
  name ≠ [] ∧ (∀ c ∈ name, c.isAlphanum = true ∨ c = '_') ∧ ∀ c ∈ name.head?, c.isDigit = false

def AssignsTilde (word : List Char) : Prop :=
  ∃ name value, IsName name ∧ word = name ++ '=' :: value ∧ (value.head? = some '~' ∨ [':', '~'] <:+: value)

theorem AssignsTilde.needsNoQuotes {word : List Char} (assigns : AssignsTilde word)
    (plain : ∀ c ∈ word, isSpecial c = false) : needsQuotes word = false := by
  obtain ⟨name, value, ⟨filled, letters, _⟩, rfl, _⟩ := assigns
  obtain ⟨first, others, rfl⟩ := List.exists_cons_of_ne_nil filled
  have unlike (mark : Char) (other : ¬(mark.isAlphanum = true ∨ mark = '_')) :
      (first :: others ++ '=' :: value).head? ≠ some mark := by
    intro starts
    cases starts
    exact other (letters first (by simp))
  exact needsQuotes_false.mpr ⟨by simp, plain, unlike '~' (by decide), unlike '#' (by decide)⟩

namespace Element

def expanding : List Char := ['$', '\x60', '*', '?', '[', ']', '\x7b', '\x7d']

def Expands (element : Element) : Prop :=
  (∃ c ∈ expanding, .bare c ∈ element) ∨ element.head? = some (.bare '~')

-- Only what stands bare counts, the colon before a tilde apart.
def AssignsTilde (element : Element) : Prop :=
  ∃ name value, IsName name ∧ element = name.map .bare ++ .bare '=' :: value ∧
    (value.head? = some (.bare '~') ∨ ∃ colon : Mark, colon.char = ':' ∧ [colon, .bare '~'] <:+: value)

-- The shell looks for assignments among the arguments of a command. It does not among the elements of an
-- array that is being set.
def ExpandsAsArgument (element : Element) : Prop := element.Expands ∨ element.AssignsTilde

theorem Expands.bare {element : Element} (expands : element.Expands) : ∃ c, .bare c ∈ element := by
  rcases expands with ⟨c, _, member⟩ | starts
  · exact ⟨c, member⟩
  · exact ⟨'~', List.mem_of_mem_head? starts⟩

theorem AssignsTilde.bare {element : Element} (assigns : element.AssignsTilde) : ∃ c, .bare c ∈ element := by
  obtain ⟨name, value, _, rfl, _⟩ := assigns
  exact ⟨'=', by simp⟩

theorem head?_bare {word : List Char} {c : Char} : (word.map Mark.bare).head? = some (.bare c) ↔ word.head? = some c := by
  rw [List.head?_map, Option.map_eq_some_iff]
  constructor
  · rintro ⟨d, first, same⟩
    cases Mark.bare_injective same
    exact first
  · intro first
    exact ⟨c, first, rfl⟩

theorem assignsTilde_bare {word : List Char} :
    AssignsTilde (word.map .bare) ↔ Script.AssignsTilde word := by
  constructor
  · rintro ⟨name, value, isName, parts, tilde⟩
    obtain ⟨front, back, rfl, sameName, rest⟩ := List.map_eq_append_iff.mp parts
    obtain ⟨c, written, rfl, equals, rfl⟩ := List.map_eq_cons_iff.mp rest
    cases List.map_injective_iff.mpr Mark.bare_injective sameName
    cases Mark.bare_injective equals
    refine ⟨_, written, isName, rfl, ?_⟩
    rcases tilde with starts | ⟨colon, isColon, within⟩
    · exact .inl (head?_bare.mp starts)
    · refine .inr ?_
      obtain ⟨inner, inside, same⟩ := List.infix_map_iff.mp within
      obtain ⟨c, others, rfl, rfl, more⟩ := List.map_eq_cons_iff.mp same.symm
      obtain ⟨tilde, nothing, rfl, isTilde, ended⟩ := List.map_eq_cons_iff.mp more
      cases List.map_eq_nil_iff.mp ended
      cases Mark.bare_injective isTilde
      cases isColon
      exact inside
  · rintro ⟨name, value, isName, rfl, tilde⟩
    refine ⟨name, value.map .bare, isName, by simp, ?_⟩
    rcases tilde with starts | within
    · exact .inl (head?_bare.mpr starts)
    · exact .inr ⟨.bare ':', rfl, within.map Mark.bare⟩

theorem elementOf_quoted {word : String} (quotes : needsQuotes word.toList = true) (c : Char) :
    Mark.bare c ∉ elementOf word := by
  simp [elementOf, quotes, Mark.bare]

theorem elementOf_bare {word : String} (bare : needsQuotes word.toList = false) :
    elementOf word = word.toList.map .bare := by
  rw [elementOf, bare]
  rfl

theorem not_expands_elementOf (word : String) : ¬(elementOf word).Expands := by
  intro expands
  cases quotes : needsQuotes word.toList with
  | true =>
    obtain ⟨c, member⟩ := expands.bare
    exact elementOf_quoted quotes c member
  | false =>
    obtain ⟨_, plain, noTilde, _⟩ := needsQuotes_false.mp quotes
    have special : expanding.all isSpecial = true := by decide
    rw [elementOf_bare quotes] at expands
    rcases expands with ⟨c, sets, member⟩ | starts
    · have marked := plain c ((List.mem_map_of_injective Mark.bare_injective).mp member)
      rw [List.all_eq_true.mp special c sets] at marked
      cases marked
    · exact noTilde (head?_bare.mp starts)

theorem assignsTilde_elementOf (word : String) : (elementOf word).AssignsTilde ↔
    (∀ c ∈ word.toList, isSpecial c = false) ∧ Script.AssignsTilde word.toList := by
  cases quotes : needsQuotes word.toList with
  | true =>
    constructor
    · intro assigns
      obtain ⟨c, member⟩ := assigns.bare
      exact absurd member (elementOf_quoted quotes c)
    · rintro ⟨plain, assigns⟩
      rw [assigns.needsNoQuotes plain] at quotes
      cases quotes
  | false =>
    rw [elementOf_bare quotes, assignsTilde_bare]
    exact (and_iff_right (needsQuotes_false.mp quotes).2.1).symm

theorem expandsAsArgument_elementOf (word : String) : (elementOf word).ExpandsAsArgument ↔
    (∀ c ∈ word.toList, isSpecial c = false) ∧ Script.AssignsTilde word.toList := by
  rw [ExpandsAsArgument, or_iff_right (not_expands_elementOf word), assignsTilde_elementOf]

end Element

end CompletionRules.Script
