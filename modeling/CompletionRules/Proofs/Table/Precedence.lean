import CompletionRules.Table.Order

-- Which of two patterns has to be tried first. Where two patterns that apply to one command line first differ,
-- one has a word and the other the any-token: precedence decides every real conflict.

namespace CompletionRules.Pattern

def Matches (pattern : Pattern) (typed : List String) : Prop :=
  pattern.length = typed.length ∧
    ∀ (place : Nat) (text : String), pattern[place]? = some (.word text) → typed[place]? = some text

def Outranks (first second : Pattern) : Prop :=
  ∃ shared text rest others, first = shared ++ .word text :: rest ∧ second = shared ++ .any :: others

theorem matches_cons {token : Token} {tokens : Pattern} {word : String} {others : List String} :
    Matches (token :: tokens) (word :: others) ↔ token.accepts word = true ∧ Matches tokens others := by
  constructor
  · rintro ⟨sameLength, spelled⟩
    refine ⟨?_, by simpa using sameLength, fun place text asked => ?_⟩
    · cases token with
      | any => rfl
      | word text =>
        have typed := spelled 0 text rfl
        simp only [List.getElem?_cons_zero, Option.some.injEq] at typed
        simp [Token.accepts, typed]
    · simpa using spelled (place + 1) text (by simpa using asked)
  · rintro ⟨accepted, sameLength, spelled⟩
    refine ⟨by simpa using sameLength, fun place text asked => ?_⟩
    cases place with
    | zero =>
      simp only [List.getElem?_cons_zero, Option.some.injEq] at asked
      subst asked
      simp only [Token.accepts, beq_iff_eq] at accepted
      simp [accepted]
    | succ place => simpa using spelled place text (by simpa using asked)

theorem accepts_exact {pattern : Pattern} {typed : List String} :
    pattern.accepts typed = true ↔ pattern.Matches typed := by
  induction pattern generalizing typed with
  | nil => cases typed <;> simp [accepts, Matches]
  | cons token tokens ih =>
    cases typed with
    | nil => simp [accepts, Matches]
    | cons word others => rw [matches_cons, ← ih]; simp [accepts]

theorem mustPrecede_cons_self (token : Token) (first second : Pattern) :
    mustPrecede (token :: first) (token :: second) = mustPrecede first second := by
  simp [mustPrecede]

theorem mustPrecede_exact {first second : Pattern} :
    first.mustPrecede second = true ↔ first.Outranks second := by
  constructor
  · intro precedes
    induction first generalizing second with
    | nil => simp [mustPrecede] at precedes
    | cons token tokens ih =>
      cases second with
      | nil => simp [mustPrecede] at precedes
      | cons other others =>
        by_cases same : token = other
        · subst same
          rw [mustPrecede_cons_self] at precedes
          obtain ⟨shared, text, rest, further, rfl, rfl⟩ := ih precedes
          exact ⟨token :: shared, text, rest, further, rfl, rfl⟩
        · cases token with
          | any => simp [mustPrecede, same] at precedes
          | word text =>
            cases other with
            | word _ => simp [mustPrecede, same] at precedes
            | any => exact ⟨[], text, tokens, others, rfl, rfl⟩
  · rintro ⟨shared, text, rest, others, rfl, rfl⟩
    induction shared with
    | nil => simp [mustPrecede]
    | cons token shared ih => simpa [mustPrecede] using ih

example : mustPrecede [.word "git", .any] [.any, .word "push"] = true ∧
    mustPrecede [.word "git", .word "push"] [.word "npm", .any] = false := by decide

theorem mustPrecede_irrefl (pattern : Pattern) : pattern.mustPrecede pattern = false := by
  induction pattern with
  | nil => rfl
  | cons token tokens ih => rw [mustPrecede_cons_self, ih]

theorem mustPrecede_trans {first second third : Pattern} (one : first.mustPrecede second = true)
    (two : second.mustPrecede third = true) : first.mustPrecede third = true := by
  induction first generalizing second third with
  | nil => simp [mustPrecede] at one
  | cons a rest ih =>
    obtain _ | ⟨b, others⟩ := second
    · simp [mustPrecede] at one
    obtain _ | ⟨c, further⟩ := third
    · simp [mustPrecede] at two
    -- The place that decides for `first` and `third` is the earlier of the two deciding places.
    by_cases left : a = b
    · subst left
      rw [mustPrecede_cons_self] at one
      by_cases right : a = c
      · subst right
        rw [mustPrecede_cons_self] at two ⊢
        exact ih one two
      · cases a <;> cases c <;> simp_all [mustPrecede]
    · cases a <;> cases b <;> cases c <;> simp_all [mustPrecede]

theorem mustPrecede_asymm {first second : Pattern} (precedes : first.mustPrecede second = true) :
    second.mustPrecede first = false := by
  cases back : second.mustPrecede first with
  | false => rfl
  | true =>
    have circle := mustPrecede_trans precedes back
    rw [mustPrecede_irrefl] at circle
    cases circle

theorem accepted_comparable {first second : Pattern} {typed : List String}
    (one : first.accepts typed = true) (two : second.accepts typed = true) (differ : first ≠ second) :
    first.mustPrecede second = true ∨ second.mustPrecede first = true := by
  induction first generalizing second typed with
  | nil => cases typed <;> cases second <;> simp_all [accepts]
  | cons a rest ih =>
    obtain _ | ⟨word, others⟩ := typed
    · simp [accepts] at one
    obtain _ | ⟨b, further⟩ := second
    · simp [accepts] at two
    simp only [accepts, Bool.and_eq_true] at one two
    by_cases same : a = b
    · subst same
      simp only [mustPrecede_cons_self]
      exact ih one.2 two.2 (by simpa using differ)
    · cases a <;> cases b <;> simp_all [mustPrecede, Token.accepts]

end CompletionRules.Pattern
