import CompletionRules.Proofs.Table.Overtaking

-- When two patterns are in each other's way. Precedence is a strict partial order that leaves no such pair
-- undecided, and pairs that it leaves undecided cannot meet.

namespace CompletionRules.Pattern

variable {first second : Pattern}

def Conflicts (first second : Pattern) : Prop := ∃ typed, first.Matches typed ∧ second.Matches typed

theorem Conflicts.not_clashes (conflict : Conflicts first second) : ¬ Clashes first second := by
  obtain ⟨typed, one, two⟩ := conflict
  rintro ⟨place, left, right, here, there, differ⟩
  have typedThere := one.2 place left here
  rw [two.2 place right there] at typedThere
  exact differ (Option.some.inj typedThere).symm

theorem exists_accepted {token other : Token}
    (alike : ∀ left right, token = .word left → other = .word right → left = right) :
    ∃ word, token.accepts word = true ∧ other.accepts word = true := by
  cases token with
  | any =>
    cases other with
    | any => exact ⟨"", rfl, rfl⟩
    | word right => exact ⟨right, rfl, beq_self_eq_true right⟩
  | word left =>
    refine ⟨left, beq_self_eq_true left, ?_⟩
    cases other with
    | any => rfl
    | word right => simp [Token.accepts, alike left right rfl rfl]

theorem conflicts_of_not_clashes (level : first.length = second.length) (free : ¬ Clashes first second) :
    Conflicts first second := by
  induction first generalizing second with
  | nil =>
    cases second with
    | nil => exact ⟨[], by simp [Matches], by simp [Matches]⟩
    | cons other others => cases level
  | cons token rest ih =>
    obtain _ | ⟨other, others⟩ := second
    · cases level
    have alike : ∀ left right, token = .word left → other = .word right → left = right := by
      rintro left right rfl rfl
      by_contra differ
      exact free ⟨0, left, right, rfl, rfl, differ⟩
    have tailsFree : ¬ Clashes rest others := by
      rintro ⟨place, left, right, here, there, differ⟩
      exact free ⟨place + 1, left, right, by simpa using here, by simpa using there, differ⟩
    obtain ⟨word, one, two⟩ := exists_accepted alike
    obtain ⟨typed, below, beside⟩ := ih (Nat.succ.inj level) tailsFree
    exact ⟨word :: typed, matches_cons.mpr ⟨one, below⟩, matches_cons.mpr ⟨two, beside⟩⟩

theorem conflicts_iff (level : first.length = second.length) : Conflicts first second ↔ ¬ Clashes first second :=
  ⟨Conflicts.not_clashes, conflicts_of_not_clashes level⟩

theorem Conflicts.decided (conflict : Conflicts first second) (differ : first ≠ second) :
    (first.mustPrecede second = true ∧ second.mustPrecede first = false) ∨
      (second.mustPrecede first = true ∧ first.mustPrecede second = false) := by
  obtain ⟨typed, one, two⟩ := conflict
  rcases accepted_comparable (accepts_exact.mpr one) (accepts_exact.mpr two) differ with ahead | behind
  · exact .inl ⟨ahead, mustPrecede_asymm ahead⟩
  · exact .inr ⟨behind, mustPrecede_asymm behind⟩

-- Precedence is a strict partial order: a word is tried before the any-token where two patterns first
-- part. Of two patterns of one length that differ it puts exactly one first, if some words satisfy both.
theorem mustPrecede_settles_conflicts :
    (∀ first second, mustPrecede first second = true ↔ Outranks first second) ∧
    (∀ pattern, mustPrecede pattern pattern = false) ∧
    (∀ first second, mustPrecede first second = true → mustPrecede second first = false) ∧
    (∀ first second third, mustPrecede first second = true → mustPrecede second third = true →
      mustPrecede first third = true) ∧
    ∀ first second : Pattern, first.length = second.length →
      (Conflicts first second ↔ ¬ Clashes first second) ∧
      (Conflicts first second → first ≠ second →
        (mustPrecede first second = true ∧ mustPrecede second first = false) ∨
          (mustPrecede second first = true ∧ mustPrecede first second = false)) :=
  ⟨fun _ _ => mustPrecede_exact, mustPrecede_irrefl, fun _ _ => mustPrecede_asymm, fun _ _ _ => mustPrecede_trans,
    fun _ _ level => ⟨conflicts_iff level, fun conflict differ => conflict.decided differ⟩⟩

theorem push_conflict_settled :
    Conflicts [.word "git", .any] [.any, .word "push"] ∧
    ¬ Clashes [.word "git", .any] [.any, .word "push"] ∧
    mustPrecede [.word "git", .any] [.any, .word "push"] = true ∧
    mustPrecede [.any, .word "push"] [.word "git", .any] = false := by
  obtain ⟨outranks_iff, _, asymm, _, settles⟩ := mustPrecede_settles_conflicts
  have ahead : mustPrecede [.word "git", .any] [.any, .word "push"] = true :=
    (outranks_iff _ _).mpr ⟨[], "git", [.any], [.word "push"], rfl, rfl⟩
  have meets : Conflicts [.word "git", .any] [.any, .word "push"] :=
    ⟨["git", "push"], accepts_exact.mp (by decide), accepts_exact.mp (by decide)⟩
  obtain ⟨meets_iff, decides⟩ := settles [.word "git", .any] [.any, .word "push"] rfl
  rcases decides meets (by decide) with ⟨_, back⟩ | ⟨back, _⟩
  · exact ⟨meets, meets_iff.mp meets, ahead, back⟩
  · cases (asymm _ _ ahead).symm.trans back

end CompletionRules.Pattern
