import CompletionRules.Proofs.Candidates.Plain

-- What a table offers on a line is settled before the word under the cursor is looked at. A command is run for
-- it at most once; what runs commands may meanwhile look at the world and change it.

namespace CompletionRules

variable {σ : Type}

structure Supply (σ : Type) where
  candidates : List String
  commands : List String
  world : σ
  deriving Repr, DecidableEq

namespace Supply

def startingWith (current : String) (candidates : List String) : List String :=
  candidates.filter fun candidate => current.toList <+: candidate.toList

inductive From (run : String → StateM σ (Option String)) (world : σ) : Option Entry → Supply σ → Prop where
  | noEntry : From run world none ⟨[], [], world⟩
  | words {entry : Entry} {listed : List String} (lists : entry.source = .words listed) :
      From run world (some entry) ⟨listed.filter fun word => IsPlain word, [], world⟩
  | blankCommand {entry : Entry} {command : String} (asks : entry.source = .command command)
      (blank : ∀ c ∈ command.toList, Text.isBlank c = true) : From run world (some entry) ⟨[], [], world⟩
  | output {entry : Entry} {command text : String} {after : σ} (asks : entry.source = .command command)
      (filled : ¬∀ c ∈ command.toList, Text.isBlank c = true) (ran : run command world = (some text, after)) :
      From run world (some entry) ⟨Text.words text, [command], after⟩
  | failure {entry : Entry} {command : String} {after : σ} (asks : entry.source = .command command)
      (filled : ¬∀ c ∈ command.toList, Text.isBlank c = true) (ran : run command world = (none, after)) :
      From run world (some entry) ⟨[], [command], after⟩

theorem startingWith_append (current more : String) (candidates : List String) :
    startingWith (current ++ more) candidates = startingWith (current ++ more) (startingWith current candidates) := by
  rw [startingWith, startingWith, startingWith, List.filter_filter]
  refine List.filter_congr fun candidate _ => ?_
  have shorter : (current ++ more).toList <+: candidate.toList → current.toList <+: candidate.toList := by
    rw [String.toList_append]
    exact (List.prefix_append _ _).trans
  rw [← Bool.decide_and, decide_eq_decide]
  exact ⟨fun starts => ⟨starts, shorter starts⟩, And.left⟩

theorem From.congr {run other : String → StateM σ (Option String)} {world : σ} {found : Option Entry}
    {supply : Supply σ} (settled : From run world found supply)
    (agree : ∀ command ∈ supply.commands, other command world = run command world) :
    From other world found supply := by
  cases settled with
  | noEntry => exact .noEntry
  | words lists => exact .words lists
  | blankCommand asks blank => exact .blankCommand asks blank
  | output asks filled ran => exact .output asks filled ((agree _ (by simp)).trans ran)
  | failure asks filled ran => exact .failure asks filled ((agree _ (by simp)).trans ran)

end Supply

def recording (run : String → StateM σ (Option String)) (command : String) :
    StateM (List String × σ) (Option String) := fun (commands, world) =>
  let (output, after) := run command world
  (output, commands ++ [command], after)

namespace Table

variable {run : String → StateM σ (Option String)} {supply : Supply σ}

-- A supply is for what the table holds about the line, and there is always one.
theorem supply_exists (table : Table) (program : String) (typed : List String)
    (run : String → StateM σ (Option String)) (world : σ) :
    ∃ supply, Supply.From run world (table.find? program typed) supply := by
  cases table.find? program typed with
  | none => exact ⟨_, .noEntry⟩
  | some entry =>
    cases asks : entry.source with
    | words listed => exact ⟨_, .words asks⟩
    | command command =>
      by_cases blank : ∀ c ∈ command.toList, Text.isBlank c = true
      · exact ⟨_, .blankCommand asks blank⟩
      · obtain ⟨⟨output, after⟩, ran⟩ : ∃ result, run command world = result := ⟨_, rfl⟩
        cases output with
        | none => exact ⟨_, .failure asks blank ran⟩
        | some text => exact ⟨_, .output asks blank ran⟩

theorem complete_offer (table : Table) (program : String) (typed : List String) (world : σ) (current : String)
    (commands : List String) : (table.complete (recording run) ⟨program, typed, current⟩).run (commands, world) =
      match table.offer program typed with
      | .fixed words => (Supply.startingWith current words, commands, world)
      | .outputOf command =>
        (Supply.startingWith current (((run command world).1.map Text.words).getD []), commands ++ [command],
          (run command world).2) := by
  have picked (words : List String) : words.filter (fun candidate => current.toList.isPrefixOf candidate.toList) =
      Supply.startingWith current words := by
    refine List.filter_congr fun candidate _ => ?_
    rw [Bool.eq_iff_iff, List.isPrefixOf_iff_prefix, decide_eq_true_iff]
  rw [complete]
  simp only [picked]
  cases table.offer program typed with
  | fixed words => rfl
  | outputOf command => rfl

theorem complete_supply {table : Table} {program : String} {typed : List String} {world : σ}
    (settled : Supply.From run world (table.find? program typed) supply) (current : String) (commands : List String) :
    (table.complete (recording run) ⟨program, typed, current⟩).run (commands, world) =
      (Supply.startingWith current supply.candidates, commands ++ supply.commands, supply.world) := by
  rw [complete_offer, offer]
  have blank_iff (command : String) : Text.isAllBlank command = true ↔ ∀ c ∈ command.toList, Text.isBlank c = true :=
    List.all_eq_true
  generalize table.find? program typed = found at settled
  cases settled with
  | noEntry => simp
  | words lists => simp [Source.offer, lists, Candidates.ofWords_plain]
  | blankCommand asks blank => simp [Source.offer, asks, (blank_iff _).mpr blank]
  | output asks filled ran => simp [Source.offer, asks, mt (blank_iff _).mp filled, ran]
  | failure asks filled ran => simp [Source.offer, asks, mt (blank_iff _).mp filled, ran]

theorem complete_picks_from_supply (table : Table) (program : String) (typed : List String)
    (run : String → StateM σ (Option String)) (world : σ) :
    ∃ supply, Supply.From run world (table.find? program typed) supply ∧
      (∀ current commands, (table.complete (recording run) ⟨program, typed, current⟩).run (commands, world) =
        (Supply.startingWith current supply.candidates, commands ++ supply.commands, supply.world)) ∧
      (∀ current more commands,
        (table.complete (recording run) ⟨program, typed, current ++ more⟩).run (commands, world) =
          ((table.complete (recording run) ⟨program, typed, current⟩).run (commands, world)).map
            (Supply.startingWith (current ++ more)) id) ∧
      ∀ other : String → StateM σ (Option String),
        (∀ command ∈ supply.commands, other command world = run command world) → ∀ current commands,
          (table.complete (recording other) ⟨program, typed, current⟩).run (commands, world) =
            (table.complete (recording run) ⟨program, typed, current⟩).run (commands, world) := by
  obtain ⟨supply, settled⟩ := table.supply_exists program typed run world
  refine ⟨supply, settled, complete_supply settled, ?_, ?_⟩
  · intro current more commands
    rw [complete_supply settled, complete_supply settled, Supply.startingWith_append]
    rfl
  · intro other agree current commands
    rw [complete_supply settled, complete_supply (settled.congr agree)]

def switchTable : Table := ⟨[⟨[.word "git", .word "switch"], .command "branches", ["git switch"]⟩], [], ["git"]⟩

def runBranches (command : String) : StateM Nat (Option String) := fun count =>
  (if command = "branches" then some "main dev\nmain\n" else none, count + 1)

def runAnything (_ : String) : StateM Nat (Option String) := fun count => (some "main dev\nmain\n", count + 1)

theorem switchTable_picks :
    (∀ command ∈ ["branches"], runAnything command 0 = runBranches command 0) ∧
    (switchTable.complete (recording runBranches) ⟨"git", ["switch"], "m"⟩).run ([], 0) =
      (["main", "main"], ["branches"], 1) ∧
    (switchTable.complete (recording runAnything) ⟨"git", ["switch"], "m"⟩).run ([], 0) =
      (["main", "main"], ["branches"], 1) := by
  obtain ⟨supply, _, picks, _, agrees⟩ := complete_picks_from_supply switchTable "git" ["switch"] runBranches 0
  have alike : ∀ command ∈ ["branches"], runAnything command 0 = runBranches command 0 := by
    intro command member
    rw [List.mem_singleton.mp member]
    rfl
  have asked : switchTable.offer "git" ["switch"] = .outputOf "branches" := by decide
  have completed : (switchTable.complete (recording runBranches) ⟨"git", ["switch"], "m"⟩).run ([], 0) =
      (["main", "main"], ["branches"], 1) := by
    have output : runBranches "branches" 0 = (some "main dev\nmain\n", 1) := rfl
    have picked : Supply.startingWith "m" (Text.words "main dev\nmain\n") = ["main", "main"] := by decide
    rw [complete_offer, asked]
    simp only [output, Option.map_some, Option.getD_some, picked]
    rfl
  have ran : supply.commands = ["branches"] := by
    have parts := (picks "m" []).symm.trans completed
    exact (Prod.mk.inj (Prod.mk.inj parts).2).1
  exact ⟨alike, completed, (agrees runAnything (by rw [ran]; exact alike) "m" []).trans completed⟩

end Table

end CompletionRules
