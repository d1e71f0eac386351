import CompletionRules.Host.Desk
import CompletionRules.Proofs.Rules.Pairs

-- What a write changes: the one place that its path leads to, which is no directory.

namespace CompletionRules

namespace FileSystem

variable {files after : FileSystem} {path text : String} {location other : Location} {node : FileNode}

theorem node?_put_same (inside : location ≠ []) : (files.put location node).node? location = some node := by
  cases location with
  | nil => exact absurd rfl inside
  | cons => exact Pairs.find?_erase_append _ _ _

theorem node?_put_other (unlike : location ≠ other) : (files.put location node).node? other = files.node? other := by
  cases other with
  | nil => rfl
  | cons =>
    unfold node? put
    rw [Pairs.find?_append_other unlike, Pairs.find?_erase_other unlike]

theorem inside_of_leaf (leaf : files.node? location ≠ some .directory) : location ≠ [] := by
  rintro rfl
  exact leaf rfl

theorem put_put (first second : FileNode) :
    (files.put location first).put location second = files.put location second := by
  simp only [put, Pairs.erase_erase_append]

theorem write_parts (written : files.write path text = .ok after) :
    ∃ location, files.locate path = .ok location ∧ Path.endsInSlash path = false ∧
      files.node? location ≠ some .directory ∧ after = files.put location (.file text) := by
  unfold write at written
  split at written
  · cases written
  · rename_i location located
    split at written
    · cases written
    · rename_i free
      cases written
      simp only [Bool.or_eq_true, decide_eq_true_eq, not_or, Bool.not_eq_true] at free
      exact ⟨location, located, free.1, free.2, rfl⟩

theorem read_parts (readable : files.read path = .ok text) : ∃ location, files.locate path = .ok location ∧
    Path.endsInSlash path = false ∧ files.node? location = some (.file text) := by
  unfold read look at readable
  split at readable
  · cases readable
  · cases readable
  · rename_i looked
    cases readable
    split at looked
    · cases looked
    · rename_i location located
      split at looked
      · cases looked
      · cases looked
      · rename_i held
        split at looked
        · cases looked
        · rename_i unslashed
          cases looked
          exact ⟨location, located, by simpa using unslashed, held⟩

theorem read_writable (readable : files.read path = .ok text) (other : String) :
    ∃ after, files.write path other = .ok after := by
  obtain ⟨location, located, unslashed, held⟩ := read_parts readable
  exact ⟨_, by simp only [write, located, unslashed, held]; rfl⟩

theorem write_elsewhere (written : files.write path text = .ok after) (apart : files.locate path ≠ .ok other) :
    after.node? other = files.node? other := by
  obtain ⟨location, located, _, _, rfl⟩ := write_parts written
  apply node?_put_other
  rintro rfl
  exact apart located

theorem node?_of_free (free : files.holds path = false) (unslashed : Path.endsInSlash path = false)
    (located : files.locate path = .ok location) : files.node? location = none := by
  cases found : files.node? location with
  | none => rfl
  | some held => cases held <;> simp [holds, look, located, found, unslashed] at free

theorem write_spares_existing (written : files.write path text = .ok after) (free : files.holds path = false)
    (existing : files.node? other = some node) : after.node? other = some node := by
  obtain ⟨location, located, unslashed, _, rfl⟩ := write_parts written
  have missing := node?_of_free free unslashed located
  rw [node?_put_other, existing]
  rintro rfl
  rw [missing] at existing
  cases existing

theorem step_directory {next : Location} {component : String} (stepped : files.step location component = .ok next) :
    files.node? location = some .directory := by
  unfold step at stepped
  split at stepped
  · cases stepped
  · cases stepped
  · assumption

-- Which places are directories decides where paths lead, and nothing else does.
structure SameDirectories (files after : FileSystem) : Prop where
  start : after.workingDirectory = files.workingDirectory
  directories : ∀ location, after.node? location = some .directory ↔ files.node? location = some .directory

theorem isDirectory_iff : files.isDirectory path = true ↔
    ∃ location, files.locate path = .ok location ∧ files.node? location = some .directory := by
  unfold isDirectory look
  cases located : files.locate path with
  | error error => simp
  | ok location =>
    rcases held : files.node? location with _ | _ | text
    · simp [held]
    · simp [held]
    · by_cases slashed : Path.endsInSlash path = true <;> simp [held, slashed]

theorem isDirectory_of_free (free : files.holds path = false) : files.isDirectory path = false := by
  unfold holds at free
  unfold isDirectory
  split at free
  · cases free
  · rename_i error looked
    rw [looked]

namespace SameDirectories

variable {files after : FileSystem} (same : SameDirectories files after)

include same

theorem step {reached next : Location} {component : String} :
    after.step reached component = .ok next ↔ files.step reached component = .ok next := by
  have kept := same.directories reached
  by_cases directory : files.node? reached = some .directory
  · simp only [FileSystem.step, directory, kept.mpr directory]
  · constructor
    · intro stepped
      exact absurd (kept.mp (step_directory stepped)) directory
    · intro stepped
      exact absurd (step_directory stepped) directory

theorem follow {start reached : Location} {components : List String} :
    after.follow start components = .ok reached ↔ files.follow start components = .ok reached := by
  induction components generalizing start with
  | nil => rfl
  | cons component rest ih =>
    unfold FileSystem.follow
    cases first : files.step start component with
    | ok next =>
      rw [same.step.mpr first]
      exact ih
    | error error =>
      cases second : after.step start component with
      | ok next => cases first.symm.trans (same.step.mp second)
      | error error => simp

theorem locate {path : String} {location : Location} :
    after.locate path = .ok location ↔ files.locate path = .ok location := by
  unfold FileSystem.locate
  rw [same.start]
  split
  · rfl
  · split
    · rfl
    · exact same.follow

theorem isDirectory (path : String) : after.isDirectory path = files.isDirectory path := by
  rw [Bool.eq_iff_iff, isDirectory_iff, isDirectory_iff]
  exact exists_congr fun location => and_congr same.locate (same.directories location)

end SameDirectories

theorem put_sameDirectories (leaf : files.node? location ≠ some .directory) (text : String) :
    SameDirectories files (files.put location (.file text)) where
  start := rfl
  directories := by
    intro other
    by_cases same : location = other
    · subst same
      simp [node?_put_same (inside_of_leaf leaf), leaf]
    · rw [node?_put_other same]

theorem locate_put (leaf : files.node? location ≠ some .directory) :
    (files.put location (.file text)).locate path = .ok other ↔ files.locate path = .ok other :=
  (put_sameDirectories leaf text).locate

theorem read_put (leaf : files.node? location ≠ some .directory) (unslashed : Path.endsInSlash path = false)
    (located : files.locate path = .ok location) : (files.put location (.file text)).read path = .ok text := by
  simp [read, look, (locate_put leaf).mpr located, node?_put_same (inside_of_leaf leaf), unslashed]

theorem write_read (written : files.write path text = .ok after) : after.read path = .ok text := by
  obtain ⟨location, located, unslashed, leaf, rfl⟩ := write_parts written
  exact read_put leaf unslashed located

theorem write_again (written : files.write path text = .ok after) : after.write path text = .ok after := by
  obtain ⟨location, located, unslashed, leaf, rfl⟩ := write_parts written
  simp [write, (locate_put leaf).mpr located, node?_put_same (inside_of_leaf leaf), unslashed, put_put]

theorem isDirectory_write (written : files.write path text = .ok after) (place : String) :
    after.isDirectory place = files.isDirectory place := by
  obtain ⟨location, located, _, leaf, rfl⟩ := write_parts written
  exact (put_sameDirectories leaf text).isDirectory place

theorem read_directory (directory : files.isDirectory path = true) : files.read path = .error .isADirectory := by
  obtain ⟨location, located, held⟩ := isDirectory_iff.mp directory
  simp [read, look, located, held]

section

variable {place : String}

theorem leadToSame_comm (left right : String) : Desk.leadToSame files left right = Desk.leadToSame files right left := by
  unfold Desk.leadToSame
  cases files.locate left <;> cases files.locate right <;> simp [eq_comm]

theorem locate_of_leadToSame (same : Desk.leadToSame files path place = true) (located : files.locate path = .ok location) :
    files.locate place = .ok location := by
  cases found : files.locate place with
  | error error => simp [Desk.leadToSame, located, found] at same
  | ok other =>
    obtain rfl : location = other := by simpa [Desk.leadToSame, located, found] using same
    rfl

theorem look_write (written : files.write path text = .ok after) (apart : Desk.leadToSame files path place = false) :
    after.look place = .ok node ↔ files.look place = .ok node := by
  obtain ⟨location, located, _, leaf, rfl⟩ := write_parts written
  cases found : files.locate place with
  | ok other =>
    have unlike : location ≠ other := by simpa [Desk.leadToSame, located, found] using apart
    rw [look, look, (locate_put leaf).mpr found, found]
    dsimp only
    rw [node?_put_other unlike]
  | error error =>
    cases again : (files.put location (.file text)).locate place with
    | ok other => cases found.symm.trans ((locate_put leaf).mp again)
    | error error => simp [look, found, again]

theorem read_write_held (written : files.write path text = .ok after) (apart : Desk.leadToSame files path place = false)
    (held : files.look place = .ok node) : after.read place = files.read place := by
  rw [read, read, (look_write written apart).mpr held, held]

theorem read_look : files.read place = .ok text ↔ files.look place = .ok (.file text) := by
  unfold read
  split
  · simp_all
  · simp_all
  · simp_all

theorem holds_look : files.holds place = true ↔ ∃ node, files.look place = .ok node := by
  unfold holds
  split
  · simp_all
  · simp_all

theorem holds_write (written : files.write path text = .ok after) (apart : Desk.leadToSame files path place = false) :
    after.holds place = files.holds place := by
  rw [Bool.eq_iff_iff, holds_look, holds_look]
  exact exists_congr fun node => look_write written apart

end

end FileSystem

end CompletionRules
