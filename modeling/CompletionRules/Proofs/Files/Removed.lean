import CompletionRules.Proofs.Files.Change

-- What a removal takes away: the one file that its path leads to. It undoes the write of a file that was new.

namespace CompletionRules.FileSystem

variable {files after : FileSystem} {path other text : String} {location place : Location} {node : FileNode}
  {paths : List String}

theorem node?_drop_same (inside : location ≠ []) : (files.drop location).node? location = none := by
  cases location with
  | nil => exact absurd rfl inside
  | cons => exact Pairs.find?_erase_same _ _

theorem node?_drop_other (unlike : location ≠ place) : (files.drop location).node? place = files.node? place := by
  cases place with
  | nil => rfl
  | cons => exact Pairs.find?_erase_other unlike _

theorem drop_put (free : files.node? location = none) : (files.put location node).drop location = files := by
  have absent : Pairs.find? location files.nodes = none := by
    cases location with
    | nil => cases free
    | cons => exact free
  unfold drop put
  rw [Pairs.erase_erase_append, Pairs.erase_of_absent (Pairs.find?_none absent)]

theorem drop_sameDirectories (leaf : files.node? location ≠ some .directory) :
    SameDirectories files (files.drop location) where
  start := rfl
  directories := by
    intro place
    by_cases same : location = place
    · subst same
      simp [node?_drop_same (inside_of_leaf leaf), leaf]
    · rw [node?_drop_other same]

theorem remove_parts (removed : files.remove path = .ok after) : ∃ location, files.locate path = .ok location ∧
    files.node? location ≠ some .directory ∧ after = files.drop location := by
  unfold remove at removed
  split at removed
  · cases removed
  · cases removed
  · rename_i text looked
    obtain ⟨location, located, _, held⟩ := read_parts (read_look.mpr looked)
    rw [located] at removed
    cases removed
    exact ⟨location, located, by simp [held], rfl⟩

theorem remove_readable (readable : files.read path = .ok text) (located : files.locate path = .ok location) :
    files.remove path = .ok (files.drop location) := by
  rw [remove, read_look.mp readable, located]
  rfl

def without (files : FileSystem) (path : String) : FileSystem :=
  match files.remove path with
  | .ok after => after
  | .error _ => files

theorem without_free (free : files.holds path = false) : files.without path = files := by
  unfold holds at free
  split at free
  · cases free
  · rename_i error looked
    rw [without, remove, looked]

theorem without_sameDirectories (files : FileSystem) (path : String) : SameDirectories files (files.without path) := by
  unfold without
  cases removed : files.remove path with
  | error error => exact ⟨rfl, fun _ => .rfl⟩
  | ok after =>
    obtain ⟨location, _, leaf, rfl⟩ := remove_parts removed
    exact drop_sameDirectories leaf

theorem without_written (written : files.write path text = .ok after) (free : files.holds path = false)
    (alsoFree : files.holds other = false) (unslashed : Path.endsInSlash other = false) :
    after.without other = if Desk.leadToSame files path other then files else after := by
  split
  · rename_i same
    obtain ⟨location, located, unslashedPath, leaf, rfl⟩ := write_parts written
    have beside := locate_of_leadToSame same located
    rw [without, remove_readable (read_put leaf unslashed beside) ((locate_put leaf).mpr beside)]
    exact drop_put (node?_of_free free unslashedPath located)
  · rename_i apart
    apply without_free
    rw [holds_write written (by simpa using apart), alsoFree]

theorem foldl_without_free (free : ∀ path ∈ paths, files.holds path = false) : paths.foldl without files = files := by
  induction paths with
  | nil => rfl
  | cons path rest ih =>
    rw [List.foldl_cons, without_free (free path List.mem_cons_self)]
    exact ih fun other member => free other (List.mem_cons_of_mem _ member)

-- The path of the file may be listed more than once, and other paths may lead to it as well.
theorem foldl_without_written (written : files.write path text = .ok after)
    (free : ∀ other ∈ paths, files.holds other = false ∧ Path.endsInSlash other = false) (member : path ∈ paths) :
    paths.foldl without after = files := by
  have fresh := (free path member).1
  induction paths with
  | nil => cases member
  | cons other rest ih =>
    obtain ⟨alsoFree, unslashed⟩ := free other List.mem_cons_self
    have restFree : ∀ other ∈ rest, files.holds other = false ∧ Path.endsInSlash other = false :=
      fun other member => free other (List.mem_cons_of_mem _ member)
    rw [List.foldl_cons, without_written written fresh alsoFree unslashed]
    split
    · exact foldl_without_free fun path member => (restFree path member).1
    · rename_i apart
      rcases List.mem_cons.mp member with rfl | later
      · obtain ⟨location, located, _⟩ := write_parts written
        simp [Desk.leadToSame, located] at apart
      · exact ih restFree later

def Fits (path : String) : Prop :=
  path.utf8ByteSize ≤ pathLimit ∧ ∀ component ∈ Path.components path, component.utf8ByteSize ≤ nameLimit

instance (path : String) : Decidable (Fits path) := inferInstanceAs (Decidable (_ ∧ _))

def Missing (error : FileError) : Prop := error = .notFound ∨ error = .notADirectory

theorem step_refused {component : String} {error : FileError} (fits : component.utf8ByteSize ≤ nameLimit)
    (refused : files.step location component = .error error) : Missing error := by
  unfold step at refused
  split at refused
  · cases refused
    exact .inl rfl
  · cases refused
    exact .inr rfl
  · rw [if_neg (show ¬ component.utf8ByteSize > nameLimit by omega)] at refused
    split at refused
    · cases refused
    split at refused <;> cases refused

theorem follow_refused {components : List String} {error : FileError}
    (fits : ∀ component ∈ components, component.utf8ByteSize ≤ nameLimit)
    (refused : files.follow location components = .error error) : Missing error := by
  induction components generalizing location with
  | nil => cases refused
  | cons component rest ih =>
    unfold follow at refused
    split at refused
    · rename_i failed
      cases refused
      exact step_refused (fits component List.mem_cons_self) failed
    · exact ih (fun other member => fits other (List.mem_cons_of_mem _ member)) refused

theorem locate_refused {error : FileError} (fits : Fits path) (refused : files.locate path = .error error) :
    Missing error := by
  unfold locate at refused
  split at refused
  · cases refused
    exact .inl rfl
  · rw [if_neg (by have := fits.1; omega)] at refused
    exact follow_refused fits.2 refused

theorem look_refused {error : FileError} (fits : Fits path) (refused : files.look path = .error error) :
    Missing error := by
  unfold look at refused
  split at refused
  · rename_i failed
    cases refused
    exact locate_refused fits failed
  split at refused
  · cases refused
    exact .inl rfl
  · cases refused
  split at refused
  · cases refused
    exact .inr rfl
  · cases refused

-- Where there is no directory, nothing but a missing file stands in the way of a removal.
theorem remove_refused {error : FileError} (fits : Fits path) (leaf : files.isDirectory path = false)
    (refused : files.remove path = .error error) : Missing error := by
  unfold remove at refused
  split at refused
  · rename_i failed
    cases refused
    exact look_refused fits failed
  · rename_i looked
    simp [isDirectory, looked] at leaf
  · rename_i text looked
    obtain ⟨location, located, _⟩ := read_parts (read_look.mpr looked)
    rw [located] at refused
    cases refused

end CompletionRules.FileSystem
