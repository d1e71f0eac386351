import CompletionRules.Proofs.Files.Removed
import CompletionRules.Proofs.Install.Copying

-- Uninstalling takes away what installing put in place, wherever that was, and nothing else.

namespace CompletionRules

namespace Path

theorem endsInSlash_append (left : String) {right : String} (filled : right ≠ "") :
    endsInSlash (left ++ right) = endsInSlash right := by
  obtain ⟨last, found⟩ := Option.ne_none_iff_exists'.mp
    (mt List.getLast?_eq_none_iff.mp (mt String.toList_eq_nil_iff.mp filled))
  simp [endsInSlash, List.getLast?_append, found]

theorem endsInSlash_join (left : String) {right : String} (filled : right ≠ "") :
    endsInSlash (join left right) = endsInSlash right := by
  unfold join
  split
  · rfl
  split
  · exact endsInSlash_append left filled
  · exact endsInSlash_append (left ++ "/") filled

theorem endsInSlash_join_empty {left : String} (filled : left ≠ "") : endsInSlash (join left "") = true := by
  unfold join
  split
  · rename_i whole
    simp_all [isAbsolute]
  split
  · rename_i slashed
    rwa [String.append_empty]
  · rw [String.append_empty, endsInSlash_append left (by decide)]
    rfl

end Path

namespace Tools

open Desk (run_bind)

variable {path : String} {paths : List String} {desk : Desk}

theorem removeFile_run (untroubled : desk.accidents = []) (fits : FileSystem.Fits path)
    (leaf : desk.files.isDirectory path = false) :
    (removeFile path : StateM Desk ExitStatus).run desk =
      (.success, { desk with files := desk.files.without path }) := by
  have removes : (Disk.remove path : StateM Desk (Except FileError Unit)).run desk = _ :=
    Desk.change_run untroubled fun files => files.remove path
  rw [removeFile, run_bind, removes, FileSystem.without]
  cases removed : desk.files.remove path with
  | ok files => rfl
  | error error => rcases FileSystem.remove_refused fits leaf removed with rfl | rfl <;> rfl

theorem removeFiles_run (untroubled : desk.accidents = [])
    (fits : ∀ path ∈ paths, FileSystem.Fits path ∧ desk.files.isDirectory path = false) :
    (removeFiles paths : StateM Desk ExitStatus).run desk =
      (.success, { desk with files := paths.foldl FileSystem.without desk.files }) := by
  induction paths generalizing desk with
  | nil => rfl
  | cons path rest ih =>
    obtain ⟨fit, leaf⟩ := fits path List.mem_cons_self
    have restFits : ∀ other ∈ rest, FileSystem.Fits other ∧ (desk.files.without path).isDirectory other = false := by
      intro other member
      obtain ⟨fit, leaf⟩ := fits other (List.mem_cons_of_mem _ member)
      exact ⟨fit, ((FileSystem.without_sameDirectories _ _).isDirectory other).trans leaf⟩
    have further : (removeFiles rest : StateM Desk ExitStatus).run { desk with files := desk.files.without path } = _ :=
      ih untroubled restFits
    rw [removeFiles, run_bind, removeFile_run untroubled fit leaf]
    dsimp only
    rw [run_bind, further]
    rfl

end Tools

namespace Installer

def places (installer : Installer) : List String :=
  installer.directories.map fun directory => Path.join directory installer.program

-- Programs that take what stands behind `cp` and `rm -f` for paths. The first copies a file, the second
-- removes the files that are there.
structure TakesPaths (tools : List String → StateM Desk (Except FileError ExitStatus)) (paths : List String) :
    Prop where
  copies : ∀ (source target : String) (before after : Desk), before.accidents = [] →
    before.files.isDirectory target = false → (tools ["cp", source, target]).run before = (.ok .success, after) →
    ∃ text files, before.files.read source = .ok text ∧ before.files.write target text = .ok files ∧
      after = { before with files := files }
  removes : ∀ before : Desk, before.accidents = [] → (∀ path ∈ paths, before.files.isDirectory path = false) →
    (tools ("rm" :: "-f" :: paths)).run before =
      (.ok .success, { before with files := paths.foldl FileSystem.without before.files })

theorem baseTools_takesPaths {environment : Environment} {paths : List String}
    (found : environment.findsPrograms = true)
    (named : ∀ path ∈ paths, Tools.looksLikeOption path = false ∧ FileSystem.Fits path) :
    TakesPaths (baseTools environment) paths where
  copies := by
    intro source target before after untroubled leaf copied
    rw [baseTools, if_pos found] at copied
    obtain ⟨status, ended, ran, done⟩ := Tools.run_copy source target before
    cases ran.symm.trans copied
    rw [Tools.goalOf, if_neg (by simp [leaf])] at done
    obtain ⟨files, input, printed, complained, ran, accidents⟩ := before
    obtain rfl : accidents = [] := untroubled
    cases done with
    | done readable written => exact ⟨_, _, readable, written, rfl⟩
  removes := by
    intro before untroubled leaves
    have plain : paths.find? Tools.looksLikeOption = none :=
      List.find?_eq_none.mpr fun path member => by simp [(named path member).1]
    have fits : ∀ path ∈ paths, FileSystem.Fits path ∧ before.files.isDirectory path = false :=
      fun path member => ⟨(named path member).2, leaves path member⟩
    rw [baseTools, if_pos found, Tools.run, plain]
    exact congrArg (fun ended : ExitStatus × Desk => (Except.ok ended.1, ended.2)) (Tools.removeFiles_run untroubled fits)

variable {installer : Installer} {tools : List String → StateM Desk (Except FileError ExitStatus)}
  {before after : Desk} {target : String}

theorem places_unslashed {files written : FileSystem} {directory text : String}
    (there : files.isDirectory directory = true)
    (wrote : files.write (Path.join directory installer.program) text = .ok written) :
    ∀ place ∈ installer.places, Path.endsInSlash place = false := by
  obtain ⟨_, _, unslashed, _⟩ := FileSystem.write_parts wrote
  have filled : installer.program ≠ "" := by
    intro empty
    have named : directory ≠ "" := by
      rintro rfl
      obtain ⟨_, located, _⟩ := FileSystem.isDirectory_iff.mp there
      cases located
    rw [empty, Path.endsInSlash_join_empty named] at unslashed
    cases unslashed
  intro place member
  obtain ⟨other, _, rfl⟩ := List.mem_map.mp member
  rwa [Path.endsInSlash_join other filled, ← Path.endsInSlash_join directory filled]

theorem commandStart_plain (plain : installer.elevated = false) : installer.commandStart = [] :=
  if_neg (by simp [plain])

theorem uninstallBy_run (plain : installer.elevated = false) (takes : TakesPaths tools installer.places)
    (untroubled : before.accidents = []) (leaves : ∀ place ∈ installer.places, before.files.isDirectory place = false) :
    (installer.uninstallBy tools).run before =
      (.ok (), { before with files := installer.places.foldl FileSystem.without before.files }) := by
  have command : installer.uninstallCommand = "rm" :: "-f" :: installer.places := by
    rw [uninstallCommand, commandStart_plain plain]
    rfl
  rw [uninstallBy, runBy_run, command, takes.removes before untroubled leaves]
  rfl

-- Whatever the program is called: nothing is installed under a name that ends in a slash.
theorem uninstall_undoes_install (plain : installer.elevated = false) (takes : TakesPaths tools installer.places)
    (untroubled : before.accidents = []) (free : ∀ place ∈ installer.places, before.files.holds place = false)
    (installed : (installer.installBy tools false).run before = (.ok target, after)) :
    (installer.uninstallBy tools).run after = (.ok (), before) ∧
      (installer.uninstallBy tools).run before = (.ok (), before) := by
  have leaves : ∀ place ∈ installer.places, before.files.isDirectory place = false :=
    fun place member => FileSystem.isDirectory_of_free (free place member)
  rcases installBy_cases tools before installer false with ⟨error, failed⟩ | ⟨script, place, ready, ran⟩
  · cases failed.symm.trans installed
  obtain ⟨result, sameAfter⟩ := Prod.mk.inj (ran.symm.trans installed)
  obtain ⟨succeeded, rfl⟩ := reported_ok result
  obtain ⟨directory, found, rfl⟩ := ready.placed
  have member : Path.join directory installer.program ∈ installer.places :=
    List.mem_map_of_mem (List.mem_of_find?_eq_some found)
  have copied : (tools ["cp", script, Path.join directory installer.program]).run before = (.ok .success, after) := by
    have command : installer.copyCommand script (Path.join directory installer.program) =
        ["cp", script, Path.join directory installer.program] := by
      rw [copyCommand, commandStart_plain plain, List.nil_append]
    rw [← command, ← succeeded, ← sameAfter]
    rfl
  obtain ⟨text, files, _, written, rfl⟩ := takes.copies _ _ _ _ untroubled (leaves _ member) copied
  have unslashed := places_unslashed (List.find?_some found) written
  constructor
  · have still : ∀ place ∈ installer.places, files.isDirectory place = false :=
      fun place member => (FileSystem.isDirectory_write written place).trans (leaves place member)
    have removed : (installer.uninstallBy tools).run { before with files := files } = _ :=
      uninstallBy_run plain takes untroubled still
    rw [removed]
    dsimp only
    rw [FileSystem.foldl_without_written written (fun other member => ⟨free other member, unslashed other member⟩) member]
  · rw [uninstallBy_run plain takes untroubled leaves, FileSystem.foldl_without_free free]

theorem tool_undone :
    let installer : Installer := ⟨"tool", some "here/tool.bash", ["missing", "here", "there", "here"], false⟩
    let before : Desk := .ofFiles ⟨[(["here"], .directory), (["there"], .directory),
      (["here", "tool.bash"], .file "# script\n")], []⟩
    let tools : List String → StateM Desk (Except FileError ExitStatus) := baseTools []
    ∃ after, (installer.installBy tools false).run before = (.ok "here/tool", after) ∧
      after.files.read "here/tool" = .ok "# script\n" ∧
      (installer.uninstallBy tools).run after = (.ok (), before) ∧
      (installer.uninstallBy tools).run before = (.ok (), before) := by
  have takes : TakesPaths (baseTools []) ["missing/tool", "here/tool", "there/tool", "here/tool"] :=
    baseTools_takesPaths (by decide +kernel) (by decide +kernel)
  dsimp only
  exact ⟨_, rfl, rfl, uninstall_undoes_install rfl takes rfl (by decide +kernel) rfl⟩

end Installer

end CompletionRules
