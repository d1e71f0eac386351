import CompletionRules.Install.Installer
import CompletionRules.Proofs.Files.Change
import CompletionRules.Proofs.Host.Quiet

-- Installing a script, whatever is found and whatever goes wrong on the way.

namespace CompletionRules

namespace Tools

open Desk (run_bind Spares)

variable {before middle : Desk} {source goal target : String}

-- What becomes of a desk when a file is copied: nothing is changed, or the one file is written, and then
-- two accidents have been passed.
inductive Copied (before : Desk) (source goal : String) : ExitStatus × Desk → Prop where
  | refused {after : Desk} (spares : Spares before after) : Copied before source goal (refused, after)
  | done {text : String} {files : FileSystem} (readable : before.files.read source = .ok text)
      (written : before.files.write goal text = .ok files) :
      Copied before source goal (.success, { before.past.past with files := files })

theorem refuse_copied (tool reason : String) (spares : Spares before middle) :
    Copied before source goal ((refuse tool reason : StateM Desk ExitStatus).run middle) :=
  .refused ⟨spares.files, spares.ran⟩

theorem transfer_copied (source goal : String) (before : Desk) :
    Copied before source goal ((transfer source goal : StateM Desk ExitStatus).run before) := by
  rw [transfer, run_bind]
  rcases Desk.read_cases source before with ⟨error, failed⟩ | ⟨text, readable, found⟩
  · rw [failed]
    exact refuse_copied _ _ (.past before)
  rw [found]
  dsimp only
  have wrote : (Disk.write goal text : StateM Desk (Except FileError Unit)) =
    Desk.change fun files => files.write goal text := rfl
  rw [run_bind, wrote]
  rcases Desk.change_cases (fun files => files.write goal text) before.past with ⟨error, failed⟩ | ⟨files, written, changed⟩
  · rw [failed]
    exact refuse_copied _ _ ((Spares.past before).trans (.past _))
  · rw [changed]
    exact .done readable written

theorem copyFile_copied (source goal : String) (before : Desk) :
    Copied before source goal ((copyFile source goal : StateM Desk ExitStatus).run before) := by
  have same : (Disk.isSame source goal : StateM Desk Bool).run before =
    (Desk.leadToSame before.files source goal, before) := rfl
  rw [copyFile, run_bind, same]
  dsimp only
  split
  · exact refuse_copied _ _ (.refl before)
  rw [run_bind, Desk.look_run]
  dsimp only
  split
  · exact refuse_copied _ _ (.refl before)
  · exact transfer_copied source goal before
  · exact transfer_copied source goal before
  · exact refuse_copied _ _ (.refl before)

def goalOf (files : FileSystem) (source target : String) : String :=
  if files.isDirectory target then Path.join target (Path.lastComponent source) else target

theorem destination_run (source target : String) (before : Desk) :
    (destination source target : StateM Desk String).run before = (goalOf before.files source target, before) := by
  rw [destination, run_bind, Desk.isDirectory_run, goalOf]
  dsimp only
  split <;> rfl

theorem copy_copied (source target : String) (before : Desk) :
    Copied before source (goalOf before.files source target)
      ((copy source target : StateM Desk ExitStatus).run before) := by
  rw [copy, run_bind, destination_run]
  dsimp only
  rw [run_bind, Desk.look_run]
  dsimp only
  split
  · exact refuse_copied _ _ (.refl before)
  · exact refuse_copied _ _ (.refl before)
  · exact copyFile_copied _ _ before

theorem run_copy (source target : String) (before : Desk) :
    ∃ status after, (run ["cp", source, target] : StateM Desk (Except FileError ExitStatus)).run before =
      (.ok status, after) ∧ Copied before source (goalOf before.files source target) (status, after) := by
  rw [run]
  split
  · exact ⟨_, _, rfl, refuse_copied _ _ (.refl before)⟩
  · exact ⟨_, _, rfl, copy_copied source target before⟩

end Tools

namespace Installer

open Desk (run_bind)

variable {installer : Installer} {before : Desk}

theorem firstDirectory_run (directories : List String) (desk : Desk) :
    (firstDirectory directories : StateM Desk (Option String)).run desk =
      (directories.find? desk.files.isDirectory, desk) := by
  induction directories with
  | nil => rfl
  | cons path rest ih =>
    rw [firstDirectory, run_bind, Desk.isDirectory_run]
    cases there : desk.files.isDirectory path with
    | true =>
      rw [List.find?_cons_of_pos there]
      rfl
    | false =>
      rw [List.find?_cons_of_neg (by simp [there]), ← ih]
      rfl

structure Ready (installer : Installer) (force : Bool) (files : FileSystem) (script target : String) : Prop where
  chosen : installer.script = some script
  there : files.holds script = true
  placed : ∃ directory, installer.directories.find? files.isDirectory = some directory ∧
    target = Path.join directory installer.program
  allowed : force = true ∨ files.holds target = false

theorem prepare_cases (installer : Installer) (force : Bool) (desk : Desk) :
    (∃ error, (installer.prepare force : StateM Desk _).run desk = (.error error, desk)) ∨
      ∃ script target, installer.Ready force desk.files script target ∧
        (installer.prepare force : StateM Desk _).run desk =
          (.ok (installer.copyCommand script target, target), desk) := by
  have placed : (installer.targetPath : StateM Desk (Option String)).run desk =
      ((installer.directories.find? desk.files.isDirectory).map (Path.join · installer.program), desk) := by
    rw [targetPath, completionsPath, run_bind, firstDirectory_run]
    rfl
  unfold prepare
  cases chosen : installer.script with
  | none => exact .inl ⟨_, rfl⟩
  | some script =>
    dsimp only
    rw [run_bind, placed]
    cases found : installer.directories.find? desk.files.isDirectory with
    | none => exact .inl ⟨_, rfl⟩
    | some directory =>
      dsimp only [Option.map_some]
      rw [run_bind, Desk.holds_run]
      cases there : desk.files.holds script with
      | false => exact .inl ⟨_, rfl⟩
      | true =>
        dsimp only
        rw [if_neg (by simp), run_bind, Desk.holds_run]
        dsimp only
        split
        · exact .inl ⟨_, rfl⟩
        · rename_i allowed
          refine .inr ⟨script, _, ⟨chosen, there, ⟨directory, found, rfl⟩, ?_⟩, rfl⟩
          cases force with
          | true => exact .inl rfl
          | false => exact .inr (by simpa using allowed)

def reported {α : Type} (command : List String) (value : α) : Except FileError ExitStatus → Except InstallError α
  | .error error => .error (.notStarted command error)
  | .ok status => if status.succeeded then .ok value else .error (.failed command status)

theorem reported_map {α β : Type} (command : List String) (value : α) (f : α → β) (result : Except FileError ExitStatus) :
    (reported command value result).map f = reported command (f value) result := by
  rcases result with error | status
  · rfl
  · dsimp only [reported]
    cases status.succeeded <;> rfl

theorem reported_ok {command : List String} {value result : String} {ended : Except FileError ExitStatus}
    (succeeded : reported command value ended = .ok result) : ended = .ok .success ∧ result = value := by
  rcases ended with error | status
  · cases succeeded
  · dsimp only [reported] at succeeded
    by_cases well : status = .success
    · subst well
      cases succeeded
      exact ⟨rfl, rfl⟩
    · rw [if_neg (by simpa [ExitStatus.succeeded] using well)] at succeeded
      cases succeeded

section

variable (tools : List String → StateM Desk (Except FileError ExitStatus)) (desk : Desk)

theorem runBy_run (command : List String) : (runBy tools command).run desk =
    (reported command () ((tools command).run desk).1, ((tools command).run desk).2) := by
  rw [runBy, run_bind]
  rcases (tools command).run desk with ⟨error | status, after⟩
  · rfl
  · dsimp only [reported]
    cases status.succeeded <;> rfl

theorem installBy_cases (installer : Installer) (force : Bool) :
    (∃ error, (installer.installBy tools force).run desk = (.error error, desk)) ∨
      ∃ script target, installer.Ready force desk.files script target ∧
        (installer.installBy tools force).run desk =
          (reported (installer.copyCommand script target) target
              ((tools (installer.copyCommand script target)).run desk).1,
            ((tools (installer.copyCommand script target)).run desk).2) := by
  rw [installBy, run_bind]
  rcases prepare_cases installer force desk with ⟨error, failed⟩ | ⟨script, target, ready, prepared⟩
  · rw [failed]
    exact .inl ⟨error, rfl⟩
  · rw [prepared]
    refine .inr ⟨script, target, ready, ?_⟩
    dsimp only
    rw [run_bind, runBy_run]
    exact congrArg (·, _) (reported_map _ () _ _)

end

theorem run_commandStart (installer : Installer) (command : List String) :
    (Tools.run (installer.commandStart ++ command) : StateM Desk (Except FileError ExitStatus)) =
      Tools.run command := by
  cases elevated : installer.elevated with
  | true => rw [commandStart, if_pos elevated, List.singleton_append, Tools.run]
  | false => rw [commandStart, if_neg (by simp [elevated]), List.nil_append]

theorem copyCommand_cases (installer : Installer) (environment : Environment) (script target : String)
    (before : Desk) :
    let copying : StateM Desk (Except FileError ExitStatus) :=
      baseTools environment (installer.copyCommand script target)
    copying.run before = (.error .notFound, before) ∨
      ∃ status after, copying.run before = (.ok status, after) ∧
        Tools.Copied before script (Tools.goalOf before.files script target) (status, after) := by
  intro copying
  have started : copying = baseTools environment ["cp", script, target] := by
    unfold copying baseTools copyCommand
    rw [run_commandStart]
  rw [started, baseTools]
  cases environment.findsPrograms with
  | true => exact .inr (Tools.run_copy script target before)
  | false => exact .inl rfl

-- Programs that copy a file to the target, or into it when it is a directory. A copy that does not end well
-- changes no file.
structure Copies (tools : List String → StateM Desk (Except FileError ExitStatus)) (installer : Installer) :
    Prop where
  done : ∀ (script target : String) (before after : Desk),
    (tools (installer.copyCommand script target)).run before = (.ok .success, after) →
    ∃ text, before.files.read script = .ok text ∧
      before.files.write (Tools.goalOf before.files script target) text = .ok after.files
  spares : ∀ (script target : String) (before after : Desk) (ended : Except FileError ExitStatus),
    (tools (installer.copyCommand script target)).run before = (ended, after) → ended ≠ .ok .success →
    after.files = before.files

theorem baseTools_copies (installer : Installer) (environment : Environment) :
    Copies (baseTools environment) installer where
  done := by
    intro script target before after copying
    rcases copyCommand_cases installer environment script target before with missing | ⟨status, _, ran, copied⟩
    · cases missing.symm.trans copying
    · cases ran.symm.trans copying
      cases copied with
      | done readable written => exact ⟨_, readable, written⟩
  spares := by
    intro script target before after ended copying unwell
    rcases copyCommand_cases installer environment script target before with missing | ⟨status, _, ran, copied⟩
    · cases missing.symm.trans copying
      rfl
    · cases ran.symm.trans copying
      cases copied with
      | refused spares => exact spares.files
      | done => exact absurd rfl unwell

def Placed (installer : Installer) (force : Bool) (before : Desk) : Except InstallError String × Desk → Prop
  | (.error _, after) => after.files = before.files
  | (.ok target, after) =>
    ∃ script text, installer.Ready force before.files script target ∧ before.files.read script = .ok text ∧
      let goal := Tools.goalOf before.files script target
      after.files.read goal = .ok text ∧
        (∀ location, before.files.locate goal ≠ .ok location →
          after.files.node? location = before.files.node? location) ∧
        (after.files.read target = .ok text ↔ before.files.isDirectory target = false)

theorem target_read {script target text : String} {files written : FileSystem}
    (wrote : files.write (Tools.goalOf files script target) text = .ok written) :
    written.read target = .ok text ↔ files.isDirectory target = false := by
  constructor
  · intro found
    cases directory : files.isDirectory target with
    | false => rfl
    | true =>
      have still := (FileSystem.isDirectory_write wrote target).trans directory
      cases (FileSystem.read_directory still).symm.trans found
  · intro leaf
    rw [Tools.goalOf, if_neg (by simp [leaf])] at wrote
    exact FileSystem.write_read wrote

theorem installBy_placed {tools : List String → StateM Desk (Except FileError ExitStatus)}
    (copies : Copies tools installer) (force : Bool) (before : Desk) :
    Placed installer force before ((installer.installBy tools force).run before) := by
  rcases installBy_cases tools before installer force with ⟨error, failed⟩ | ⟨script, target, ready, ran⟩
  · rw [failed]
    rfl
  rw [ran]
  cases copying : (tools (installer.copyCommand script target)).run before with
  | mk ended after =>
    dsimp only
    cases result : reported (installer.copyCommand script target) target ended with
    | error error =>
      refine copies.spares script target before after ended copying fun well => ?_
      rw [well] at result
      cases result
    | ok place =>
      obtain ⟨rfl, rfl⟩ := reported_ok result
      obtain ⟨text, readable, written⟩ := copies.done _ _ _ _ copying
      exact ⟨script, text, ready, readable, FileSystem.write_read written,
        fun location apart => FileSystem.write_elsewhere written apart, target_read written⟩

theorem install_places_script (installer : Installer) (force : Bool) (before : Desk) :
    (∀ tools, Copies tools installer → Placed installer force before ((installer.installBy tools force).run before)) ∧
    ∀ environment,
      Placed installer force before ((installer.install environment force : StateM Desk (Except _ _)).run before) :=
  ⟨fun _ copies => installBy_placed copies force before,
    fun environment => installBy_placed (baseTools_copies installer environment) force before⟩

theorem mytool_placed :
    let installer : Installer := ⟨"mytool", some "mytool.bash", ["missing", "completions"], false⟩
    let before : Desk := .ofFiles ⟨[(["completions"], .directory), (["mytool.bash"], .file "# script\n")], []⟩
    let tools : List String → StateM Desk (Except FileError ExitStatus) := baseTools []
    Copies tools installer ∧ ∃ after, (installer.installBy tools false).run before = (.ok "completions/mytool", after) ∧
      after.files.read "completions/mytool" = .ok "# script\n" := by
  dsimp only
  have copies (installer : Installer) : Copies (baseTools []) installer := baseTools_copies installer []
  refine ⟨copies _, _, rfl, ?_⟩
  obtain ⟨script, text, ready, readable, _, _, kept⟩ := (install_places_script
    ⟨"mytool", some "mytool.bash", ["missing", "completions"], false⟩ false (.ofFiles
      ⟨[(["completions"], .directory), (["mytool.bash"], .file "# script\n")], []⟩)).1 (baseTools []) (copies _)
  cases ready.chosen
  cases readable
  exact kept.mpr (by decide +kernel)

-- A directory of the program's name is where a forced script goes, under the script's own name.
theorem script_lost_in_directory :
    let installer : Installer := ⟨"mytool", some "mytool.bash", ["completions"], false⟩
    let before : Desk := .ofFiles ⟨[(["completions"], .directory), (["completions", "mytool"], .directory),
      (["mytool.bash"], .file "# script\n")], []⟩
    let ended := (installer.install [] true : StateM Desk (Except InstallError String)).run before
    ended.1.toOption = some "completions/mytool" ∧
      (ended.2.files.read "completions/mytool").toOption = none ∧
      (before.files.read "completions/mytool/mytool.bash").toOption = none ∧
      (ended.2.files.read "completions/mytool/mytool.bash").toOption = some "# script\n" := by
  decide +kernel

end Installer

end CompletionRules
