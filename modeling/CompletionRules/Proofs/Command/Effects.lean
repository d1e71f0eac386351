import CompletionRules.Proofs.Command.Steps
import CompletionRules.Proofs.Files.Change

-- What a run about rules does to a desk, whatever goes wrong on the way: it reads first, then writes one
-- file at most, and nothing that comes behind the write can fail.

namespace CompletionRules.Command

open Desk (Quiet Spares)

variable {ε α : Type}

namespace Task

def isAboutRules : Task → Bool
  | .generate .. | .preview .. | .validate .. | .init .. => true
  | .test .. | .install .. | .uninstall .. => false

def target? : Task → Option String
  | .generate rules output _ _ =>
    let path := outputPath rules output
    if path = standardPath then none else some path
  | .init rules _ => some rules
  | _ => none

def MayWrite (files : FileSystem) (path : String) : Task → Prop
  | .generate rules output _ _ => path = outputPath rules output ∧ path ≠ standardPath
  | .init rules force => path = rules ∧ (force = true ∨ files.holds path = false)
  | _ => False

theorem MayWrite.target {files : FileSystem} {path : String} {task : Task} (allowed : task.MayWrite files path) :
    task.target? = some path := by
  cases task with
  | generate rules output functionName wrapper =>
    obtain ⟨rfl, named⟩ := allowed
    exact if_neg named
  | init rules force =>
    obtain ⟨rfl, _⟩ := allowed
    rfl
  | _ => cases allowed

end Task

theorem told_quiet {value : α} {notes : List Note} {work : StateM Desk α}
    (told : ∀ desk, work.run desk = (value, desk.told notes)) : Quiet work := by
  intro desk
  rw [told desk]
  exact ⟨rfl, rfl⟩

theorem orFail_quiet (failure : ε → Failure) (result : Except ε α) :
    Quiet (orFail failure result : Work α).run :=
  .pure _

theorem readText_quiet (path : String) : Quiet (readText path : Work String).run := by
  rw [readText]
  split
  · exact .bindExcept (.lift .input) fun result => orFail_quiet _ result
  · exact .bindExcept (.lift (.read path)) fun result => orFail_quiet _ result

theorem Context.compileRules_quiet (context : Context) (path : String) (choices : Compilation.Choices) :
    Quiet (context.compileRules path choices : Work Compilation).run := by
  rw [compileRules_eq]
  refine .bindExcept (readText_quiet path) fun text => ?_
  obtain ⟨notes, ran⟩ := context.compileText_run path choices text
  exact told_quiet ran

theorem ofPath_quiet (path : String) :
    Quiet (SettingsFile.ofPath path : ExceptT ε (StateM Desk) SettingsFile).run := by
  rw [SettingsFile.ofPath]
  refine .bindExcept (.lift (.read path)) fun result => ?_
  cases result with
  | error error => exact .pureExcept _
  | ok text =>
    dsimp only
    split
    · exact .pureExcept _
    · exact .pureExcept _

theorem holds_quiet (path : String) : Quiet (Disk.holds path : ExceptT ε (StateM Desk) Bool).run := by
  intro desk
  rw [holds_run]
  exact .refl desk

theorem load_quiet (environment : Environment) (disabled : Bool) (named : Option String) :
    Quiet (SettingsFile.load environment disabled named : ExceptT ε (StateM Desk) SettingsFile).run := by
  unfold SettingsFile.load
  split
  · exact .pureExcept _
  split
  · exact .bindExcept (ofPath_quiet _) fun file => .pureExcept _
  · exact .pureExcept _
  · refine .bindExcept (holds_quiet _) fun held => ?_
    split
    · exact ofPath_quiet _
    · exact .pureExcept _

theorem loadSettings_quiet (environment : Environment) (journal : Journal) (asked : Invocation) :
    Quiet (loadSettings environment journal asked : Work (Settings × Journal)).run := by
  rw [loadSettings_eq]
  refine .bindExcept (load_quiet _ _ _) fun file => ?_
  obtain ⟨opened, notes, ran⟩ := settle_run journal file
  exact told_quiet ran

-- What a piece of work may come to that is permitted to write to some paths: nothing is changed, or
-- the work succeeds and one such path was written.
inductive Effect (permitted : String → Prop) (before : Desk) : Except Failure Nat → Desk → Prop where
  | spared {result : Except Failure Nat} {after : Desk} (spares : Spares before after) :
      Effect permitted before result after
  | saved {path text : String} {after : Desk} (allowed : permitted path)
      (written : before.files.write path text = .ok after.files) (ran : after.ran = before.ran) :
      Effect permitted before (.ok 0) after

-- Whether a path may be written can hang on the files as they are found.
def Does (permitted : FileSystem → String → Prop) (work : Work Nat) : Prop :=
  ∀ before, Effect (permitted before.files) before (work.run.run before).1 (work.run.run before).2

namespace Does

variable {permitted : FileSystem → String → Prop}

theorem ofQuiet {work : Work Nat} (quiet : Quiet work.run) : Does permitted work :=
  fun before => .spared (quiet before)

theorem behindQuiet {first : Work α} {next : α → Work Nat}
    (quiet : Quiet first.run) (behind : ∀ value, Does permitted (next value)) : Does permitted (first >>= next) := by
  intro before
  have spares := quiet before
  rcases reached : first.run.run before with ⟨failure | value, middle⟩
  · rw [reached] at spares
    rw [Desk.run_bind_error reached]
    exact .spared spares
  · rw [reached] at spares
    rw [Desk.run_bind_ok reached]
    have effect := behind value middle
    rw [spares.files] at effect
    generalize (next value).run.run middle = ended at effect ⊢
    obtain ⟨ending, after⟩ := ended
    cases effect with
    | spared further => exact .spared (spares.trans further)
    | saved allowed written ran =>
      rw [spares.files] at written
      exact .saved allowed written (ran.trans spares.ran)

end Does

inductive Attempted (attempt : FileSystem → Except FileError FileSystem) (before : Desk) :
    Except FileError Unit → Desk → Prop where
  | refused {error : FileError} {after : Desk} (spares : Spares before after) :
      Attempted attempt before (.error error) after
  | done {after : Desk} (changed : attempt before.files = .ok after.files) (ran : after.ran = before.ran) :
      Attempted attempt before (.ok ()) after

theorem change_attempted (attempt : FileSystem → Except FileError FileSystem) (before : Desk) :
    Attempted attempt before ((Desk.change attempt).run before).1 ((Desk.change attempt).run before).2 := by
  rcases Desk.change_cases attempt before with ⟨error, refused⟩ | ⟨files, changed, done⟩
  · rw [refused]
    exact .refused (.past before)
  · rw [done]
    exact .done changed rfl

theorem Effect.save {permitted : String → Prop} {path : String} (text : String)
    (next : Unit → Work Nat) (allowed : permitted path) (quiet : Quiet (next ()).run)
    (succeeds : ∀ desk, ((next ()).run.run desk).1 = .ok 0) (before : Desk) :
    let work : Work Nat :=
      Disk.write path text >>= fun result => orFail (.notWritten path) result >>= next
    Effect permitted before (work.run.run before).1 (work.run.run before).2 := by
  intro work
  have attempted : Attempted (fun files => files.write path text) before
      ((Disk.write path text : StateM Desk (Except FileError Unit)).run before).1
      ((Disk.write path text : StateM Desk (Except FileError Unit)).run before).2 := change_attempted _ before
  rw [show work.run.run before = _ from written_run path text next before]
  generalize (Disk.write path text : StateM Desk (Except FileError Unit)).run before = reached at attempted ⊢
  obtain ⟨result, middle⟩ := reached
  cases attempted with
  | refused spares => exact .spared spares
  | done changed ran =>
    have spares := quiet middle
    have ends := succeeds middle
    dsimp only at spares ends changed ran ⊢
    rw [ends]
    rw [← spares.files] at changed
    exact .saved allowed changed (spares.ran.trans ran)

theorem announceSaved_quiet (path : String) : Quiet (announceSaved path : ExceptT ε (StateM Desk) Unit).run :=
  .lift (.print _)

namespace Context

variable (context : Context)

theorem warn_quiet (made : Compilation) : Quiet (context.warn made : ExceptT ε (StateM Desk) Unit).run :=
  .lift (.complain _)

theorem generate_does (rules output : String) (choices : Compilation.Choices) :
    Does (fun _ path => path = output ∧ path ≠ standardPath) (context.generate rules output choices) := by
  rw [generate_eq]
  refine .behindQuiet (context.compileRules_quiet rules choices) fun made => ?_
  by_cases toOutput : output = standardPath
  · subst toOutput
    refine .ofQuiet fun desk => ?_
    rw [report_standard]
    exact ⟨rfl, rfl⟩
  · intro before
    unfold report writeText
    rw [if_neg toOutput, if_pos toOutput, bind_assoc]
    refine Effect.save made.script _ ⟨rfl, toOutput⟩ ?_ ?_ before
    · exact .bindExcept (announceSaved_quiet output) fun _ =>
        .bindExcept (context.warn_quiet made) fun _ => .pureExcept _
    · exact fun desk => rfl

theorem preview_quiet (rules : String) (functionName : Option String) :
    Quiet (context.preview rules functionName : Work Nat).run := by
  rw [preview_eq, generate_eq]
  refine .bindExcept (context.compileRules_quiet rules _) fun made desk => ?_
  rw [report_standard]
  exact ⟨rfl, rfl⟩

theorem validate_quiet (rules : String) : Quiet (context.validate rules : Work Nat).run := by
  rw [validate]
  refine .bindExcept (context.compileRules_quiet rules _) fun made => ?_
  exact .bindExcept (.lift (.print _)) fun _ => .pureExcept _

theorem writeSample_does (rules : String) (force : Bool) :
    Does (fun files path => path = rules ∧ (force = true ∨ files.holds path = false)) (writeSample rules force) := by
  intro before
  rw [writeSample, Desk.run_bind_ok (holds_run rules before)]
  by_cases refused : (!force && before.files.holds rules) = true
  · rw [if_pos refused]
    exact .spared (.refl before)
  · rw [if_neg refused]
    have allowed : force = true ∨ before.files.holds rules = false := by
      cases force with
      | true => exact .inl rfl
      | false => exact .inr (by simpa using refused)
    refine Effect.save sampleRules _ ⟨rfl, allowed⟩ ?_ ?_ before
    · exact .bindExcept (announceSaved_quiet rules) fun _ => .pureExcept _
    · exact fun desk => rfl

theorem perform_does (task : Task) (aboutRules : task.isAboutRules = true) :
    Does (fun files path => task.MayWrite files path) (context.perform task) := by
  cases task with
  | generate rules output functionName wrapper =>
    exact context.generate_does rules (outputPath rules output) ⟨functionName, wrapper <|> context.settings.wrapper⟩
  | preview rules functionName => exact .ofQuiet (context.preview_quiet rules functionName)
  | validate rules => exact .ofQuiet (context.validate_quiet rules)
  | init rules force => exact writeSample_does rules force
  | test line rules => cases aboutRules
  | install program script force dry => cases aboutRules
  | uninstall program dry => cases aboutRules

end Context

theorem runTask_does (environment : Environment) (asked : Invocation) (aboutRules : asked.task.isAboutRules = true) :
    Does (fun files path => asked.task.MayWrite files path) (runTask environment asked) := by
  rw [runTask]
  exact .behindQuiet (loadSettings_quiet _ _ _) fun (settings, journal) =>
    Context.perform_does ⟨environment, settings, journal, asked.plain⟩ asked.task aboutRules

inductive Ended (task : Task) (before : Desk) : Nat → Desk → Prop where
  | spared {code : Nat} {after : Desk} (spares : Spares before after) : Ended task before code after
  | saved {path text : String} {after : Desk} (allowed : task.MayWrite before.files path)
      (written : before.files.write path text = .ok after.files) (ran : after.ran = before.ran) :
      Ended task before 0 after

theorem runInvocation_ended (environment : Environment) (asked : Invocation)
    (aboutRules : asked.task.isAboutRules = true) (before : Desk) :
    Ended asked.task before ((runInvocation environment asked : StateM Desk Nat).run before).1
      ((runInvocation environment asked : StateM Desk Nat).run before).2 := by
  have effect := runTask_does environment asked aboutRules before
  rw [runInvocation_run]
  generalize (runTask environment asked : Work Nat).run.run before = reached at effect ⊢
  obtain ⟨result, after⟩ := reached
  cases effect with
  | spared spares =>
    cases result with
    | ok code => exact .spared spares
    | error failure => exact .spared ⟨spares.files, spares.ran⟩
  | saved allowed written ran => exact .saved allowed written ran

end CompletionRules.Command
