import CompletionRules.Proofs.Command.Effects

-- Runs one after the other on the same files. Only the files pass from a run to the next.

namespace CompletionRules.Command

structure Call where
  environment : Environment
  words : List String
  input : String
  accidents : List (Option FileError)

structure Step where
  call : Call
  before : FileSystem
  code : Nat
  after : Desk

namespace Call

variable (call : Call)

def task? : Option Task := (Invocation.ofWords call.environment call.words).toOption.map Invocation.task

def isAboutRules : Bool := call.task?.all Task.isAboutRules

def target? : Option String := call.task?.bind Task.target?

def desk (files : FileSystem) : Desk := { Desk.ofFiles files with input := call.input, accidents := call.accidents }

def step (files : FileSystem) : Step :=
  let (code, after) := (run call.environment call.words : StateM Desk Nat).run (call.desk files)
  ⟨call, files, code, after⟩

end Call

def session : FileSystem → List Call → List Step
  | _, [] => []
  | files, call :: rest =>
    let step := call.step files
    step :: session step.after.files rest

def filesAfter (files : FileSystem) (calls : List Call) : FileSystem :=
  calls.foldl (fun files call => (call.step files).after.files) files

def Step.MayChange (step : Step) (location : Location) : Prop :=
  step.code = 0 ∧ ∃ path, step.call.target? = some path ∧ step.before.locate path = .ok location

structure Step.Confined (step : Step) : Prop where
  noCommand : step.after.ran = []
  failed : step.code ≠ 0 → step.after.files = step.before
  untargeted : step.call.target? = none → step.after.files = step.before
  elsewhere : ∀ location, ¬ step.MayChange location → step.after.files.node? location = step.before.node? location
  kept : ∀ rules, step.call.task? = some (.init rules false) →
    ∀ location node, step.before.node? location = some node → step.after.files.node? location = some node

theorem Step.confined_of_spares {step : Step} (spares : Desk.Spares (step.call.desk step.before) step.after) :
    step.Confined where
  noCommand := spares.ran
  failed _ := spares.files
  untargeted _ := spares.files
  elsewhere location _ := congrArg (fun files => FileSystem.node? files location) spares.files
  kept rules _ location node existing := by
    rw [spares.files]
    exact existing

theorem Step.confined_of_ended {step : Step} {task : Task} (asked : step.call.task? = some task)
    (ended : Ended task (step.call.desk step.before) step.code step.after) : step.Confined := by
  obtain ⟨call, before, code, after⟩ := step
  dsimp only at asked ended
  have target : call.target? = task.target? := by rw [Call.target?, asked]; rfl
  cases ended with
  | spared spares => exact confined_of_spares spares
  | @saved path text after allowed written ran =>
    have aimed : call.target? = some path := target.trans allowed.target
    refine ⟨ran, fun failed => absurd rfl failed, fun untargeted => ?_, fun location unchangeable => ?_,
      fun rules init location node existing => ?_⟩
    · cases aimed.symm.trans untargeted
    · refine FileSystem.write_elsewhere written fun located => ?_
      exact unchangeable ⟨rfl, path, aimed, located⟩
    · obtain rfl : task = .init rules false := Option.some.inj (asked.symm.trans init)
      obtain ⟨rfl, forced | free⟩ := allowed
      · cases forced
      · exact FileSystem.write_spares_existing written free existing

theorem Call.step_confined (call : Call) (aboutRules : call.isAboutRules = true) (files : FileSystem) :
    (call.step files).Confined := by
  unfold isAboutRules task? at aboutRules
  cases asking : Invocation.ofWords call.environment call.words with
  | error refusal =>
    apply Step.confined_of_spares
    simp only [step, run, asking]
    exact .refl _
  | ok asked =>
    rw [asking] at aboutRules
    have task : call.task? = some asked.task := by rw [task?, asking]; rfl
    apply Step.confined_of_ended task
    simp only [step, run, asking]
    exact runInvocation_ended call.environment asked aboutRules (call.desk files)

theorem filesAfter_elsewhere {calls : List Call} (aboutRules : ∀ call ∈ calls, call.isAboutRules = true)
    {files : FileSystem} {location : Location} (spared : ∀ step ∈ session files calls, ¬ step.MayChange location) :
    (filesAfter files calls).node? location = files.node? location := by
  induction calls generalizing files with
  | nil => rfl
  | cons call rest ih =>
    simp only [session, List.forall_mem_cons] at spared aboutRules
    have first := (call.step_confined aboutRules.1 files).elsewhere location spared.1
    exact (ih aboutRules.2 spared.2).trans first

-- Runs about rules have no command run, change nothing when they fail, and otherwise no more than the
-- one file they are for.
theorem session_confined (files : FileSystem) (calls : List Call)
    (aboutRules : ∀ call ∈ calls, call.isAboutRules = true) :
    (∀ step ∈ session files calls, step.Confined) ∧
      ∀ location, (∀ step ∈ session files calls, ¬ step.MayChange location) →
        (filesAfter files calls).node? location = files.node? location := by
  refine ⟨?_, fun location spared => filesAfter_elsewhere aboutRules spared⟩
  induction calls generalizing files with
  | nil => simp [session]
  | cons call rest ih =>
    simp only [List.forall_mem_cons] at aboutRules
    simp only [session, List.forall_mem_cons]
    exact ⟨call.step_confined aboutRules.1 files, ih _ aboutRules.2⟩

theorem begun_session_confined :
    let calls : List Call :=
      [⟨[], ["init", "new.yaml"], "", []⟩, ⟨[], ["init", "new.yaml"], "", []⟩,
        ⟨[], ["generate", "-", "tool"], "tool: [a]", [none, some (.other "No space left on device")]⟩,
        ⟨[], ["generate", "-", "tool"], "tool: [a]", []⟩, ⟨[], ["validate", "-"], "tool:", []⟩]
    let steps := session (Desk.baseFiles ["tmp", "work"]) calls
    (∀ call ∈ calls, call.isAboutRules = true) ∧ steps.map Step.code = [0, 1, 1, 0, 1] ∧
      ∀ step ∈ steps, step.Confined := by
  intro calls steps
  have aboutRules : ∀ call ∈ calls, call.isAboutRules = true := by decide +kernel
  exact ⟨aboutRules, by decide +kernel, (session_confined _ calls aboutRules).1⟩

end CompletionRules.Command
