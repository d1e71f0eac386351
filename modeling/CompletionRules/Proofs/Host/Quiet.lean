import CompletionRules.Command.Run
import CompletionRules.Host.Desk

-- Work at a desk: what its parts come to one after the other, and work that changes no file and has
-- no command run.

namespace CompletionRules.Desk

variable {α β ε : Type}

section

variable {first : ExceptT ε (StateM Desk) α} {next : α → ExceptT ε (StateM Desk) β} {before middle : Desk}

theorem run_bind_ok {value : α} (reached : first.run.run before = (.ok value, middle)) :
    (first >>= next).run.run before = (next value).run.run middle := by
  rw [ExceptT.run_bind, StateT.run_bind, reached]
  rfl

theorem run_bind_error {error : ε} (reached : first.run.run before = (.error error, middle)) :
    (first >>= next).run.run before = (.error error, middle) := by
  rw [ExceptT.run_bind, StateT.run_bind, reached]
  rfl

theorem run_lift {work : StateM Desk α} {value : α} (reached : work.run before = (value, middle)) :
    (liftM work : ExceptT ε (StateM Desk) α).run.run before = (.ok value, middle) := by
  rw [ExceptT.run_liftM, StateT.run_map, reached]
  rfl

end

theorem run_bind (first : StateM Desk α) (next : α → StateM Desk β) (desk : Desk) :
    (first >>= next).run desk = (next (first.run desk).1).run (first.run desk).2 := rfl

theorem look_run (path : String) (desk : Desk) :
    (Disk.look path : StateM Desk (Except FileError FileKind)).run desk =
      ((desk.files.look path).map FileNode.kind, desk) := rfl

theorem isDirectory_run (path : String) (desk : Desk) :
    (Disk.isDirectory path : StateM Desk Bool).run desk = (desk.files.isDirectory path, desk) := by
  rw [Disk.isDirectory, run_bind, look_run, FileSystem.isDirectory]
  rcases desk.files.look path with error | _ | text <;> rfl

theorem holds_run (path : String) (desk : Desk) :
    (Disk.holds path : StateM Desk Bool).run desk = (desk.files.holds path, desk) := by
  rw [Disk.holds, run_bind, look_run, FileSystem.holds]
  cases desk.files.look path <;> rfl

def past (desk : Desk) : Desk := { desk with accidents := desk.accidents.drop 1 }

structure Spares (before after : Desk) : Prop where
  files : after.files = before.files
  ran : after.ran = before.ran

namespace Spares

theorem refl (desk : Desk) : Spares desk desk := ⟨rfl, rfl⟩

theorem trans {before middle after : Desk} (first : Spares before middle) (second : Spares middle after) :
    Spares before after :=
  ⟨second.files.trans first.files, second.ran.trans first.ran⟩

theorem past (desk : Desk) : Spares desk desk.past := ⟨rfl, rfl⟩

end Spares

theorem unlessAccident_cases (work : StateM Desk (Except FileError α)) (desk : Desk) :
    (∃ error, (unlessAccident work).run desk = (.error error, desk.past)) ∨
      (unlessAccident work).run desk = work.run desk.past := by
  obtain ⟨files, input, printed, complained, ran, accidents⟩ := desk
  rcases accidents with _ | ⟨_ | error, rest⟩
  · exact .inr rfl
  · exact .inr rfl
  · exact .inl ⟨error, rfl⟩

theorem change_cases (attempt : FileSystem → Except FileError FileSystem) (desk : Desk) :
    (∃ error, (change attempt).run desk = (.error error, desk.past)) ∨
      ∃ files, attempt desk.files = .ok files ∧
        (change attempt).run desk = (.ok (), { desk.past with files := files }) := by
  rcases unlessAccident_cases _ desk with refused | ran
  · exact .inl refused
  · rw [change, ran]
    cases made : attempt desk.files with
    | ok files => exact .inr ⟨files, rfl, by simp only [StateT.run, past, made]⟩
    | error error => exact .inl ⟨error, by simp only [StateT.run, past, made]⟩

theorem change_run {desk : Desk} (untroubled : desk.accidents = []) (attempt : FileSystem → Except FileError FileSystem) :
    (change attempt).run desk =
      match attempt desk.files with
      | .ok files => (.ok (), { desk with files := files })
      | .error error => (.error error, desk) := by
  obtain ⟨files, input, printed, complained, ran, accidents⟩ := desk
  obtain rfl : accidents = [] := untroubled
  rfl

theorem read_cases (path : String) (desk : Desk) :
    (∃ error, (Disk.read path : StateM Desk (Except FileError String)).run desk = (.error error, desk.past)) ∨
      ∃ text, desk.files.read path = .ok text ∧
        (Disk.read path : StateM Desk (Except FileError String)).run desk = (.ok text, desk.past) := by
  rcases unlessAccident_cases (ask fun files => files.read path) desk with refused | ran
  · exact .inl refused
  · have found : (Disk.read path : StateM Desk (Except FileError String)).run desk =
      (desk.files.read path, desk.past) := ran
    cases held : desk.files.read path with
    | ok text => exact .inr ⟨text, rfl, by rw [found, held]⟩
    | error error => exact .inl ⟨error, by rw [found, held]⟩

def Quiet (work : StateM Desk α) : Prop := ∀ desk, Spares desk (work.run desk).2

namespace Quiet

theorem pure (value : α) : Quiet (Pure.pure value) := fun desk => .refl desk

theorem bind {first : StateM Desk α} {next : α → StateM Desk β} (quiet : Quiet first)
    (behind : ∀ value, Quiet (next value)) : Quiet (first >>= next) :=
  fun desk => (quiet desk).trans (behind _ _)

theorem unlessAccident {work : StateM Desk (Except FileError α)} (quiet : Quiet work) :
    Quiet (Desk.unlessAccident work) := by
  intro desk
  rcases unlessAccident_cases work desk with ⟨error, refused⟩ | ran
  · rw [refused]
    exact .past desk
  · rw [ran]
    exact (Spares.past desk).trans (quiet _)

theorem read (path : String) : Quiet (Disk.read path) := unlessAccident fun desk => .refl desk

theorem input : Quiet Machine.input := unlessAccident fun desk => .refl desk

theorem print (text : String) : Quiet (Machine.print text) := fun _ => ⟨rfl, rfl⟩

theorem complain (text : String) : Quiet (Machine.complain text) := fun _ => ⟨rfl, rfl⟩

section

variable {first : ExceptT ε (StateM Desk) α} {next : α → ExceptT ε (StateM Desk) β}

theorem bindExcept (quiet : Quiet first.run) (behind : ∀ value, Quiet (next value).run) :
    Quiet (first >>= next).run := by
  rw [ExceptT.run_bind]
  refine bind quiet fun result => ?_
  cases result with
  | ok value => exact behind value
  | error error => exact pure _

theorem pureExcept (value : α) : Quiet (Pure.pure value : ExceptT ε (StateM Desk) α).run := pure _

theorem lift {work : StateM Desk α} (quiet : Quiet work) :
    Quiet (ExceptT.lift work : ExceptT ε (StateM Desk) α).run :=
  bind quiet fun _ => pure _

end

end Quiet

end CompletionRules.Desk
