import CompletionRules.Proofs.Command.Steps

-- Runs that nothing goes wrong for on the way to the files: what is read is what is there.

namespace CompletionRules

namespace SettingsFile

def ofReading (path : String) : Except FileError String → SettingsFile
  | .error error => ⟨.default, some path, some (.unreadable error), false⟩
  | .ok text =>
    match Settings.ofText text with
    | .error fault => ⟨.default, some path, some (.malformed fault text), false⟩
    | .ok settings => ⟨settings, some path, .none, false⟩

def inFiles (files : FileSystem) (environment : Environment) (disabled : Bool) (named : Option String) : SettingsFile :=
  if disabled then none .none
  else match named, usualPath environment with
    | some path, _ => { ofReading path (files.read path) with named := true }
    | .none, .none => none .none
    | .none, some path => if files.holds path then ofReading path (files.read path) else none (some path)

end SettingsFile

def Desk.start (files : FileSystem) (input : String) : Desk := { Desk.ofFiles files with input := input }

def Desk.textFrom (desk : Desk) (path : String) : Except FileError String :=
  if path = Command.standardPath then .ok desk.input else desk.files.read path

theorem Desk.textFrom_named {path : String} (named : path ≠ Command.standardPath) (desk : Desk) :
    desk.textFrom path = desk.files.read path :=
  if_neg named

namespace Command

variable {ε : Type} {desk : Desk}

theorem read_run (untroubled : desk.accidents = []) (path : String) :
    (Disk.read path : ExceptT ε (StateM Desk) (Except FileError String)).run.run desk =
      (.ok (desk.files.read path), desk) := by
  obtain ⟨files, input, printed, complained, ran, accidents⟩ := desk
  obtain rfl : accidents = [] := untroubled
  rfl

theorem write_run (untroubled : desk.accidents = []) (path text : String) :
    (Disk.write path text : StateM Desk (Except FileError Unit)).run desk =
      match desk.files.write path text with
      | .ok files => (.ok (), { desk with files := files })
      | .error error => (.error error, desk) :=
  Desk.change_run untroubled fun files => files.write path text

theorem ofPath_run (untroubled : desk.accidents = []) (path : String) :
    (SettingsFile.ofPath path : ExceptT ε (StateM Desk) SettingsFile).run.run desk =
      (.ok (.ofReading path (desk.files.read path)), desk) := by
  rw [SettingsFile.ofPath, Desk.run_bind_ok (read_run untroubled path)]
  cases desk.files.read path with
  | error error => rfl
  | ok text =>
    rw [SettingsFile.ofReading]
    dsimp only
    cases Settings.ofText text with
    | error fault => rfl
    | ok settings => rfl

theorem load_run (untroubled : desk.accidents = []) (environment : Environment) (disabled : Bool)
    (named : Option String) :
    (SettingsFile.load environment disabled named : ExceptT ε (StateM Desk) SettingsFile).run.run desk =
      (.ok (.inFiles desk.files environment disabled named), desk) := by
  unfold SettingsFile.load SettingsFile.inFiles
  cases disabled with
  | true => rfl
  | false =>
    cases named with
    | some path => exact Desk.run_bind_ok (ofPath_run untroubled path)
    | none =>
      cases SettingsFile.usualPath environment with
      | none => rfl
      | some path =>
        refine (Desk.run_bind_ok (holds_run path desk)).trans ?_
        cases there : desk.files.holds path with
        | true => simpa [there] using ofPath_run untroubled path
        | false => simp [there]; rfl

theorem readText_run (untroubled : desk.accidents = []) (path : String) :
    (readText path : Work String).run.run desk =
      ((desk.textFrom path).mapError (.notRead path), desk) := by
  unfold readText Desk.textFrom
  by_cases standard : path = standardPath
  · obtain ⟨files, input, printed, complained, ran, accidents⟩ := desk
    obtain rfl : accidents = [] := untroubled
    rw [if_pos standard, if_pos standard]
    rfl
  · rw [if_neg standard, if_neg standard, Desk.run_bind_ok (read_run untroubled path)]
    rfl

theorem compileRules_run (untroubled : desk.accidents = []) (context : Context) (path : String)
    (choices : Compilation.Choices) :
    (context.compileRules path choices : Work Compilation).run.run desk =
      match desk.textFrom path with
      | .error error => (.error (.notRead path error), desk)
      | .ok text => (context.compileText path choices text : Work Compilation).run.run desk := by
  have read := readText_run untroubled path
  rw [Context.compileRules_eq]
  cases found : desk.textFrom path with
  | error error => exact Desk.run_bind_error (read.trans (by rw [found]; rfl))
  | ok text => exact Desk.run_bind_ok (read.trans (by rw [found]; rfl))

def settingsOf (environment : Environment) (asked : Invocation) (files : FileSystem) : SettingsFile :=
  .inFiles files environment asked.noSettings asked.settings

theorem loadSettings_run (untroubled : desk.accidents = []) (environment : Environment) (journal : Journal)
    (asked : Invocation) :
    (loadSettings environment journal asked : Work (Settings × Journal)).run.run desk =
      (settle journal (settingsOf environment asked desk.files) : Work _).run.run desk := by
  rw [loadSettings_eq, Desk.run_bind_ok (load_run untroubled _ _ _), settingsOf]

def prepared (rules : String) (choices : Settings → Compilation.Choices) (file : SettingsFile)
    (reading : Except FileError String) : Except Failure Compilation :=
  match settingsFailure? file with
  | some failure => .error failure
  | none =>
    match reading with
    | .error error => .error (.notRead rules error)
    | .ok text => Context.compiled rules (choices file.settings) text

def Task.Compiles (task : Task) (rules : String) (choices : Settings → Compilation.Choices)
    (next : Context → Compilation → Work Nat) : Prop :=
  ∀ context : Context, context.perform task = context.compileRules rules (choices context.settings) >>= next context

theorem prepared_run (environment : Environment) {asked : Invocation} {rules : String}
    {choices : Settings → Compilation.Choices} {next : Context → Compilation → Work Nat}
    (compiles : asked.task.Compiles rules choices next) (file : SettingsFile) (reading : Except FileError String) :
    ∃ (context : Context) (notes : List Note), context.plain = asked.plain ∧ ∀ desk : Desk, desk.accidents = [] →
      settingsOf environment asked desk.files = file →
      desk.textFrom rules = reading →
      (runTask environment asked : Work Nat).run.run desk =
        match prepared rules choices file reading with
        | .error failure => (.error failure, desk.told notes)
        | .ok made => (next context made).run.run (desk.told notes) := by
  obtain ⟨journal, first, settled⟩ := settle_run (enableAll ⟨[], true⟩ asked.topics) file
  let context : Context := ⟨environment, file.settings, journal, asked.plain⟩
  unfold prepared
  cases wrong : settingsFailure? file with
  | some failure =>
    refine ⟨context, first, rfl, fun desk untroubled met _ => ?_⟩
    have refused : (loadSettings environment (enableAll ⟨[], true⟩ asked.topics) asked : Work _).run.run desk =
        (.error failure, desk.told first) := by
      rw [loadSettings_run untroubled, met, settled, wrong]
    rw [runTask, Desk.run_bind_error refused]
  | none =>
    have loaded (desk : Desk) (untroubled : desk.accidents = [])
        (met : settingsOf environment asked desk.files = file) :
        (runTask environment asked : Work Nat).run.run desk =
          (context.compileRules rules (choices file.settings) >>= next context).run.run (desk.told first) := by
      have loads : (loadSettings environment (enableAll ⟨[], true⟩ asked.topics) asked : Work _).run.run desk =
          (.ok (file.settings, journal), desk.told first) := by
        rw [loadSettings_run untroubled, met, settled, wrong]
      rw [← compiles, runTask, Desk.run_bind_ok loads]
    cases reading with
    | error error =>
      refine ⟨context, first, rfl, fun desk untroubled met read => ?_⟩
      rw [loaded desk untroubled met]
      have unread : (desk.told first).textFrom rules = .error error := read
      refine Desk.run_bind_error ?_
      rw [compileRules_run (show (desk.told first).accidents = [] from untroubled), unread]
    | ok text =>
      obtain ⟨second, ran⟩ := context.compileText_run rules (choices file.settings) text
      refine ⟨context, first ++ second, rfl, fun desk untroubled met read => ?_⟩
      have found : (desk.told first).textFrom rules = .ok text := read
      have made : (context.compileRules rules (choices file.settings) :
          Work Compilation).run.run (desk.told first) =
          (Context.compiled rules (choices file.settings) text, desk.told (first ++ second)) := by
        rw [compileRules_run (show (desk.told first).accidents = [] from untroubled), found, ← Desk.told_told]
        exact ran _
      rw [loaded desk untroubled met]
      dsimp only
      cases result : Context.compiled rules (choices file.settings) text with
      | error failure => exact Desk.run_bind_error (made.trans (by rw [result]))
      | ok compilation => exact Desk.run_bind_ok (made.trans (by rw [result]))

theorem prepared_usable {rules text : String} {choices : Settings → Compilation.Choices} {file : SettingsFile}
    (usable : settingsFailure? file = none) :
    prepared rules choices file (.ok text) = Context.compiled rules (choices file.settings) text := by
  rw [prepared, usable]

theorem generate_compiles (rules : String) (output functionName wrapper : Option String) :
    (Task.generate rules output functionName wrapper).Compiles rules
      (fun settings => ⟨functionName, wrapper <|> settings.wrapper⟩)
      (fun context made => context.report made (outputPath rules output)) :=
  fun _ => rfl

theorem preview_compiles (rules : String) (functionName : Option String) :
    (Task.preview rules functionName).Compiles rules (fun _ => ⟨functionName, none⟩)
      (fun context made => context.report made standardPath) :=
  fun context => context.preview_eq rules functionName

def pronounce (rules : String) (made : Compilation) : Work Nat := do
  let (text, code) := Context.verdict rules made.diagnostics
  Machine.print text
  pure code

theorem validate_compiles (rules : String) :
    (Task.validate rules).Compiles rules (fun _ => ⟨none, none⟩) (fun _ => pronounce rules) :=
  fun _ => rfl

end Command

end CompletionRules
