import CompletionRules.Proofs.Host.Quiet

-- A run of the command taken apart where it has read its files.

namespace CompletionRules

namespace Desk

def told (desk : Desk) (notes : List Note) : Desk :=
  { desk with complained := desk.complained ++ String.join (notes.map Note.line) }

theorem told_nil (desk : Desk) : desk.told [] = desk := by simp [told]

theorem told_told (desk : Desk) (first second : List Note) :
    (desk.told first).told second = desk.told (first ++ second) := by
  simp [told, String.append_assoc]

def announced (desk : Desk) (text report : String) : Desk :=
  { desk with printed := desk.printed ++ text, complained := desk.complained ++ report }

end Desk

namespace Command

variable {ε : Type}

abbrev Work (α : Type) := ExceptT Failure (StateM Desk) α

theorem record_run (journal : Journal) (notes : List Note) (desk : Desk) :
    (record journal notes : ExceptT ε (StateM Desk) Unit).run.run desk =
      (.ok (), desk.told (notes.filter journal.writes)) :=
  rfl

def readRules (text : String) : Except LoadError (Document × List Note) :=
  (Document.valueOf text).bind fun value =>
    (Document.ofValue value).map fun document => (document, document.loadNotes value)

theorem readRules_document (text : String) : (readRules text).map Prod.fst = Document.ofText text := by
  rw [readRules, Document.ofText]
  cases Document.valueOf text with
  | error error => rfl
  | ok value =>
    change Except.map _ ((Document.ofValue value).map _) = Document.ofValue value
    cases Document.ofValue value with
    | error error => rfl
    | ok document => rfl

theorem holds_run (path : String) (desk : Desk) :
    (Disk.holds path : ExceptT ε (StateM Desk) Bool).run.run desk = (.ok (desk.files.holds path), desk) := by
  have looked : (Disk.look path : ExceptT ε (StateM Desk) (Except FileError FileKind)).run.run desk =
    (.ok ((desk.files.look path).map FileNode.kind), desk) := rfl
  rw [Disk.holds, Desk.run_bind_ok looked, FileSystem.holds]
  cases desk.files.look path with
  | error error => rfl
  | ok node => rfl

def warningLines (plain : Bool) (diagnostics : List Diagnostic) : String :=
  String.join (diagnostics.map (warningLine plain))

theorem written_run {α : Type} (path text : String) (next : Unit → Work α) (desk : Desk) :
    (Disk.write path text >>= fun result => orFail (.notWritten path) result >>= next).run.run desk =
      match (Disk.write path text : StateM Desk (Except FileError Unit)).run desk with
      | (.error error, after) => (.error (.notWritten path error), after)
      | (.ok _, after) => (next ()).run.run after := by
  rcases written : (Disk.write path text : StateM Desk (Except FileError Unit)).run desk with ⟨_ | _, after⟩
  · exact Desk.run_bind_ok (Desk.run_lift written)
  · exact Desk.run_bind_ok (Desk.run_lift written)

namespace Context

variable (context : Context)

section

variable {m : Type → Type} [Monad m] [Machine m]

def compileText (path : String) (choices : Compilation.Choices) (text : String) : ExceptT Failure m Compilation := do
  match ← (context.loadRules text).run with
  | .error error => do
    record context.journal [error.note]
    throw (.notLoaded path error)
  | .ok document => do
    let made := document.compile choices
    record context.journal (made.notes document)
    pure made

theorem compileRules_eq (path : String) (choices : Compilation.Choices) :
    (context.compileRules path choices : ExceptT Failure m Compilation) =
      readText path >>= context.compileText path choices :=
  rfl

def report (made : Compilation) (output : String) : ExceptT Failure m Nat := do
  writeText output made.script
  if output ≠ standardPath then announceSaved output
  context.warn made
  pure 0

theorem generate_eq (rules output : String) (choices : Compilation.Choices) :
    (context.generate rules output choices : ExceptT Failure m Nat) =
      context.compileRules rules choices >>= fun made => context.report made output :=
  rfl

theorem preview_eq (rules : String) (functionName : Option String) :
    (context.preview rules functionName : ExceptT Failure m Nat) =
      context.generate rules standardPath ⟨functionName, none⟩ := by
  simp [preview, generate]

end

def compiled (path : String) (choices : Compilation.Choices) (text : String) : Except Failure Compilation :=
  ((Document.ofText text).mapError (.notLoaded path)).map fun document => document.compile choices

theorem loadRules_run {m : Type → Type} [Monad m] [LawfulMonad m] [Machine m] (text : String) :
    (context.loadRules text : ExceptT LoadError m Document).run =
      match readRules text with
      | .error error => pure (.error error)
      | .ok (document, notes) => (do record context.journal notes; pure (.ok document)) := by
  have recorded (notes : List Note) : (record context.journal notes : ExceptT LoadError m Unit).run =
    Except.ok <$> record context.journal notes := rfl
  rw [loadRules, readRules, ExceptT.run_bind, ExceptT.run_mk, pure_bind]
  cases Document.valueOf text with
  | error error => rfl
  | ok value =>
    dsimp only
    rw [ExceptT.run_bind, ExceptT.run_mk, pure_bind, Except.bind]
    cases Document.ofValue value with
    | error error => rfl
    | ok document =>
      dsimp only
      rw [ExceptT.run_bind, recorded, bind_map_left]
      rfl

theorem compileText_run (path : String) (choices : Compilation.Choices) (text : String) : ∃ notes, ∀ desk,
    (context.compileText path choices text : Work Compilation).run.run desk =
      (compiled path choices text, desk.told notes) := by
  have documents := readRules_document text
  simp only [compileText, loadRules_run, compiled, ← documents]
  rcases readRules text with error | ⟨document, notes⟩
  · refine ⟨[error.note].filter context.journal.writes, fun desk => ?_⟩
    rw [pure_bind, Desk.run_bind_ok (record_run _ _ desk)]
    rfl
  · refine ⟨notes.filter context.journal.writes ++
      ((document.compile choices).notes document).filter context.journal.writes, fun desk => ?_⟩
    rw [bind_assoc, Desk.run_bind_ok (record_run _ _ desk), pure_bind, Desk.run_bind_ok (record_run _ _ _),
      Desk.told_told]
    rfl

theorem report_standard (made : Compilation) (desk : Desk) :
    (context.report made standardPath : Work Nat).run.run desk =
      (.ok 0, desk.announced made.script (warningLines context.plain made.diagnostics)) :=
  rfl

theorem report_saved (made : Compilation) {output : String} (named : output ≠ standardPath) (desk : Desk) :
    (context.report made output : Work Nat).run.run desk =
      match (Disk.write output made.script : StateM Desk (Except FileError Unit)).run desk with
      | (.error error, after) => (.error (.notWritten output error), after)
      | (.ok _, after) =>
        (.ok 0, after.announced ("Saved " ++ output ++ "\n") (warningLines context.plain made.diagnostics)) := by
  unfold report writeText
  rw [if_neg named, if_pos named, bind_assoc]
  exact written_run output made.script _ desk

end Context

section

variable {m : Type → Type} [Monad m] [Machine m]

def settle (journal : Journal) (file : SettingsFile) : ExceptT Failure m (Settings × Journal) := do
  match file.error with
  | some error => do
    let path := file.path.getD ""
    if file.named then throw (.settings path error)
    record journal [.warning ("ignoring " ++ path ++ ": " ++ error.message)]
    pure (file.settings, journal)
  | none => do
    let journal := enableAll journal file.settings.topics
    record journal
      [.detail .load
        ("settings loaded from " ++ pathText file.path ++ "; tracing " ++
          toString journal.enabled.length ++ " event class(es)")]
    pure (file.settings, journal)

theorem loadSettings_eq (environment : Environment) (journal : Journal) (asked : Invocation) :
    (loadSettings environment journal asked : ExceptT Failure m (Settings × Journal)) =
      SettingsFile.load environment asked.noSettings asked.settings >>= settle journal :=
  rfl

end

def settingsFailure? (file : SettingsFile) : Option Failure :=
  if file.named then file.error.map (.settings (file.path.getD "")) else none

theorem settle_run (journal : Journal) (file : SettingsFile) : ∃ opened notes, ∀ desk,
    (settle journal file : Work (Settings × Journal)).run.run desk =
      (match settingsFailure? file with
        | some failure => .error failure
        | none => .ok (file.settings, opened), desk.told notes) := by
  unfold settle settingsFailure?
  obtain ⟨settings, path, error, named⟩ := file
  cases error with
  | none =>
    cases named with
    | true => exact ⟨_, _, fun desk => Desk.run_bind_ok (record_run ..)⟩
    | false => exact ⟨_, _, fun desk => Desk.run_bind_ok (record_run ..)⟩
  | some error =>
    cases named with
    | true => exact ⟨journal, [], fun desk => by rw [Desk.told_nil]; rfl⟩
    | false => exact ⟨journal, _, fun desk => Desk.run_bind_ok (record_run ..)⟩

def concluded (plain : Bool) : Except Failure Nat × Desk → Nat × Desk
  | (.ok code, after) => (code, after)
  | (.error failure, after) => (1, { after with complained := after.complained ++ errorLine plain failure })

theorem runInvocation_run (environment : Environment) (asked : Invocation) (desk : Desk) :
    (runInvocation environment asked : StateM Desk Nat).run desk =
      concluded asked.plain ((runTask environment asked : Work Nat).run.run desk) := by
  rw [runInvocation, StateT.run_bind]
  rcases (runTask environment asked : Work Nat).run.run desk with ⟨_ | _, after⟩
  · rfl
  · rfl

end Command

end CompletionRules
