import CompletionRules.Proofs.Command.Untroubled
import CompletionRules.Proofs.Files.Change

-- What the tasks that compile rules come to, when the settings can be used and the rules are there to
-- be read.

namespace CompletionRules

namespace Desk

def textTo (desk : Desk) (path : String) : Except FileError String :=
  if path = Command.standardPath then .ok desk.printed else desk.files.read path

def Reports (desk : Desk) (report : String) : Prop :=
  ∃ notes : List Note, desk.complained = String.join (notes.map Note.line) ++ report

end Desk

namespace Command

variable {environment : Environment} {files : FileSystem} {input rules text : String} {asked : Invocation}

def outcome (environment : Environment) (files : FileSystem) (input : String) (asked : Invocation) : Nat × Desk :=
  (runInvocation environment asked : StateM Desk Nat).run (.start files input)

theorem told_reports (files : FileSystem) (input : String) (notes : List Note) (report : String) :
    ((Desk.start files input).told notes).complained ++ report = String.join (notes.map Note.line) ++ report := by
  simp [Desk.told, Desk.start, Desk.ofFiles]

section

variable (usable : settingsFailure? (settingsOf environment asked files) = none)
  (readable : (Desk.start files input).textFrom rules = .ok text)

include usable readable

theorem outcome_run {choices : Settings → Compilation.Choices} {next : Context → Compilation → Work Nat}
    (compiles : asked.task.Compiles rules choices next) :
    ∃ (context : Context) (notes : List Note), context.plain = asked.plain ∧
      outcome environment files input asked = concluded asked.plain
        (match Document.ofText text with
        | .error error => (.error (.notLoaded rules error), (Desk.start files input).told notes)
        | .ok document =>
          (next context (document.compile (choices (settingsOf environment asked files).settings))).run.run
            ((Desk.start files input).told notes)) := by
  obtain ⟨context, notes, plain, ran⟩ := prepared_run environment compiles
    (settingsOf environment asked files) (.ok text)
  refine ⟨context, notes, plain, ?_⟩
  rw [outcome, runInvocation_run, ran (.start files input) rfl rfl readable, prepared_usable usable, Context.compiled]
  cases Document.ofText text with
  | error error => rfl
  | ok document => rfl

theorem outcome_refused {choices : Settings → Compilation.Choices} {next : Context → Compilation → Work Nat}
    (compiles : asked.task.Compiles rules choices next) {error : LoadError}
    (unread : Document.ofText text = .error error) :
    (outcome environment files input asked).1 = 1 ∧ (outcome environment files input asked).2.printed = "" ∧
      (outcome environment files input asked).2.Reports (errorLine asked.plain (.notLoaded rules error)) := by
  obtain ⟨context, notes, _, ran⟩ := outcome_run usable readable compiles
  rw [ran, unread]
  exact ⟨rfl, rfl, notes, told_reports _ _ _ _⟩

theorem outcome_generate {document : Document} {functionName output wrapper : Option String}
    (asks : asked.task = .generate rules output functionName wrapper) (read : Document.ofText text = .ok document)
    (writable : outputPath rules output ≠ standardPath →
      ∀ script, ∃ after, files.write (outputPath rules output) script = .ok after) :
    (outcome environment files input asked).1 = 0 ∧
      (outcome environment files input asked).2.textTo (outputPath rules output) =
        .ok (document.compile ⟨functionName, wrapper <|> (settingsOf environment asked files).settings.wrapper⟩).script ∧
      (outcome environment files input asked).2.Reports (warningLines asked.plain document.table.diagnostics) := by
  obtain ⟨context, notes, plain, ran⟩ := outcome_run usable readable
    (asks ▸ generate_compiles rules output functionName wrapper)
  rw [ran, read, ← plain]
  dsimp only
  have warned := told_reports files input notes
    (warningLines context.plain document.table.diagnostics)
  by_cases standard : outputPath rules output = standardPath
  · rw [standard, Context.report_standard]
    refine ⟨rfl, ?_, notes, warned⟩
    rw [Desk.textTo, if_pos rfl]
    exact congrArg Except.ok String.empty_append
  · rw [Context.report_saved _ _ standard]
    obtain ⟨after, written⟩ := writable standard (document.compile
      ⟨functionName, wrapper <|> (settingsOf environment asked files).settings.wrapper⟩).script
    have started : ((Desk.start files input).told notes).files = files := rfl
    rw [write_run rfl, started, written]
    refine ⟨rfl, ?_, notes, warned⟩
    rw [Desk.textTo, if_neg standard]
    exact FileSystem.write_read written

theorem outcome_preview {document : Document} {functionName : Option String}
    (asks : asked.task = .preview rules functionName) (read : Document.ofText text = .ok document) :
    (outcome environment files input asked).1 = 0 ∧
      (outcome environment files input asked).2.printed = (document.compile ⟨functionName, none⟩).script ∧
      (outcome environment files input asked).2.Reports (warningLines asked.plain document.table.diagnostics) := by
  obtain ⟨context, notes, plain, ran⟩ := outcome_run usable readable (asks ▸ preview_compiles rules functionName)
  rw [ran, read, ← plain]
  dsimp only
  rw [Context.report_standard]
  exact ⟨rfl, String.empty_append, notes, told_reports _ _ _ _⟩

theorem outcome_validate {document : Document} (asks : asked.task = .validate rules)
    (read : Document.ofText text = .ok document) :
    ((outcome environment files input asked).2.printed, (outcome environment files input asked).1) =
      Context.verdict rules document.table.diagnostics := by
  obtain ⟨context, notes, _, ran⟩ := outcome_run usable readable (asks ▸ validate_compiles rules)
  rw [ran, read]
  exact congrArg (·, (Context.verdict rules document.table.diagnostics).2) String.empty_append

end

end Command

end CompletionRules
