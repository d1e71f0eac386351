import CompletionRules.Proofs.Command.Outcome
import CompletionRules.Proofs.Script.Unwrapping

-- The tasks that compile rules say the same about the same rules: generating and previewing differ in
-- the wrapping of the script alone, and validating finds what the other two warn of.

namespace CompletionRules.Command

def bare? (wrapper : Option String) (script : String) : Option String :=
  match wrapper with
  | none => some script
  | some _ => Script.unwrap? script

structure Agree (rules output : String) (wrapper : Option String) (plain : Bool) (diagnostics : List Diagnostic)
    (generated previewed validated : Nat × Desk) : Prop where
  done : generated.1 = 0 ∧ previewed.1 = 0
  script : ∃ script, generated.2.textTo output = .ok script ∧ bare? wrapper script = some previewed.2.printed
  warned : generated.2.Reports (warningLines plain diagnostics) ∧ previewed.2.Reports (warningLines plain diagnostics)
  valid : validated.1 = 0 ↔ warningLines plain diagnostics = ""
  found : diagnostics ≠ [] → validated.2.printed =
    String.join (diagnostics.map fun diagnostic => diagnostic.text ++ "\n") ++
      rules ++ " has " ++ toString diagnostics.length ++ " problem(s)\n"

theorem warningLines_empty {plain : Bool} {diagnostics : List Diagnostic} :
    warningLines plain diagnostics = "" ↔ diagnostics = [] := by
  cases diagnostics with
  | nil => simp [warningLines]
  | cons diagnostic rest => simp [warningLines, warningLine, reportLine]

theorem bare?_compile (document : Document) (functionName : Option String) {wrapper : Option String}
    (oneLine : ∀ name ∈ wrapper, '\n' ∉ name.toList) :
    bare? wrapper (document.compile ⟨functionName, wrapper⟩).script =
      some (document.compile ⟨functionName, none⟩).script := by
  cases wrapper with
  | none => rfl
  | some name =>
    change Script.unwrap? (Script.wrap (document.compile ⟨functionName, none⟩).script name) = _
    have ends : (document.compile ⟨functionName, none⟩).script.toList.getLast? = some '\n' :=
      Script.emit_ends document.table document.options _
    rw [Script.unwrap?_wrap _ (oneLine name rfl), Script.dropOneLineFeed_ends ends, String.ofList_toList]

theorem commands_agree (environment : Environment) (files : FileSystem) (input rules text : String)
    (functionName output wrapper : Option String) (plain : Bool) (generating previewing validating : Invocation)
    (asks : generating.task = .generate rules output functionName wrapper ∧
      previewing.task = .preview rules functionName ∧ validating.task = .validate rules)
    (usable : ∀ asked ∈ [generating, previewing, validating],
      asked.plain = plain ∧ settingsFailure? (settingsOf environment asked files) = none)
    (readable : (Desk.start files input).textFrom rules = .ok text)
    (writable : outputPath rules output ≠ standardPath →
      ∀ script, ∃ after, files.write (outputPath rules output) script = .ok after) :
    let effective := wrapper <|> (settingsOf environment generating files).settings.wrapper
    (∀ name ∈ effective, '\n' ∉ name.toList) →
    let outcome := outcome environment files input
    (∀ document, Document.ofText text = .ok document →
      Agree rules (outputPath rules output) effective plain document.table.diagnostics
        (outcome generating) (outcome previewing) (outcome validating)) ∧
    ∀ error, Document.ofText text = .error error → ∀ asked ∈ [generating, previewing, validating],
      (outcome asked).1 = 1 ∧ (outcome asked).2.printed = "" ∧
        (outcome asked).2.Reports (errorLine plain (.notLoaded rules error)) := by
  intro effective oneLine outcome
  obtain ⟨generates, previews, validates⟩ := asks
  simp only [List.forall_mem_cons, List.not_mem_nil, false_implies, implies_true, and_true] at usable ⊢
  obtain ⟨⟨rfl, generateUsable⟩, ⟨samePreview, previewUsable⟩, sameValidate, validateUsable⟩ := usable
  refine ⟨fun document read => ?_, fun error unread => ⟨?_, ?_, ?_⟩⟩
  · obtain ⟨generateDone, script, generateWarned⟩ := outcome_generate generateUsable readable generates read writable
    obtain ⟨previewDone, printed, previewWarned⟩ := outcome_preview previewUsable readable previews read
    have verdict := outcome_validate validateUsable readable validates read
    rw [samePreview] at previewWarned
    refine ⟨⟨generateDone, previewDone⟩, ⟨_, script, ?_⟩, ⟨generateWarned, previewWarned⟩, ?_, ?_⟩
    · rw [printed]
      exact bare?_compile document functionName oneLine
    · rw [show (outcome validating).1 = _ from congrArg Prod.snd verdict, Context.verdict, warningLines_empty]
      cases document.table.diagnostics with
      | nil => simp
      | cons diagnostic rest => simp
    · intro some
      rw [show (outcome validating).2.printed = _ from congrArg Prod.fst verdict, Context.verdict,
        if_neg (by simpa using some)]
  · exact outcome_refused generateUsable readable
      (generates ▸ generate_compiles rules output functionName wrapper) unread
  · rw [← samePreview]
    exact outcome_refused previewUsable readable (previews ▸ preview_compiles rules functionName) unread
  · rw [← sameValidate]
    exact outcome_refused validateUsable readable (validates ▸ validate_compiles rules) unread

theorem tool_commands_agree :
    let files := Desk.baseFiles ["tmp", "work"]
    let asked (task : Task) : Invocation := ⟨task, [.load], true, none, true⟩
    let outcome (task : Task) := outcome [] files "tool:\n" (asked task)
    ∃ document, Document.ofText "tool:\n" = .ok document ∧ document.table.diagnostics ≠ [] ∧
      Agree "-" "tool.bash" (some "tool_script") true document.table.diagnostics
        (outcome (.generate "-" (some "tool.bash") (some "_tool") (some "tool_script")))
        (outcome (.preview "-" (some "_tool"))) (outcome (.validate "-")) := by
  intro files asked outcome
  have writable (script : String) : ∃ after, files.write "tool.bash" script = .ok after := ⟨_, rfl⟩
  have agree := commands_agree [] files "tool:\n" "-" "tool:\n" (some "_tool") (some "tool.bash") (some "tool_script")
    true (asked (.generate "-" (some "tool.bash") (some "_tool") (some "tool_script")))
    (asked (.preview "-" (some "_tool"))) (asked (.validate "-")) ⟨rfl, rfl, rfl⟩ (by decide +kernel) rfl
    (fun _ => writable) (by decide +kernel)
  have problems : (Document.ofText "tool:\n").toOption.any
      (fun document => !document.table.diagnostics.isEmpty) = true := by decide +kernel
  rcases read : Document.ofText "tool:\n" with error | document
  · rw [read] at problems
    cases problems
  · rw [read] at problems
    exact ⟨document, rfl, by simpa [Except.toOption] using problems, agree.1 document read⟩

end CompletionRules.Command
