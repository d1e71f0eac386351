import CompletionRules.Proofs.Command.Effects
import CompletionRules.Proofs.Command.Outcome
import CompletionRules.Proofs.Files.Renamed

-- A script that was asked to go nowhere in particular goes next to its rules. Rules under a name with the
-- extension of scripts are next to themselves, and their script takes their place.

namespace CompletionRules

namespace SettingsFile

variable {files after : FileSystem} {environment : Environment} {disabled : Bool} {named : Option String}

def path? (environment : Environment) (disabled : Bool) (named : Option String) : Option String :=
  if disabled then .none else named <|> usualPath environment

theorem inFiles_write {output text : String} (written : files.write output text = .ok after)
    (apart : ∀ path ∈ path? environment disabled named, Desk.leadToSame files output path = false)
    (usable : Command.settingsFailure? (inFiles files environment disabled named) = .none) :
    inFiles after environment disabled named = inFiles files environment disabled named := by
  unfold path? at apart
  unfold inFiles at usable ⊢
  cases disabled with
  | true => rfl
  | false =>
    cases named with
    | some path =>
      have elsewhere := apart path rfl
      cases read : files.read path with
      | error error => simp [read, ofReading, Command.settingsFailure?] at usable
      | ok text =>
        have kept := FileSystem.read_write_held written elsewhere (FileSystem.read_look.mp read)
        simp only [kept]
    | none =>
      cases usual : usualPath environment with
      | none => rfl
      | some path =>
        have elsewhere := apart path usual
        dsimp only
        rw [FileSystem.holds_write written elsewhere]
        cases held : files.holds path with
        | false => rfl
        | true =>
          obtain ⟨node, looked⟩ := FileSystem.holds_look.mp held
          rw [FileSystem.read_write_held written elsewhere looked]

end SettingsFile

namespace Command

variable {environment : Environment} {asked : Invocation} {files after : FileSystem} {input rules text : String}
  {functionName wrapper : Option String} {front name : List Char}

theorem usualPath_names {path : String} (usual : SettingsFile.usualPath environment = some path) :
    ∃ front, Path.Names path front "config.toml".toList := by
  obtain ⟨base, _, rfl⟩ := Option.map_eq_some_iff.mp usual
  exact Path.join_names _ (by decide) (by decide) (by decide)

theorem outputPath_names (named : rules ≠ standardPath) (names : Path.Names rules front name) :
    Path.Names (outputPath rules none) front (Path.stem name ++ ".bash".toList) := by
  have renamed : outputPath rules none = Path.withExtension rules "bash" := if_neg named
  rw [renamed]
  exact names.renamed

theorem outputPath_named (named : rules ≠ standardPath) (names : Path.Names rules front name) :
    outputPath rules none ≠ standardPath := by
  intro standard
  have whole := (outputPath_names named names).whole
  rw [standard] at whole
  have lengths := congrArg List.length whole
  simp [standardPath] at lengths
  omega

-- Settings at the usual place are never written over; others are not if they are somewhere else.
theorem settings_apart (named : rules ≠ standardPath) (names : Path.Names rules front name)
    (apart : ∀ path ∈ asked.settings, Desk.leadToSame files (outputPath rules none) path = false) :
    ∀ path ∈ SettingsFile.path? environment asked.noSettings asked.settings,
      Desk.leadToSame files (outputPath rules none) path = false := by
  intro path looked
  unfold SettingsFile.path? at looked
  split at looked
  · cases looked
  cases given : asked.settings with
  | some other =>
    rw [given] at looked apart
    exact apart path looked
  | none =>
    rw [given] at looked
    obtain ⟨above, usual⟩ := usualPath_names looked
    refine FileSystem.apart_names (outputPath_names named names) usual fun same => ?_
    have ends := congrArg List.getLast? same
    simp at ends

theorem generate_run (environment : Environment) (input : String)
    (asks : asked.task = .generate rules none functionName wrapper) (named : outputPath rules none ≠ standardPath)
    (file : SettingsFile) (reading : Except FileError String) :
    ∃ (context : Context) (notes : List Note), ∀ files, settingsOf environment asked files = file →
      (Desk.start files input).textFrom rules = reading →
      outcome environment files input asked = concluded asked.plain
        (match prepared rules (fun settings => ⟨functionName, wrapper <|> settings.wrapper⟩) file reading with
        | .error failure => (.error failure, (Desk.start files input).told notes)
        | .ok made =>
          match files.write (outputPath rules none) made.script with
          | .error error => (.error (.notWritten (outputPath rules none) error), (Desk.start files input).told notes)
          | .ok after =>
            (.ok 0, ((Desk.start after input).told notes).announced ("Saved " ++ outputPath rules none ++ "\n")
              (warningLines context.plain made.diagnostics))) := by
  obtain ⟨context, notes, _, ran⟩ := prepared_run environment
    (asks ▸ generate_compiles rules none functionName wrapper) file reading
  refine ⟨context, notes, fun files met read => ?_⟩
  rw [outcome, runInvocation_run, ran (.start files input) rfl met read]
  cases prepared rules (fun settings => ⟨functionName, wrapper <|> settings.wrapper⟩) file reading with
  | error failure => rfl
  | ok made =>
    dsimp only
    have started : ((Desk.start files input).told notes).files = files := rfl
    rw [Context.report_saved _ _ named, write_run rfl, started]
    cases files.write (outputPath rules none) made.script with
    | error error => rfl
    | ok after => rfl

theorem prepared_settings {choices : Settings → Compilation.Choices} {file : SettingsFile}
    {reading : Except FileError String} {made : Compilation} (done : prepared rules choices file reading = .ok made) :
    settingsFailure? file = none := by
  unfold prepared at done
  split at done
  · cases done
  · assumption

theorem generate_again (asks : asked.task = .generate rules none functionName wrapper) (named : rules ≠ standardPath)
    (names : Path.Names rules front name) (readable : files.read rules = .ok text)
    (beside : Desk.leadToSame files (outputPath rules none) rules = false)
    (apart : ∀ path ∈ asked.settings, Desk.leadToSame files (outputPath rules none) path = false) :
    outcome environment (outcome environment files input asked).2.files input asked =
      outcome environment files input asked := by
  obtain ⟨context, notes, ran⟩ := generate_run environment input asks (outputPath_named named names)
    (settingsOf environment asked files) (.ok text)
  -- Only a script that was saved makes the second run find other files than the first.
  have first := ran files rfl ((Desk.textFrom_named named _).trans readable)
  cases done : prepared rules (fun settings => ⟨functionName, wrapper <|> settings.wrapper⟩)
      (settingsOf environment asked files) (.ok text) with
  | error failure =>
    have same : (outcome environment files input asked).2.files = files := by rw [first, done]; rfl
    rw [same]
  | ok made =>
    simp only [done] at first ran
    cases written : files.write (outputPath rules none) made.script with
    | error error =>
      have same : (outcome environment files input asked).2.files = files := by rw [first, written]; rfl
      rw [same]
    | ok after =>
      have saved : (outcome environment files input asked).2.files = after := by rw [first, written]; rfl
      have sameSettings : settingsOf environment asked after = settingsOf environment asked files :=
        SettingsFile.inFiles_write written (settings_apart named names apart) (prepared_settings done)
      have sameRules : after.read rules = .ok text :=
        (FileSystem.read_write_held written beside (FileSystem.read_look.mp readable)).trans readable
      rw [saved, ran after sameSettings ((Desk.textFrom_named named _).trans sameRules), first, written,
        FileSystem.write_again written]

theorem generate_kept (asks : asked.task = .generate rules none functionName wrapper)
    (readable : files.read rules = .ok text) (beside : Desk.leadToSame files (outputPath rules none) rules = false) :
    (outcome environment files input asked).2.files.read rules = .ok text := by
  have ended := runInvocation_ended environment asked (by rw [asks]; rfl) (.start files input)
  unfold outcome
  generalize (runInvocation environment asked : StateM Desk Nat).run (.start files input) = reached at ended ⊢
  obtain ⟨code, after⟩ := reached
  cases ended with
  | spared spares =>
    have same : after.files = files := spares.files
    rw [same]
    exact readable
  | saved allowed written =>
    rw [asks] at allowed
    obtain ⟨rfl, _⟩ := allowed
    exact (FileSystem.read_write_held written beside (FileSystem.read_look.mp readable)).trans readable

theorem generate_replaces (asks : asked.task = .generate rules none functionName wrapper) (named : rules ≠ standardPath)
    (readable : files.read rules = .ok text) (onto : outputPath rules none = rules)
    (usable : settingsFailure? (settingsOf environment asked files) = none) {document : Document}
    (read : Document.ofText text = .ok document) :
    (outcome environment files input asked).1 = 0 ∧
      (outcome environment files input asked).2.files.read rules =
        .ok (document.compile ⟨functionName, wrapper <|> (settingsOf environment asked files).settings.wrapper⟩).script := by
  have found : (Desk.start files input).textFrom rules = .ok text := (Desk.textFrom_named named _).trans readable
  have writable (script : String) : ∃ after, files.write (outputPath rules none) script = .ok after := by
    rw [onto]
    exact FileSystem.read_writable readable script
  obtain ⟨done, script, _⟩ := outcome_generate usable found asks read fun _ => writable
  rw [onto, Desk.textTo, if_neg named] at script
  exact ⟨done, script⟩

theorem rules_beside_script (environment : Environment) (files : FileSystem) (input rules text : String)
    (functionName wrapper : Option String) (asked : Invocation)
    (asks : asked.task = .generate rules none functionName wrapper) (named : rules ≠ standardPath)
    (rooted : files.Rooted) (readable : files.read rules = .ok text) :
    let output := outputPath rules none
    let first := outcome environment files input asked
    (Desk.leadToSame files output rules = true ↔ ∃ base, base ≠ "" ∧ Path.lastComponent rules = base ++ ".bash") ∧
    (Desk.leadToSame files output rules = false → first.2.files.read rules = .ok text ∧
      ((∀ path ∈ asked.settings, Desk.leadToSame files output path = false) →
        outcome environment first.2.files input asked = first)) ∧
    (Desk.leadToSame files output rules = true → settingsFailure? (settingsOf environment asked files) = none →
      ∀ document, Document.ofText text = .ok document →
        let effective := wrapper <|> (settingsOf environment asked files).settings.wrapper
        first.1 = 0 ∧ first.2.files.read rules = .ok (document.compile ⟨functionName, effective⟩).script) := by
  intro output first
  obtain ⟨front, name, names⟩ := FileSystem.read_names rooted readable
  obtain ⟨location, located, _⟩ := FileSystem.read_parts readable
  have same : Desk.leadToSame files output rules = true ↔ output = rules :=
    FileSystem.leadToSame_names names (outputPath_names named names) located
  have renamed : output = Path.withExtension rules "bash" := if_neg named
  refine ⟨?_, fun beside => ⟨generate_kept asks readable beside, generate_again asks named names readable beside⟩,
    fun onto usable document read => generate_replaces asks named readable (same.mp onto) usable read⟩
  rw [same, renamed]
  exact names.withExtension_same

theorem yaml_rules_kept :
    let files := (Desk.baseFiles ["tmp", "work"]).put ["tmp", "work", "rules.yaml"] (.file "tool: [a]\n")
    let asked : Invocation := ⟨.generate "rules.yaml" none none none, [], true, none, false⟩
    (outcome [] files "" asked).1 = 0 ∧ (outcome [] files "" asked).2.files.read "rules.yaml" = .ok "tool: [a]\n" ∧
      outcome [] (outcome [] files "" asked).2.files "" asked = outcome [] files "" asked := by
  intro files asked
  have rooted : files.Rooted := FileSystem.rooted_of_nodes (by decide +kernel)
  have readable : files.read "rules.yaml" = .ok "tool: [a]\n" := rfl
  have beside : Desk.leadToSame files (outputPath "rules.yaml" none) "rules.yaml" = false := by decide +kernel
  obtain ⟨kept, again⟩ := (rules_beside_script [] files "" "rules.yaml" "tool: [a]\n" none none asked rfl (by decide)
    rooted readable).2.1 beside
  refine ⟨by decide +kernel, kept, again ?_⟩
  rintro path ⟨⟩

theorem bash_rules_lost :
    let files := (Desk.baseFiles ["tmp", "work"]).put ["tmp", "work", "rules.bash"] (.file "tool: [a]\n")
    let ended := (run [] ["generate", "rules.bash"] : StateM Desk Nat).run (.ofFiles files)
    (files.read "rules.bash").toOption = some "tool: [a]\n" ∧ ended.1 = 0 ∧
      (ended.2.files.read "rules.bash").toOption ≠ some "tool: [a]\n" := by
  decide +kernel

end Command

end CompletionRules
