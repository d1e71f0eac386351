import Mathlib.Data.List.DropRight
import CompletionRules.Candidates.Completion
import CompletionRules.Proofs.Text.Lines
import CompletionRules.Script.Emit
import CompletionRules.Script.Wrapper

-- A command as it stands in a script. It is cut into lines, so what is lost is the blanks that it ends in and
-- a carriage return before a line feed. Completion hands on the command itself.

namespace CompletionRules

namespace Text

variable {text front ending : List Char}

theorem rdropWhile_append {p : Char → Bool} (dropped : ∀ c ∈ ending, p c = true) :
    (front ++ ending).rdropWhile p = front.rdropWhile p := by
  rw [List.rdropWhile, List.reverse_append, List.dropWhile_append_of_pos (by simpa using dropped), List.rdropWhile]

theorem rdropWhile_feeds (ends : text.getLast? ≠ some '\n') : text.rdropWhile (· == '\n') = text := by
  rw [List.rdropWhile_eq_self_iff]
  intro filled feed
  exact ends (by rw [List.getLast?_eq_some_getLast filled, beq_iff_eq.mp feed])

theorem rdropWhile_blanks_ends (text : List Char) : (text.rdropWhile isBlank).getLast? ≠ some '\n' := by
  intro ends
  have filled : text.rdropWhile isBlank ≠ [] := by
    intro empty
    rw [empty] at ends
    cases ends
  have unblank := List.rdropWhile_last_not isBlank text filled
  rw [List.getLast?_eq_some_getLast filled, Option.some.injEq] at ends
  rw [ends] at unblank
  exact unblank (by decide)

theorem withoutReturns_getLast? (text : List Char) : (withoutReturns text).getLast? = text.getLast? := by
  fun_induction withoutReturns text with
  | case1 => rfl
  | case2 rest ih => rw [List.getLast?_cons_cons, List.getLast?_cons, List.getLast?_cons, ih]
  | case3 c rest _ ih => rw [List.getLast?_cons, List.getLast?_cons, ih]

-- Blanks that are cut off and returns that are left out both make a text shorter, so neither can make up
-- for the other.
theorem withoutReturns_feeds_iff (text : List Char) :
    withoutReturns (text.rdropWhile isBlank) = text.rdropWhile (· == '\n') ↔
      (∀ c ∈ text.rtakeWhile isBlank, c = '\n') ∧ ¬['\r', '\n'] <:+: text.rdropWhile isBlank := by
  have feedBlank : ∀ c ∈ text.rtakeWhile (· == '\n'), isBlank c = true := by
    intro c member
    have feed : c = '\n' := by simpa using List.mem_rtakeWhile_imp member
    rw [feed]
    decide
  have further : text.rdropWhile isBlank = (text.rdropWhile (· == '\n')).rdropWhile isBlank := by
    conv_lhs => rw [← List.rdropWhile_append_rtakeWhile (p := (· == '\n')) (l := text)]
    exact rdropWhile_append feedBlank
  constructor
  · intro same
    have shorter := withoutReturns_length (text.rdropWhile isBlank)
    have start : text.rdropWhile isBlank <+: text.rdropWhile (· == '\n') := by
      rw [further]
      exact List.rdropWhile_prefix _ _
    have whole : text.rdropWhile isBlank = text.rdropWhile (· == '\n') :=
      start.eq_of_length_le (by rw [← same]; exact shorter)
    have cut : text.rtakeWhile isBlank = text.rtakeWhile (· == '\n') := by
      have parts : text.rdropWhile isBlank ++ text.rtakeWhile isBlank =
          text.rdropWhile isBlank ++ text.rtakeWhile (· == '\n') := by
        conv_rhs => rw [whole]
        rw [List.rdropWhile_append_rtakeWhile, List.rdropWhile_append_rtakeWhile]
      exact List.append_cancel_left parts
    refine ⟨fun c member => ?_, withoutReturns_eq_self.mp (same.trans whole.symm)⟩
    rw [cut] at member
    simpa using List.mem_rtakeWhile_imp member
  · rintro ⟨feeds, clean⟩
    calc withoutReturns (text.rdropWhile isBlank)
        = text.rdropWhile isBlank := withoutReturns_eq_self.mpr clean
      _ = (text.rdropWhile isBlank ++ text.rtakeWhile isBlank).rdropWhile (· == '\n') := by
          rw [rdropWhile_append (by simpa using feeds), rdropWhile_feeds (rdropWhile_blanks_ends text)]
      _ = text.rdropWhile (· == '\n') := by rw [List.rdropWhile_append_rtakeWhile]

end Text

namespace Script

def commandOpening : List String := ["    if output=$(", "      \x7b"]

def commandClosing : List String :=
  ["      \x7d 2>/dev/null", "    ); then", "      read -r -d '' -a candidates <<<\"$output\"", "    fi"]

def unindented (line : String) : String :=
  match after? (List.replicate 8 ' ') line.toList with
  | some rest => .ofList rest
  | none => line

def blockCommand : List String → String
  | [] => ""
  | first :: others => Text.joined "\n" (unindented first :: others)

theorem unindented_indented (line : String) : unindented (indented 4 line) = line := by
  unfold indented
  split
  · rename_i empty
    rw [String.isEmpty_iff.mp empty]
    rfl
  · rw [unindented, String.toList_append, String.toList_ofList, after?_append]
    exact String.ofList_toList

theorem blockCommand_commandLines {command : String} (filled : Text.isAllBlank command = false) :
    (blockCommand (commandLines command)).toList = Text.withoutReturns (command.toList.rdropWhile Text.isBlank) := by
  have kept : command.toList.rdropWhile Text.isBlank ≠ [] := by
    intro empty
    rw [Text.isAllBlank, List.all_eq_true.mpr (List.rdropWhile_eq_nil_iff.mp empty)] at filled
    cases filled
  obtain ⟨first, others, cut⟩ := List.exists_cons_of_ne_nil (Text.linesOf_ne_nil kept)
  have lines : commandLines command = indented 4 (.ofList first) :: others.map String.ofList := by
    have trimmed : Text.linesOf (Text.trimEnd command.toList) = first :: others := cut
    rw [commandLines, trimmed]
    rfl
  have written : (first :: others).map (String.toList ∘ String.ofList) = first :: others := by
    simp [Function.comp_def]
  calc (blockCommand (commandLines command)).toList
      = "\n".toList.intercalate ((first :: others).map (String.toList ∘ String.ofList)) := by
        rw [lines, blockCommand, unindented_indented, Text.joined, String.toList_intercalate, ← List.map_map]
        rfl
    _ = ['\n'].intercalate (Text.linesOf (command.toList.rdropWhile Text.isBlank)) := by
        rw [written, cut]
        rfl
    _ = Text.withoutReturns (command.toList.rdropWhile Text.isBlank) :=
        Text.linesOf_together _ (Text.rdropWhile_blanks_ends _)

theorem sourceLines_command {command : String} (filled : Text.isAllBlank command = false) :
    sourceLines (.command command) = commandOpening ++ commandLines command ++ commandClosing := by
  rw [sourceLines, if_neg (by simp [filled])]
  rfl

-- What stands between the two braces is the command that completion runs, up to line feeds at the end, exactly
-- when it has no other last blanks and no carriage return before a line feed.
theorem command_embedded {command : String} (filled : Text.isAllBlank command = false) : ∃ block : List String,
    sourceLines (.command command) = commandOpening ++ block ++ commandClosing ∧
    (blockCommand block).toList = Text.withoutReturns (command.toList.rdropWhile Text.isBlank) ∧
    ((blockCommand block).toList.rdropWhile (· == '\n') = command.toList.rdropWhile (· == '\n') ↔
      (∀ c ∈ command.toList.rtakeWhile Text.isBlank, c = '\n') ∧
        ¬['\r', '\n'] <:+: command.toList.rdropWhile Text.isBlank) ∧
    Source.offer (.command command) = .outputOf command := by
  refine ⟨commandLines command, sourceLines_command filled, blockCommand_commandLines filled, ?_, ?_⟩
  · have ends : (Text.withoutReturns (command.toList.rdropWhile Text.isBlank)).getLast? ≠ some '\n' := by
      rw [Text.withoutReturns_getLast?]
      exact Text.rdropWhile_blanks_ends _
    rw [blockCommand_commandLines filled, Text.rdropWhile_feeds ends, Text.withoutReturns_feeds_iff]
  · rw [Source.offer, if_neg (by simp [filled])]

theorem greeting_embedded : Text.isAllBlank "echo a\\\n  b\n\n" = false ∧ ∃ block : List String,
    sourceLines (.command "echo a\\\n  b\n\n") = commandOpening ++ block ++ commandClosing ∧
    (blockCommand block).toList.rdropWhile (· == '\n') = "echo a\\\n  b\n\n".toList.rdropWhile (· == '\n') := by
  have filled : Text.isAllBlank "echo a\\\n  b\n\n" = false := by cbv
  obtain ⟨block, parts, _, verbatim, _⟩ := command_embedded filled
  have feeds : "echo a\\\n  b\n\n".toList.rtakeWhile Text.isBlank = ['\n', '\n'] := by cbv
  have front : "echo a\\\n  b\n\n".toList.rdropWhile Text.isBlank = "echo a\\\n  b".toList := by cbv
  refine ⟨filled, block, parts, verbatim.mpr ⟨?_, ?_⟩⟩
  · rw [feeds]
    simp
  · rw [front]
    exact Text.withoutReturns_eq_self.mp (by cbv)

theorem quotedReturn_lost :
    Source.offer (.command "echo 'a\r\nb'") = .outputOf "echo 'a\r\nb'" ∧ ∃ block : List String,
      sourceLines (.command "echo 'a\r\nb'") = commandOpening ++ block ++ commandClosing ∧
      blockCommand block = "echo 'a\nb'" ∧
      (blockCommand block).toList.rdropWhile (· == '\n') ≠ "echo 'a\r\nb'".toList.rdropWhile (· == '\n') := by
  have filled : Text.isAllBlank "echo 'a\r\nb'" = false := by cbv
  have embedded : blockCommand (commandLines "echo 'a\r\nb'") = "echo 'a\nb'" := by
    rw [← String.toList_inj, blockCommand_commandLines filled]
    cbv
  refine ⟨?_, commandLines "echo 'a\r\nb'", sourceLines_command filled, embedded, ?_⟩
  · rw [Source.offer, if_neg (by simp [filled])]
  · rw [embedded]
    decide

end Script

end CompletionRules
