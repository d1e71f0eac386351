import CompletionRules.Proofs.Table.Flatten
import CompletionRules.Proofs.Text.Lines
import CompletionRules.Script.Compilation

-- A wrapper gives back the script that was put into it. Reading takes a carriage return off the end of a line,
-- which does no harm because every line that is written ends in a brace or a quote.

namespace CompletionRules.Script

theorem unescapedChars?_escapedChars (line : List Char) : unescapedChars? (escapedChars line) = some line := by
  induction line with
  | nil => rfl
  | cons c rest ih =>
    by_cases marked : c = '\\' ∨ c = '\''
    · rw [escapedChars, if_pos marked, unescapedChars?, if_pos marked, ih]
      rfl
    · rw [escapedChars, if_neg marked]
      have unlike : c ≠ '\\' := fun same => marked (.inl same)
      simp [unescapedChars?, unlike, ih]

theorem unescaped?_escaped (line : List Char) : unescaped? (escaped line) = some line := by
  have ends : (escapedChars line ++ ['\'']).getLast? = some '\'' := by simp
  rw [escaped, List.cons_append, List.cons_append, unescaped?, if_pos ends, List.dropLast_concat,
    unescapedChars?_escapedChars]

theorem mem_escapedChars {c : Char} {line : List Char} (member : c ∈ escapedChars line) : c = '\\' ∨ c ∈ line := by
  induction line with
  | nil => cases member
  | cons d rest ih =>
    unfold escapedChars at member
    split at member
    · rcases List.mem_cons.mp member with mark | written
      · exact .inl mark
      · rcases List.mem_cons.mp written with rfl | later
        · exact .inr (by simp)
        · exact (ih later).imp_right (List.mem_cons_of_mem _)
    · rcases List.mem_cons.mp member with rfl | later
      · exact .inr (by simp)
      · exact (ih later).imp_right (List.mem_cons_of_mem _)

def scriptLines (script : String) : List (List Char) :=
  Text.pieces (· == '\n') (dropOneLineFeed script.toList)

def printLine (line : List Char) : List Char := ' ' :: ' ' :: printCommand ++ escaped line

theorem wrappedLines_parts (script name : String) : wrappedLines script name =
    (name.toList ++ wrapperEnd) :: ((scriptLines script).map printLine ++ ["\x7d".toList]) := rfl

theorem feed_not_mem_printLine {line : List Char} (unbroken : '\n' ∉ line) : '\n' ∉ printLine line := by
  intro member
  rcases List.mem_append.mp (show '\n' ∈ (' ' :: ' ' :: printCommand) ++ escaped line from member) with front | back
  · revert front
    decide
  · simp only [escaped, List.cons_append, List.mem_cons, List.mem_append, List.not_mem_nil, or_false] at back
    rcases back with sign | opening | inside | closing
    · cases sign
    · cases opening
    · rcases mem_escapedChars inside with mark | written
      · cases mark
      · exact unbroken written
    · cases closing

theorem dropReturn_printLine (line : List Char) : Text.dropReturn (printLine line) = printLine line := by
  have ends : printLine line = (' ' :: ' ' :: printCommand ++ '$' :: '\'' :: escapedChars line) ++ ['\''] := by
    simp [printLine, escaped]
  rw [ends, Text.dropReturn_concat _ (by decide)]

theorem after?_printLine (line : List Char) :
    after? (' ' :: ' ' :: printCommand) (printLine line) = some (escaped line) := by
  simp [after?, printLine]

-- Up to the closing brace, whatever stands behind it; no body line can be taken for that brace.
theorem unwrappedBody?_printLines (lines behind : List (List Char)) :
    unwrappedBody? (lines.map printLine ++ "\x7d".toList :: behind) =
      some (lines.flatMap fun line => line ++ ['\n']) := by
  induction lines with
  | nil => rfl
  | cons line rest ih =>
    have unlike : printLine line ≠ "\x7d".toList := by
      intro same
      cases same
    rw [List.map_cons, List.cons_append, unwrappedBody?, if_neg unlike, ih]
    simp [after?_printLine, unescaped?_escaped]

theorem header_unbroken {name : List Char} (oneLine : '\n' ∉ name) : '\n' ∉ name ++ wrapperEnd := by
  intro member
  rcases List.mem_append.mp member with named | brace
  · exact oneLine named
  · revert brace
    decide

theorem dropReturn_header (name : List Char) : Text.dropReturn (name ++ wrapperEnd) = name ++ wrapperEnd := by
  have ends : name ++ wrapperEnd = (name ++ "() ".toList) ++ ['\x7b'] := by simp [wrapperEnd]
  rw [ends, Text.dropReturn_concat _ (by decide)]

theorem wrappedLines_unbroken (script : String) {name : String} (oneLine : '\n' ∉ name.toList) :
    ∀ line ∈ wrappedLines script name, '\n' ∉ line := by
  intro line member
  simp only [wrappedLines_parts, List.mem_cons, List.mem_append, List.not_mem_nil, or_false] at member
  rcases member with rfl | printed | rfl
  · exact header_unbroken oneLine
  · obtain ⟨piece, cut, rfl⟩ := List.mem_map.mp printed
    apply feed_not_mem_printLine
    intro feed
    simpa using Text.mem_pieces_whole cut '\n' feed
  · decide

theorem wrappedLines_dropReturn (script name : String) :
    (wrappedLines script name).map Text.dropReturn = wrappedLines script name := by
  rw [wrappedLines_parts, List.map_cons, List.map_append, List.map_map, dropReturn_header]
  congr 2
  exact List.map_congr_left fun line _ => dropReturn_printLine line

theorem linesOf_wrap (script : String) {name : String} (oneLine : '\n' ∉ name.toList) :
    Text.linesOf (wrap script name).toList = wrappedLines script name := by
  rw [wrap, String.toList_ofList, Text.linesOf_terminated (wrappedLines_unbroken script oneLine),
    wrappedLines_dropReturn]

theorem unwrap?_wrap (script : String) {name : String} (oneLine : '\n' ∉ name.toList) :
    unwrap? (wrap script name) = some (.ofList (dropOneLineFeed script.toList ++ ['\n'])) := by
  have header : wrapperEnd.isSuffixOf (name.toList ++ wrapperEnd) = true :=
    List.isSuffixOf_iff_suffix.mpr (List.suffix_append _ _)
  rw [unwrap?, linesOf_wrap script oneLine, wrappedLines_parts]
  dsimp only
  rw [if_pos header, unwrappedBody?_printLines _ [], scriptLines, Text.terminated_pieces]
  rfl

theorem dropOneLineFeed_ends {text : List Char} (ends : text.getLast? = some '\n') :
    dropOneLineFeed text ++ ['\n'] = text := by
  rw [dropOneLineFeed, if_pos ends]
  exact List.dropLast_append_getLast? '\n' ends

theorem emit_ends (table : Table) (options : List (String × String)) (name : String) :
    (emit table options name).toList.getLast? = some '\n' := by
  simp [emit]

-- Any text at all can be put into a wrapper, and a wrapped script differs from the bare one in
-- nothing but the wrapping.
theorem wrapping_undone (name : String) (oneLine : '\n' ∉ name.toList) :
    (∀ text : String, unwrap? (wrap text name) =
      some (if text.toList.getLast? = some '\n' then text else text ++ "\n")) ∧
    ∀ (document : Document) (functionName : Option String),
      (document.compile ⟨functionName, some name⟩).table = (document.compile ⟨functionName, none⟩).table ∧
      (document.compile ⟨functionName, some name⟩).diagnostics =
        (document.compile ⟨functionName, none⟩).diagnostics ∧
      unwrap? (document.compile ⟨functionName, some name⟩).script =
        some (document.compile ⟨functionName, none⟩).script := by
  have texts : ∀ text : String, unwrap? (wrap text name) =
      some (if text.toList.getLast? = some '\n' then text else text ++ "\n") := by
    intro text
    rw [unwrap?_wrap text oneLine]
    congr 1
    by_cases ends : text.toList.getLast? = some '\n'
    · rw [if_pos ends, dropOneLineFeed_ends ends, String.ofList_toList]
    · rw [if_neg ends, dropOneLineFeed, if_neg ends]
      apply String.toList_injective
      simp
  refine ⟨texts, fun document functionName => ⟨rfl, rfl, ?_⟩⟩
  have ends : (document.compile ⟨functionName, none⟩).script.toList.getLast? = some '\n' :=
    emit_ends document.table document.options _
  have bare := texts (document.compile ⟨functionName, none⟩).script
  rw [if_pos ends] at bare
  exact bare

def framed : String := "it's\r\n\x7d\n\n  printf '%s\\n' $'-n'\nback\\slash\r"

theorem framed_unwraps :
    '\n' ∉ "give_comps".toList ∧ unwrap? (wrap framed "give_comps") = some (framed ++ "\n") ∧
    unwrap? (Document.sample.compile ⟨none, some "give_comps"⟩).script =
      some (Document.sample.compile ⟨none, none⟩).script := by
  have oneLine : '\n' ∉ "give_comps".toList := by decide
  obtain ⟨texts, compiled⟩ := wrapping_undone "give_comps" oneLine
  refine ⟨oneLine, ?_, (compiled Document.sample none).2.2⟩
  rw [texts framed, if_neg (by decide)]

end CompletionRules.Script
