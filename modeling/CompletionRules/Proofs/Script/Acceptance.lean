import CompletionRules.Proofs.Script.Printing

-- Which texts a script is taken out of. Reading a wrapper asks for less than writing one gives; a text that
-- takes none of the liberties is the wrapper of the script that is read from it.

namespace CompletionRules.Script

-- A text between dollar quotes and the line that is read from it. A quote may stand without its
-- backslash, a backslash may not.
inductive Spells : List Char → List Char → Prop where
  | nil : Spells [] []
  | marked {c : Char} {rest line : List Char} (mark : c = '\\' ∨ c = '\'') (others : Spells rest line) :
      Spells ('\\' :: c :: rest) (c :: line)
  | plain {c : Char} {rest line : List Char} (unmarked : c ≠ '\\') (others : Spells rest line) :
      Spells (c :: rest) (c :: line)

theorem unescapedChars?_iff {text line : List Char} : unescapedChars? text = some line ↔ Spells text line := by
  constructor
  · fun_induction unescapedChars? text generalizing line with
    | case1 =>
      rintro ⟨⟩
      exact .nil
    | case2 c rest mark ih =>
      intro read
      obtain ⟨others, restRead, rfl⟩ := Option.map_eq_some_iff.mp read
      exact .marked mark (ih restRead)
    | case3 => exact nofun
    | case4 => exact nofun
    | case5 c rest _ unmarked ih =>
      intro read
      obtain ⟨others, restRead, rfl⟩ := Option.map_eq_some_iff.mp read
      exact .plain unmarked (ih restRead)
  · intro spells
    induction spells with
    | nil => rfl
    | marked mark _ ih => rw [unescapedChars?, if_pos mark, ih, Option.map_some]
    | plain unmarked _ ih => simp [unescapedChars?, unmarked, ih]

theorem Spells.span?_iff {text line : List Char} (spells : Spells text line) :
    DollarQuotes.span? (text ++ ['\'']) = some (text, []) ↔ text = escapedChars line := by
  constructor
  · intro spanned
    induction spells with
    | nil => rfl
    | @marked c rest line mark others ih =>
      rw [List.cons_append, List.cons_append, DollarQuotes.span?] at spanned
      obtain ⟨⟨inside, behind⟩, restSpanned, same⟩ := Option.map_eq_some_iff.mp spanned
      cases same
      rw [escapedChars, if_pos mark, ← ih restSpanned]
    | @plain c rest line unmarked others ih =>
      by_cases quote : c = '\''
      · subst quote
        cases spanned
      · rw [List.cons_append, DollarQuotes.span?_plain unmarked quote] at spanned
        obtain ⟨⟨inside, behind⟩, restSpanned, same⟩ := Option.map_eq_some_iff.mp spanned
        cases same
        rw [escapedChars, if_neg (not_or.mpr ⟨unmarked, quote⟩), ← ih restSpanned]
  · rintro rfl
    exact DollarQuotes.span?_escapedChars line []

theorem Spells.mem {text line : List Char} (spells : Spells text line) : ∀ c ∈ line, c ∈ text := by
  induction spells with
  | nil => exact nofun
  | marked mark _ ih =>
    intro c member
    rcases List.mem_cons.mp member with rfl | later
    · simp
    · exact List.mem_cons_of_mem _ (List.mem_cons_of_mem _ (ih c later))
  | plain unmarked _ ih =>
    intro c member
    rcases List.mem_cons.mp member with rfl | later
    · simp
    · exact List.mem_cons_of_mem _ (ih c later)

theorem after?_eq_some {start text rest : List Char} : after? start text = some rest ↔ text = start ++ rest := by
  constructor
  · intro found
    unfold after? at found
    split at found
    · rename_i begins
      cases found
      exact (List.prefix_iff_eq_append.mp (List.isPrefixOf_iff_prefix.mp begins)).symm
    · cases found
  · rintro rfl
    exact after?_append start rest

theorem unescaped?_iff {quotedLine line : List Char} : unescaped? quotedLine = some line ↔
    ∃ text, quotedLine = '$' :: '\'' :: text ++ ['\''] ∧ Spells text line := by
  constructor
  · intro read
    unfold unescaped? at read
    split at read
    · split at read
      · rename_i rest ends
        refine ⟨rest.dropLast, ?_, unescapedChars?_iff.mp read⟩
        rw [List.cons_append, List.cons_append, List.dropLast_append_getLast? '\'' ends]
      · cases read
    · cases read
  · rintro ⟨text, rfl, spells⟩
    have ends : (text ++ ['\'']).getLast? = some '\'' := by simp
    rw [List.cons_append, List.cons_append, unescaped?, if_pos ends, List.dropLast_concat]
    exact unescapedChars?_iff.mpr spells

structure Spelling where
  text : List Char
  line : List Char
  spells : Spells text line

def Spelling.printLine (spelling : Spelling) : List Char :=
  ' ' :: ' ' :: printCommand ++ '$' :: '\'' :: spelling.text ++ ['\'']

theorem Spelling.printLine_ne (spelling : Spelling) : spelling.printLine ≠ "\x7d".toList := nofun

theorem unwrappedBody?_iff {lines : List (List Char)} {script : List Char} :
    unwrappedBody? lines = some script ↔ ∃ (body : List Spelling) (behind : List (List Char)),
      lines = body.map Spelling.printLine ++ "\x7d".toList :: behind ∧
      script = (body.map Spelling.line).flatMap fun line => line ++ ['\n'] := by
  constructor
  · induction lines generalizing script with
    | nil => exact nofun
    | cons line rest ih =>
      intro read
      unfold unwrappedBody? at read
      split at read
      · rename_i closes
        cases read
        exact ⟨[], rest, by rw [closes]; rfl, rfl⟩
      · obtain ⟨quotedLine, found, read⟩ := Option.bind_eq_some_iff.mp read
        obtain ⟨meant, unquoted, read⟩ := Option.bind_eq_some_iff.mp read
        obtain ⟨others, restRead, same⟩ := Option.bind_eq_some_iff.mp read
        cases same
        obtain ⟨text, rfl, spells⟩ := unescaped?_iff.mp unquoted
        obtain ⟨body, behind, rfl, rfl⟩ := ih restRead
        refine ⟨⟨text, meant, spells⟩ :: body, behind, ?_, ?_⟩
        · rw [after?_eq_some.mp found]
          rfl
        · simp
  · rintro ⟨body, behind, rfl, rfl⟩
    induction body with
    | nil => rfl
    | cons spelling rest ih =>
      have found : after? (' ' :: ' ' :: printCommand) spelling.printLine =
          some ('$' :: '\'' :: spelling.text ++ ['\'']) := after?_eq_some.mpr rfl
      have unquoted := unescaped?_iff.mpr ⟨spelling.text, rfl, spelling.spells⟩
      rw [List.map_cons, List.cons_append, unwrappedBody?, if_neg spelling.printLine_ne, found]
      simp only [Option.bind_eq_bind, Option.bind_some, unquoted, ih]
      simp

structure Frame (wrapped : String) where
  name : List Char
  body : List Spelling
  behind : List (List Char)
  lines : Text.linesOf wrapped.toList =
    (name ++ wrapperEnd) :: (body.map Spelling.printLine ++ "\x7d".toList :: behind)

namespace Frame

variable {wrapped : String}

def script (frame : Frame wrapped) : String :=
  .ofList ((frame.body.map Spelling.line).flatMap fun line => line ++ ['\n'])

-- A text without any of the liberties: the shell finds the end of every line where the reader does, and
-- each line ends in a line feed alone, the closing brace last.
structure Strict (frame : Frame wrapped) : Prop where
  filled : frame.body ≠ []
  closed : frame.behind = []
  spanned : ∀ spelling ∈ frame.body, DollarQuotes.span? (spelling.text ++ ['\'']) = some (spelling.text, [])
  terminated : wrapped.toList = (Text.linesOf wrapped.toList).flatMap fun line => line ++ ['\n']

end Frame

theorem unwrap?_iff {wrapped script : String} :
    unwrap? wrapped = some script ↔ ∃ frame : Frame wrapped, frame.script = script := by
  constructor
  · intro read
    unfold unwrap? at read
    split at read
    · cases read
    · rename_i header body cut
      split at read
      · rename_i opens
        obtain ⟨name, rfl⟩ := List.isSuffixOf_iff_suffix.mp opens
        obtain ⟨text, bodyRead, rfl⟩ := Option.map_eq_some_iff.mp read
        obtain ⟨spellings, behind, rfl, rfl⟩ := unwrappedBody?_iff.mp bodyRead
        exact ⟨⟨name, spellings, behind, cut⟩, rfl⟩
      · cases read
  · rintro ⟨frame, rfl⟩
    have opens : wrapperEnd.isSuffixOf (frame.name ++ wrapperEnd) = true :=
      List.isSuffixOf_iff_suffix.mpr (List.suffix_append _ _)
    rw [unwrap?, frame.lines]
    dsimp only
    rw [if_pos opens, unwrappedBody?_iff.mpr ⟨frame.body, frame.behind, rfl, rfl⟩]
    rfl

theorem scriptLines_terminated {lines : List (List Char)} (filled : lines ≠ [])
    (unbroken : ∀ line ∈ lines, '\n' ∉ line) :
    scriptLines (.ofList (lines.flatMap fun line => line ++ ['\n'])) = lines := by
  have ends : (lines.flatMap fun line => line ++ ['\n']).getLast? = some '\n' := by
    obtain ⟨front, last, rfl⟩ := (List.eq_nil_or_concat lines).resolve_left filled
    simp
  rw [scriptLines, String.toList_ofList]
  have cut := Text.pieces_terminated unbroken
  rw [← dropOneLineFeed_ends ends, Text.pieces_append_separator _ _ _ _ (by simp)] at cut
  exact List.append_cancel_right cut

namespace Frame

variable {wrapped : String} {frame : Frame wrapped}

theorem unbroken (frame : Frame wrapped) : ∀ spelling ∈ frame.body, '\n' ∉ spelling.line := by
  intro spelling member feed
  have listed : spelling.printLine ∈ Text.linesOf wrapped.toList := by
    rw [frame.lines]
    exact List.mem_cons_of_mem _ (List.mem_append_left _ (List.mem_map_of_mem member))
  apply Text.linesOf_unbroken listed
  simp [Spelling.printLine, spelling.spells.mem '\n' feed]

theorem name_unbroken (frame : Frame wrapped) : '\n' ∉ frame.name := by
  have listed : frame.name ++ wrapperEnd ∈ Text.linesOf wrapped.toList := by simp [frame.lines]
  exact fun feed => Text.linesOf_unbroken listed (List.mem_append_left _ feed)

theorem strict_of_wrap {name : String} (oneLine : '\n' ∉ name.toList) (same : wrapped = wrap frame.script name) :
    frame.Strict := by
  have cut : Text.linesOf wrapped.toList = wrappedLines frame.script name := by
    conv_lhs => rw [same]
    exact linesOf_wrap frame.script oneLine
  have parts := cut
  rw [frame.lines, wrappedLines_parts] at parts
  have noBrace : "\x7d".toList ∉ (scriptLines frame.script).map printLine := by
    intro member
    obtain ⟨line, _, brace⟩ := List.mem_map.mp member
    cases brace
  obtain ⟨bodies, _, closed⟩ :=
    (List.append_cons_inj_of_notMem noBrace (by simp)).mp (List.cons.inj parts).2.symm
  refine ⟨?_, closed.symm, ?_, ?_⟩
  · rintro empty
    rw [empty, List.map_nil, List.map_eq_nil_iff] at bodies
    exact Text.pieces_ne_nil _ _ bodies
  · intro spelling member
    have listed : spelling.printLine ∈ (scriptLines frame.script).map printLine := by
      rw [bodies]
      exact List.mem_map_of_mem member
    obtain ⟨line, _, printed⟩ := List.mem_map.mp listed
    have text : escapedChars line = spelling.text := by simpa [printLine, escaped, Spelling.printLine] using printed
    rw [← text]
    exact DollarQuotes.span?_escapedChars line []
  · rw [cut]
    conv_lhs => rw [same, wrap, String.toList_ofList]

theorem wrap_of_strict (strict : frame.Strict) : wrapped = wrap frame.script (.ofList frame.name) := by
  have bodies : frame.body.map Spelling.printLine = (frame.body.map Spelling.line).map printLine := by
    rw [List.map_map]
    refine List.map_congr_left fun spelling member => ?_
    have text := spelling.spells.span?_iff.mp (strict.spanned spelling member)
    rw [Spelling.printLine, text]
    simp [printLine, escaped]
  have lines : scriptLines frame.script = frame.body.map Spelling.line := by
    have filled : frame.body.map Spelling.line ≠ [] := by simpa using strict.filled
    have unbroken : ∀ line ∈ frame.body.map Spelling.line, '\n' ∉ line := by simpa using frame.unbroken
    exact scriptLines_terminated filled unbroken
  have named : (String.ofList frame.name).toList = frame.name := String.toList_ofList
  apply String.toList_injective
  rw [strict.terminated, frame.lines, bodies, strict.closed, wrap, wrappedLines_parts, lines, named]
  exact String.toList_ofList.symm

end Frame

-- A script is read out of the texts of this form and no others; and what it is read from is its own
-- wrapper exactly when the text takes no liberty.
theorem unwrap?_exact (wrapped : String) :
    (∀ script, unwrap? wrapped = some script ↔ ∃ frame : Frame wrapped, frame.script = script) ∧
    ∀ frame : Frame wrapped,
      (frame.script.toList.getLast? = some '\n' ↔ frame.body ≠ []) ∧
      ((∃ name : String, '\n' ∉ name.toList ∧ wrapped = wrap frame.script name) ↔ frame.Strict) := by
  refine ⟨fun script => unwrap?_iff, fun frame => ⟨?_, ?_⟩⟩
  · constructor
    · rintro ends empty
      rw [Frame.script, empty] at ends
      cases ends
    · intro filled
      obtain ⟨front, last, parted⟩ := (List.eq_nil_or_concat frame.body).resolve_left filled
      rw [Frame.script, parted]
      simp
  · constructor
    · rintro ⟨name, oneLine, same⟩
      exact Frame.strict_of_wrap oneLine same
    · intro strict
      exact ⟨.ofList frame.name, by simpa using frame.name_unbroken, Frame.wrap_of_strict strict⟩

theorem emptyFunction_unwrapped :
    unwrap? "f() \x7b\n\x7d\n" = some "" ∧ ("".toList.getLast? ≠ some '\n') ∧
      ∀ script name, wrap script name ≠ "f() \x7b\n\x7d\n" := by
  refine ⟨by decide, by decide, fun script name same => ?_⟩
  obtain ⟨line, listed⟩ := List.exists_mem_of_ne_nil _ (Text.pieces_ne_nil (· == '\n') (dropOneLineFeed script.toList))
  have prints : 'p' ∈ (wrap script name).toList := by
    rw [wrap, String.toList_ofList, List.mem_flatMap]
    have command : 'p' ∈ ' ' :: ' ' :: printCommand := by decide
    refine ⟨printLine line, ?_, List.mem_append_left _ (List.mem_append_left _ command)⟩
    rw [wrappedLines_parts]
    exact List.mem_cons_of_mem _ (List.mem_append_left _ (List.mem_map_of_mem listed))
  rw [same] at prints
  revert prints
  decide

end CompletionRules.Script
