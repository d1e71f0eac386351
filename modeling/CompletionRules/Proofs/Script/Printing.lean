import CompletionRules.Proofs.Script.Unwrapping
import CompletionRules.Shell.Format

-- What a shell prints when it runs a wrapper. The reading here is the shell's own and knows more than a
-- wrapper needs; that every line is read to its end, with two escapes only, is what there is to prove.

namespace CompletionRules.Script

open Shell

namespace DollarQuotes

def span? : List Char → Option (List Char × List Char)
  | [] => none
  | '\'' :: rest => some ([], rest)
  | '\\' :: c :: rest => (span? rest).map fun (inside, behind) => ('\\' :: c :: inside, behind)
  | c :: rest => (span? rest).map fun (inside, behind) => (c :: inside, behind)

inductive Escape where
  | named (letter meant : Char)
  | byte (value : Char)
  | codePoint (value : Nat)
  | control (key : Char)
  | unknown (letter : Char)
  deriving Repr, DecidableEq

inductive Piece where
  | plain (c : Char)
  | escaped (escape : Escape)
  deriving Repr, DecidableEq

def named? (letter : Char) : Option Char :=
  if letter = '\'' ∨ letter = '"' ∨ letter = '?' then some letter
  else if letter = 'E' then some '\x1b'
  else Format.namedEscape letter

def isHex (c : Char) : Bool := Arithmetic.digitValue c < 16

def hexRoom? : Char → Option Nat
  | 'x' => some 2
  | 'u' => some 4
  | 'U' => some 8
  | _ => none

def escapeAt (letter : Char) (rest : List Char) : Escape × List Char :=
  match named? letter, hexRoom? letter with
  | some meant, _ => (.named letter meant, rest)
  | none, some room =>
    let digits := (rest.take room).takeWhile isHex
    match Arithmetic.digitsValue? 16 digits with
    | none => (.unknown letter, rest)
    | some value =>
      (if letter = 'x' then .byte (.ofNat value) else .codePoint value, rest.drop digits.length)
  | none, none =>
    if Format.isOctal letter then
      let digits := letter :: Format.octalDigits 2 rest
      (.byte (Format.octalValue digits), rest.drop (digits.length - 1))
    else match letter, rest with
      | 'c', '\\' :: '\\' :: others => (.control '\\', others)
      | 'c', key :: others => (.control key, others)
      | _, _ => (.unknown letter, rest)

theorem escapeAt_length (letter : Char) (rest : List Char) : (escapeAt letter rest).2.length ≤ rest.length := by
  unfold escapeAt
  split
  · exact Nat.le_refl _
  · dsimp only
    split
    · exact Nat.le_refl _
    · simp
  · split
    · simp
    · split
      · simp only [List.length_cons]
        omega
      · simp
      · exact Nat.le_refl _

-- A backslash with nothing behind it stands for itself.
def pieces : List Char → List Piece
  | [] => []
  | '\\' :: letter :: rest => .escaped (escapeAt letter rest).1 :: pieces (escapeAt letter rest).2
  | c :: rest => .plain c :: pieces rest
termination_by text => text.length
decreasing_by
  · have shorter := escapeAt_length letter rest
    simp only [List.length_cons]
    omega
  · simp

def bytesOf (c : Char) : ByteText := .ofBytes (String.utf8EncodeChar c)

def Escape.bytes : Escape → ByteText
  | .named _ meant => [meant]
  | .byte value => [value]
  | .codePoint value => bytesOf (.ofNat value)
  | .control key => if key = '?' then ['\x7f'] else [.ofNat (key.toUpper.toNat % 32)]
  | .unknown letter => '\\' :: bytesOf letter

def Piece.bytes : Piece → ByteText
  | .plain c => bytesOf c
  | .escaped escape => escape.bytes

example : (pieces "\\x41\\102\\u00e9\\q".toList).flatMap Piece.bytes = "AB\u00c3\u00a9\\q".toList := by cbv

def written (c : Char) : Piece := if c = '\\' ∨ c = '\'' then .escaped (.named c c) else .plain c

theorem span?_plain {c : Char} {rest : List Char} (noBackslash : c ≠ '\\') (noQuote : c ≠ '\'') :
    span? (c :: rest) = (span? rest).map fun found => (c :: found.1, found.2) := by
  simp [span?, noBackslash]

theorem span?_escapedChars (line behind : List Char) :
    span? (escapedChars line ++ '\'' :: behind) = some (escapedChars line, behind) := by
  induction line with
  | nil => rfl
  | cons c rest ih =>
    by_cases marked : c = '\\' ∨ c = '\''
    · rw [escapedChars, if_pos marked, List.cons_append, List.cons_append, span?, ih]
      rfl
    · obtain ⟨noBackslash, noQuote⟩ := not_or.mp marked
      rw [escapedChars, if_neg marked, List.cons_append, span?_plain noBackslash noQuote, ih]
      rfl

theorem pieces_escapedChars (line : List Char) : pieces (escapedChars line) = line.map written := by
  induction line with
  | nil => simp [escapedChars, pieces]
  | cons c rest ih =>
    by_cases marked : c = '\\' ∨ c = '\''
    · have meant : escapeAt c (escapedChars rest) = (.named c c, escapedChars rest) := by
        rcases marked with rfl | rfl <;> rfl
      rw [escapedChars, if_pos marked, pieces, meant, ih, List.map_cons, written, if_pos marked]
    · obtain ⟨noBackslash, _⟩ := not_or.mp marked
      rw [escapedChars, if_neg marked, pieces, ih, List.map_cons, written, if_neg marked]
      intro letter others same
      exact absurd same noBackslash

theorem written_bytes (c : Char) : (written c).bytes = bytesOf c := by
  unfold written
  split
  · rename_i marked
    rcases marked with rfl | rfl <;> decide
  · rfl

theorem mem_written {escape : Escape} {line : List Char} (member : .escaped escape ∈ line.map written) :
    escape = .named '\\' '\\' ∨ escape = .named '\'' '\'' := by
  obtain ⟨c, _, same⟩ := List.mem_map.mp member
  unfold written at same
  split at same
  · rename_i marked
    cases same
    exact marked.imp (fun same => by rw [same]) fun same => by rw [same]
  · cases same

end DollarQuotes

structure PrintCall where
  format : List Char
  argument : List DollarQuotes.Piece
  behind : List Char
  deriving Repr, DecidableEq

namespace PrintCall

def ofLine? (line : List Char) : Option PrintCall := do
  let words ← after? "printf '".toList (line.dropWhile (· == ' '))
  let dollar ← after? "' $'".toList (words.dropWhile (· != '\''))
  let (inside, behind) ← DollarQuotes.span? dollar
  pure ⟨words.takeWhile (· != '\''), DollarQuotes.pieces inside, behind⟩

def printed (call : PrintCall) : ByteText :=
  (Format.print call.format [call.argument.flatMap DollarQuotes.Piece.bytes]).1

end PrintCall

-- Line after line, the body of a function prints the script: each line is one call that ends where the
-- line ends, and no escape but the two that a wrapper needs is in any of them.
def PrintsScript (body : List (List Char)) (script : String) : Prop :=
  ∃ calls : List PrintCall, body.map PrintCall.ofLine? = calls.map some ∧
    (∀ call ∈ calls, call.behind = [] ∧ ∀ escape, .escaped escape ∈ call.argument →
      escape = .named '\\' '\\' ∨ escape = .named '\'' '\'') ∧
    calls.flatMap PrintCall.printed = ByteText.ofString script

theorem pass_line (argument : ByteText) :
    Format.pass 5 "%s\\n".toList ⟨[], [argument], false, 0, false⟩ = ⟨argument ++ ['\n'], [], true, 0, false⟩ := by
  have asked : Format.directive? ['s', '\\', 'n'] [argument] =
      some (⟨false, false, false, false, false, 0, none, 's'⟩, ['\\', 'n'], [argument], true) := rfl
  have carried : (Format.conversions.contains 's' &&
      !Format.isTooLong ⟨false, false, false, false, false, 0, none, 's'⟩) = true := by decide
  have whole : Format.converted ⟨false, false, false, false, false, 0, none, 's'⟩ argument = (argument, true, false) := by
    simp [Format.converted, Format.padded]
  have parts : "%s\\n".toList = ['%', 's', '\\', 'n'] := rfl
  rw [parts, Format.pass, asked, Option.filter_some, if_pos carried]
  · dsimp only
    rw [List.head?_cons, Option.getD_some, whole]
    rfl
  · simp

theorem print_line (argument : ByteText) : Format.print "%s\\n".toList [argument] = (argument ++ ['\n'], 0) := by
  have once : Format.pass ("%s\\n".toList.length + 1) "%s\\n".toList ⟨[], [argument], false, 0, false⟩ = _ :=
    pass_line argument
  rw [Format.print, List.length_singleton, Format.passes, once]
  rfl

def lineCall (line : List Char) : PrintCall := ⟨"%s\\n".toList, line.map DollarQuotes.written, []⟩

theorem ofLine?_printLine (line : List Char) : PrintCall.ofLine? (printLine line) = some (lineCall line) := by
  have command : (printLine line).dropWhile (· == ' ') =
      "printf '".toList ++ ("%s\\n' $'".toList ++ (escapedChars line ++ ['\''])) := rfl
  have format : ("%s\\n' $'".toList ++ (escapedChars line ++ ['\''])).dropWhile (· != '\'') =
      "' $'".toList ++ (escapedChars line ++ ['\'']) := rfl
  have named : ("%s\\n' $'".toList ++ (escapedChars line ++ ['\''])).takeWhile (· != '\'') = "%s\\n".toList := rfl
  rw [PrintCall.ofLine?, command, after?_append, Option.bind_eq_bind, Option.bind_some, format, after?_append]
  simp only [Option.bind_eq_bind, Option.bind_some]
  rw [DollarQuotes.span?_escapedChars, named]
  simp only [Option.bind_some, DollarQuotes.pieces_escapedChars]
  rfl

theorem lineCall_printed (line : List Char) :
    (lineCall line).printed = (line ++ ['\n']).flatMap DollarQuotes.bytesOf := by
  have feed : DollarQuotes.bytesOf '\n' = ['\n'] := by decide
  have bytes : (line.map DollarQuotes.written).flatMap DollarQuotes.Piece.bytes = line.flatMap DollarQuotes.bytesOf := by
    rw [List.flatMap_map]
    exact List.flatMap_congr fun c _ => DollarQuotes.written_bytes c
  rw [PrintCall.printed, lineCall, bytes, print_line, List.flatMap_append, List.flatMap_singleton, feed]

-- Taking the bytes of an array one by one gives the array.
theorem loop_eq (bytes : ByteArray) (index : Nat) (read : List UInt8) :
    ByteArray.toList.loop bytes index read = read.reverse ++ bytes.data.toList.drop index := by
  rw [ByteArray.toList.loop.eq_def]
  split
  · rename_i inside
    rw [loop_eq bytes (index + 1)]
    have held : index < bytes.data.toList.length := by simpa using inside
    have same : bytes.get! index = bytes.data.toList[index] := by
      rw [Array.getElem_toList]
      exact getElem!_pos bytes.data index (by simpa using held)
    rw [List.drop_eq_getElem_cons held, same]
    simp
  · rename_i outside
    rw [List.drop_eq_nil_of_le (by simpa using outside), List.append_nil]
termination_by bytes.size - index

theorem ofString_eq (text : String) : ByteText.ofString text = text.toList.flatMap DollarQuotes.bytesOf := by
  have bytes (array : ByteArray) : array.toList = array.data.toList := by rw [ByteArray.toList, loop_eq]; rfl
  have encoded : Text.encode text = text.toList.flatMap String.utf8EncodeChar := by
    conv_lhs => rw [← text.ofList_toList]
    rw [Text.encode, bytes, String.toUTF8, String.toByteArray_ofList, List.utf8Encode, List.data_toByteArray,
      List.toList_toArray]
  rw [ByteText.ofString, encoded, ByteText.ofBytes, List.map_flatMap]
  rfl

theorem scriptLines_printed (lines : List (List Char)) (script : String)
    (together : lines.flatMap (fun line => line ++ ['\n']) = script.toList) :
    PrintsScript (lines.map printLine) script := by
  refine ⟨lines.map lineCall, ?_, ?_, ?_⟩
  · rw [List.map_map, List.map_map]
    exact List.map_congr_left fun line _ => ofLine?_printLine line
  · intro call member
    obtain ⟨line, _, rfl⟩ := List.mem_map.mp member
    exact ⟨rfl, fun escape => DollarQuotes.mem_written⟩
  · calc (lines.map lineCall).flatMap PrintCall.printed
        = lines.flatMap fun line => (line ++ ['\n']).flatMap DollarQuotes.bytesOf := by
          rw [List.flatMap_map]
          exact List.flatMap_congr fun line _ => lineCall_printed line
      _ = (lines.flatMap fun line => line ++ ['\n']).flatMap DollarQuotes.bytesOf := List.flatMap_assoc.symm
      _ = ByteText.ofString script := by rw [together, ofString_eq]

theorem wrapper_prints_script {script name : String} (ends : script.toList.getLast? = some '\n')
    (oneLine : '\n' ∉ name.toList) : ∃ body : List (List Char),
      Text.pieces (· == '\n') (wrap script name).toList =
        (name.toList ++ "() \x7b".toList) :: body ++ ["\x7d".toList, []] ∧
      PrintsScript body script := by
  refine ⟨(scriptLines script).map printLine, ?_, ?_⟩
  · rw [wrap, String.toList_ofList, Text.pieces_terminated (wrappedLines_unbroken script oneLine), wrappedLines_parts]
    simp [wrapperEnd]
  · apply scriptLines_printed
    rw [scriptLines, Text.terminated_pieces, dropOneLineFeed_ends ends]

def escapesInside : String := "it's \\x41\n\n'\\\n"

theorem escapesInside_printed :
    escapesInside.toList.getLast? = some '\n' ∧ '\n' ∉ "show".toList ∧ ∃ body : List (List Char),
      Text.pieces (· == '\n') (wrap escapesInside "show").toList =
        "show() \x7b".toList :: body ++ ["\x7d".toList, []] ∧
      PrintsScript body escapesInside := by
  have ends : escapesInside.toList.getLast? = some '\n' := by decide
  have oneLine : '\n' ∉ "show".toList := by decide
  exact ⟨ends, oneLine, wrapper_prints_script ends oneLine⟩

end CompletionRules.Script
