import CompletionRules.Shell.Search.Reading
import CompletionRules.Shell.Tool.Plan

namespace CompletionRules.Shell.LineSearch

inductive Extent where
  | anywhere
  | words
  | lines
  deriving Repr, DecidableEq

def isWordEdgeBefore (place : Place) : Bool := !place.isAfterWord

def isWordEdgeAfter (place : Place) : Bool := !place.isBeforeWord

def endsFrom (search : Search) (manner : Manner) (extent : Extent) (place : Place) : List Place :=
  match extent with
  | .anywhere => search.ends manner place
  | .lines => if place.passed.isEmpty then (search.ends manner place).filter fun last => last.ahead.isEmpty else []
  | .words =>
    if isWordEdgeBefore place then (search.ends manner place).filter isWordEdgeAfter else []

def findNext (search : Search) (manner : Manner) (extent : Extent) (place : Place) :
    Option (Place × Place) :=
  Search.find (endsFrom search manner extent) (place.ahead.length + 1) place

def isFound (search : Search) (manner : Manner) (extent : Extent) (line : ByteText) : Bool :=
  (findNext search manner extent (.start line)).isSome

def occurrences (search : Search) (manner : Manner) (extent : Extent) : Nat → Place → List (Nat × ByteText)
  | 0, _ => []
  | room + 1, place =>
    match findNext search manner extent place with
    | none => []
    | some (first, last) =>
      if first.ahead.length = last.ahead.length then
        match last.step with
        | none => []
        | some next => occurrences search manner extent room { next with held := [] }
      else (first.passed.length, first.between last) :: occurrences search manner extent room { last with held := [] }

structure Judged where
  number : Nat
  offset : Nat
  line : ByteText
  found : Bool
  deriving Repr, DecidableEq

def isShown (before after : Nat) (found : List Nat) (number : Nat) : Bool :=
  found.any fun place => place ≤ number + before && number ≤ place + after

def separated (label : Judged → ByteText) : Option Nat → List Judged → List ByteText
  | _, [] => []
  | last, judged :: rest =>
    let apart := last.any fun number => number + 1 < judged.number
    (if apart then ["--".toList] else []) ++
      (label judged ++ judged.line) :: separated label (some judged.number) rest

def table : OptionTable :=
  ⟨['E', 'F', 'G', 'P', 'a', 'b', 'c', 'H', 'h', 'i', 'L', 'l', 'n', 'o', 'q', 's', 'U', 'v', 'w', 'x',
      'y', 'Z'],
    ['A', 'B', 'C', 'e', 'm', '#'],
    [("extended-regexp", 'E'), ("fixed-strings", 'F'), ("basic-regexp", 'G'), ("perl-regexp", 'P'),
      ("text", 'a'), ("byte-offset", 'b'), ("count", 'c'), ("with-filename", 'H'), ("no-filename", 'h'), ("ignore-case", 'i'),
      ("files-without-match", 'L'), ("files-with-matches", 'l'), ("line-number", 'n'),
      ("only-matching", 'o'), ("quiet", 'q'), ("silent", 'q'), ("no-messages", 's'),
      ("invert-match", 'v'), ("word-regexp", 'w'), ("line-regexp", 'x'), ("after-context", 'A'),
      ("before-context", 'B'), ("context", 'C'), ("regexp", 'e'), ("max-count", 'm'), ("color", '#')]⟩

def withContext : List ByteText → List ByteText
  | [] => []
  | argument :: rest =>
    match argument with
    | ['-', '-'] => argument :: rest
    | '-' :: digits =>
      if (number? digits).isSome then ['-', 'C'] :: digits :: withContext rest
      else argument :: withContext rest
    | _ => argument :: withContext rest

def offsets (start : Nat) : List ByteText → List Nat
  | [] => []
  | line :: rest => start :: offsets (start + line.length + 1) rest

def anyOf : List Search → Option Search
  | [] => none
  | [only] => some only
  | first :: others => (anyOf others).map fun rest => .either first rest

def lastOf (letters : List Char) (options : Options) : Option Char :=
  (options.flags.filter letters.contains).getLast?

def writingLetter (program : String) (options : Options) : Char :=
  (lastOf ['E', 'F', 'G', 'P'] options).getD
    (if program = "egrep" then 'E' else if program = "fgrep" then 'F' else 'G')

def grep (program : String) (arguments : List ByteText) : Option Plan := do
  let options ← Options.read table (withContext arguments)
  let writing := writingLetter program options
  let (patterns, operands) ← match options.valuesOf 'e', options.operands with
    | [], [] => none
    | [], text :: operands => some ([text], operands)
    | held, operands => some (held, operands)
  let searches ← (patterns.flatMap fun text => Text.pieces (· == '\n') text).mapM fun text =>
    if writing = 'F' then some (Search.ofText text)
    else (Search.read? ⟨writing ≠ 'G', false, false⟩ text).map Prod.fst
  let search ← anyOf searches
  let around ← ((options.value? 'C').map number?).getD (some 0)
  let before ← ((options.value? 'B').map number?).getD (some around)
  let after ← ((options.value? 'A').map number?).getD (some around)
  let most ← match options.value? 'm' with
    | none => some none
    | some text => (number? text).map some
  let manner : Manner := ⟨options.has 'i' || options.has 'y', false⟩
  let extent := if options.has 'x' then .lines else if options.has 'w' then .words else .anywhere
  let named := options.has 'H' || (operands.length > 1 && !options.has 'h')
  let label := fun (name : ByteText) (judged : Judged) =>
    let mark := if judged.found then ':' else '-'
    (if named then name ++ [mark] else []) ++
      (if options.has 'n' then ByteText.ofNat judged.number ++ [mark] else []) ++
      (if options.has 'b' then ByteText.ofNat judged.offset ++ [mark] else [])
  let report := fun (source : InputText) =>
    let name := if source.name = ['-'] then "(standard input)".toList else source.name
    let lines := ByteText.lines source.text
    let judged := (lines.zip (offsets 0 lines)).zipIdx.map fun ((line, offset), index) =>
      (⟨index + 1, offset, line, isFound search manner extent line != options.has 'v'⟩ : Judged)
    let all := (judged.filter fun held => held.found).map fun held => held.number
    let kept := match most with
      | some count => all.take count
      | none => all
    let text :=
      if options.has 'q' then []
      else if let some letter := lastOf ['L', 'l'] options then
        if kept.isEmpty = (letter == 'L') then name ++ ['\n'] else []
      else if options.has 'c' then
        (if named then name ++ [':'] else []) ++ ByteText.ofNat kept.length ++ ['\n']
      else if options.has 'o' then
        if options.has 'v' then []
        else ByteText.ofLines ((judged.filter fun held => kept.contains held.number).flatMap fun held =>
          (occurrences search manner extent (held.line.length + 1) (.start held.line)).map
            fun (passed, text) => label name { held with offset := held.offset + passed } ++ text)
      else
        let shown := judged.filter fun held => isShown before after kept held.number
        let labelled := fun (held : Judged) => label name { held with found := kept.contains held.number }
        let parted := ['A', 'B', 'C'].any fun letter => (options.value? letter).isSome
        ByteText.ofLines (if !parted then shown.map fun held => labelled held ++ held.line
          else separated labelled none shown)
    (text, !kept.isEmpty)
  pure ⟨operands, fun sources =>
    let reports := sources.map report
    let found := reports.any Prod.snd
    ⟨reports.flatMap Prod.fst, if found then 0 else 1, []⟩⟩

end CompletionRules.Shell.LineSearch
