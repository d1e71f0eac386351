import CompletionRules.Shell.CharClass
import CompletionRules.Shell.Tool.Plan

namespace CompletionRules.Shell.Fields

structure Stretch where
  first : Nat
  last : Option Nat
  deriving Repr, DecidableEq

namespace Stretch

def holds (stretch : Stretch) (place : Nat) : Bool :=
  stretch.first ≤ place && stretch.last.all fun last => place ≤ last

def ofText? (text : ByteText) : Option Stretch := do
  let held ← match Text.pieces (· == '-') text with
    | [only] => (number? only).map fun place => ⟨place, some place⟩
    | [[], high] => (number? high).map fun place => ⟨1, some place⟩
    | [low, []] => (number? low).map fun place => (⟨place, none⟩ : Stretch)
    | [low, high] => do
      let first ← number? low
      let last ← number? high
      pure ⟨first, some last⟩
    | _ => none
  if held.first = 0 || held.last.any fun last => last < held.first then none else pure held

def touches (left right : Stretch) : Bool := left.last.all fun last => right.first ≤ last

def joined (left right : Stretch) : Stretch :=
  ⟨left.first, left.last.bind fun first => right.last.map fun second => max first second⟩

def settled (stretches : List Stretch) : List Stretch :=
  (stretches.mergeSort fun left right => left.first ≤ right.first).foldr (fun stretch others =>
    match others with
    | next :: rest => if stretch.touches next then stretch.joined next :: rest else stretch :: others
    | [] => [stretch]) []

def gaps : Nat → List Stretch → List Stretch
  | start, [] => [⟨start, none⟩]
  | start, stretch :: rest =>
    let before := if start < stretch.first then [⟨start, some (stretch.first - 1)⟩] else []
    match stretch.last with
    | some last => before ++ gaps (last + 1) rest
    | none => before

end Stretch

def stretches? (text : ByteText) : Option (List Stretch) :=
  (((Text.pieces (fun c => c == ',' || c == ' ') text).mapM Stretch.ofText?)).map fun held =>
    Stretch.settled (Stretch.settled held)

def listed {α : Type} (stretches : List Stretch) (held : List α) : List α :=
  (held.zipIdx.filter fun (_, index) => stretches.any fun stretch => stretch.holds (index + 1)).map Prod.fst

def cut (arguments : List ByteText) : Option Plan := do
  let options ← Options.read ⟨['n', 's', 'C'], ['b', 'c', 'd', 'f', 'O'],
    [("bytes", 'b'), ("characters", 'c'), ("delimiter", 'd'), ("fields", 'f'), ("complement", 'C'),
      ("only-delimited", 's'), ("output-delimiter", 'O')]⟩ arguments
  let (kind, list) ← match options.values.filter fun entry => ['b', 'c', 'f'].contains entry.1 with
    | [only] => some only
    | _ => none
  let stretches ← stretches? list
  let wanted := if options.has 'C' then Stretch.gaps 1 stretches else stretches
  let joint := options.value? 'O'
  if kind = 'f' then do
    let delimiter ← match options.value? 'd' with
      | none => some '\t'
      | some [] => some '\x00'
      | some [c] => some c
      | some _ => none
    pure (.mapLines options.operands fun line =>
      if line.contains delimiter then
        some ((joint.getD [delimiter]).intercalate (listed wanted (Text.pieces (· == delimiter) line)))
      else if options.has 's' then none else some line)
  else if (options.value? 'd').isSome || options.has 's' then none
  else
    pure (.mapLines options.operands fun line =>
      let parts := (wanted.map fun stretch => listed [stretch] line).filter fun part => !part.isEmpty
      some ((joint.getD []).intercalate parts))

def delimiters : ByteText → List ByteText
  | '\\' :: c :: rest =>
    (match c with
      | 'n' => ['\n']
      | 't' => ['\t']
      | '0' => []
      | _ => [c]) :: delimiters rest
  | c :: rest => [c] :: delimiters rest
  | [] => []

def interleaved (marks : List ByteText) (fields : List ByteText) : ByteText :=
  (fields.zipIdx.flatMap fun (field, index) =>
    field ++ (if index + 1 < fields.length then marks[index % marks.length]?.getD [] else []))

def dealt (columns : Nat) (lines : List ByteText) (column : Nat) : List ByteText :=
  lines.zipIdx.filterMap fun (line, index) => if index % columns = column then some line else none

def paste (arguments : List ByteText) : Option Plan := do
  let options ← Options.read ⟨['s'], ['d'], [("serial", 's'), ("delimiters", 'd')]⟩ arguments
  let marks := match (options.value? 'd').map delimiters with
    | none => [['\t']]
    | some [] => [[]]
    | some held => held
  pure ⟨options.operands, fun sources =>
    if options.has 's' then
      ⟨ByteText.ofLines (sources.map fun source => interleaved marks (ByteText.lines source.text)), 0, []⟩
    else
      let shared := sources.filter fun source => source.name = ['-']
      let sharedLines := ByteText.lines (shared.flatMap fun source => source.text)
      let columns := sources.zipIdx.map fun (source, index) =>
        if source.name = ['-'] then
          dealt shared.length sharedLines
            ((sources.take index).filter fun other => other.name = ['-']).length
        else ByteText.lines source.text
      let height := (columns.map List.length).foldl max 0
      let rows := (List.range height).map fun row =>
        interleaved marks (columns.map fun column => column[row]?.getD [])
      ⟨ByteText.ofLines rows, 0, []⟩⟩

inductive SetItem where
  | chars (held : ByteText)
  | named (name : String) (held : ByteText)
  | equals (c : Char)
  | filler (c : Char)
  deriving Repr, DecidableEq

def isOctal (c : Char) : Bool := '0' ≤ c && c ≤ '7'

def escapeOf : Char → Char
  | 'a' => '\x07'
  | 'b' => '\x08'
  | 'f' => '\x0c'
  | 'n' => '\n'
  | 'r' => '\r'
  | 't' => '\t'
  | 'v' => '\x0b'
  | c => c

def octalValue (digits : ByteText) : Nat := digits.foldl (fun value c => value * 8 + (c.toNat - 48)) 0

def setChar : ByteText → Option (Char × ByteText)
  | [] => none
  | '\\' :: c :: rest =>
    if isOctal c then
      let digits := ((c :: rest).take 3).takeWhile isOctal
      let held := if octalValue digits > 255 then digits.take 2 else digits
      some (Char.ofNat (octalValue held), (c :: rest).drop held.length)
    else some (escapeOf c, rest)
  | c :: rest => some (c, rest)

def repeatedChar (text : ByteText) : Option (SetItem × ByteText) := do
  let (c, after) ← setChar text
  match after with
  | '*' :: rest => do
    let digits := rest.takeWhile Char.isDigit
    match rest.drop digits.length with
    | ']' :: left => do
      let count := if digits.head? = some '0' then octalValue digits else (number? digits).getD 0
      pure (if count = 0 then .filler c else .chars (List.replicate count c), left)
    | _ => none
  | _ => none

def setItems : Nat → ByteText → Option (List SetItem)
  | 0, _ => none
  | _, [] => some []
  | room + 1, text => do
    match text with
    | '[' :: ':' :: rest =>
      match CharClass.named? (':' :: rest) with
      | some (name, after) => do
        let held ← CharClass.ranges? name
        let others ← setItems room after
        pure (.named name held.members :: others)
      | none => do
        let others ← setItems room (':' :: rest)
        pure (.chars ['['] :: others)
    | '[' :: '=' :: c :: '=' :: ']' :: after => do
      let others ← setItems room after
      pure (.equals c :: others)
    | _ =>
      match if text.head? = some '[' then repeatedChar (text.drop 1) else none with
      | some (item, after) => do
        let others ← setItems room after
        pure (item :: others)
      | none => do
        let (low, after) ← setChar text
        match after with
        | '-' :: c :: rest => do
          let (high, left) ← setChar (c :: rest)
          if high < low then none
          else do
            let others ← setItems room left
            pure (.chars (CharRanges.members [(low, high)]) :: others)
        | _ => do
          let others ← setItems room after
          pure (.chars [low] :: others)

def setItems? (text : ByteText) : Option (List SetItem) := setItems (text.length + 1) text

def SetItem.members (room : Nat) : SetItem → ByteText
  | .chars held | .named _ held => held
  | .equals c => [c]
  | .filler c => List.replicate room c

def setMembers (length : Nat) (items : List SetItem) : ByteText :=
  let fixed := items.flatMap (SetItem.members 0)
  items.flatMap (SetItem.members (length - fixed.length))

def complement (set : ByteText) : ByteText :=
  ((List.range 256).map Char.ofNat).filter fun c => !set.contains c

def squeezed (set : ByteText) (text : ByteText) : ByteText :=
  text.foldr (fun c others =>
    if others.head? = some c && set.contains c then others else c :: others) []

-- The character at the same place of the second set, whose last one stands for all that are missing.
def counterpart (first second : ByteText) (c : Char) : Char :=
  match first.reverse.idxOf? c, second.getLast? with
  | some place, some last => second[first.length - 1 - place]?.getD last
  | _, _ => c

def SetItem.isFiller : SetItem → Bool
  | .filler _ => true
  | _ => false

def SetItem.isClass : SetItem → Bool
  | .named _ _ => true
  | _ => false

def SetItem.isCaseClass : SetItem → Bool
  | .named name _ => name = "upper" || name = "lower"
  | _ => false

def casePlaces (items : List SetItem) : List Bool :=
  items.flatMap fun item =>
    if item.isCaseClass then [true] else (item.members 0).map fun _ => false

def areCasesAligned (first second : List SetItem) : Bool :=
  let places := casePlaces first
  (((casePlaces second).zipIdx).take (places.length + 1)).all fun (isCase, place) =>
    !isCase || places[place]?.getD false

def replacements? (complemented truncated : Bool) (items others : List SetItem) (first : ByteText) :
    Option ByteText :=
  let second := setMembers first.length others
  let isAllowed := fun (item : SetItem) => match item with
    | .equals _ => false
    | .named _ _ => item.isCaseClass
    | _ => true
  let isExtended := second.length < first.length && !truncated
  let isUniform := (isExtended || second.length = first.length) && second.all (some · == second.head?)
  if (others.filter SetItem.isFiller).length > 1 || !others.all isAllowed then none
  else if !complemented && others.any SetItem.isCaseClass && !areCasesAligned items others then none
  else if isExtended && (second.isEmpty || others.getLast?.any SetItem.isClass) then none
  else if complemented && items.any SetItem.isClass && !isUniform then none
  else some second

def tr (arguments : List ByteText) : Option Plan := do
  let options ← Options.readLeading ⟨['c', 'C', 'd', 's', 't'], [],
    [("complement", 'c'), ("delete", 'd'), ("squeeze-repeats", 's'), ("truncate-set1", 't')]⟩ arguments
  let items ← setItems? (← options.operands[0]?)
  let complemented := options.has 'c' || options.has 'C'
  let set := setMembers 0 items
  let first := if complemented then complement set else set
  if items.any SetItem.isFiller then none
  else match options.has 'd', options.has 's', options.operands.drop 1 with
  | true, false, [] => pure (.transform [] fun text => text.filter fun c => !first.contains c)
  | true, true, [other] => do
    let others ← setItems? other
    if others.any SetItem.isFiller then none
    else
      let second := setMembers 0 others
      pure (.transform [] fun text => squeezed second (text.filter fun c => !first.contains c))
  | false, true, [] => pure (.transform [] (squeezed first))
  | false, squeeze, [other] => do
    let second ← replacements? complemented (options.has 't') items (← setItems? other) first
    let first := if options.has 't' then first.take second.length else first
    pure (.transform [] fun text =>
      let mapped := text.map (counterpart first second)
      if squeeze then squeezed second mapped else mapped)
  | _, _, _ => none

def folded (width : Nat) (atBlanks : Bool) : Nat → ByteText → List ByteText
  | 0, line => [line]
  | room + 1, line =>
    if line.length ≤ width then [line]
    else
      let start := line.take width
      let kept := if atBlanks then (start.reverse.dropWhile (· ≠ ' ')).reverse else []
      let part := if kept.isEmpty then start else kept
      part :: folded width atBlanks room (line.drop part.length)

def fold (arguments : List ByteText) : Option Plan := do
  let options ← Options.read ⟨['b', 's'], ['w'], [("bytes", 'b'), ("spaces", 's'), ("width", 'w')]⟩ arguments
  let width ← ((options.value? 'w').map number?).getD (some 80)
  if width = 0 then none
  else pure (.transform options.operands fun text =>
    (cutLines text).flatMap fun line =>
      let (held, ending) := splitEnd line
      ['\n'].intercalate (folded width (options.has 's') held.length held) ++ ending)

def expandLine (width : Nat) (line : ByteText) : ByteText :=
  line.foldl (fun shown c =>
    if c = '\t' then shown ++ List.replicate (width - shown.length % width) ' ' else shown ++ [c]) []

def expand (arguments : List ByteText) : Option Plan := do
  let options ← Options.read ⟨['i'], ['t'], [("initial", 'i'), ("tabs", 't')]⟩ arguments
  let width ← ((options.value? 't').map number?).getD (some 8)
  if width = 0 then none
  else pure (.transform options.operands fun text => (cutLines text).flatMap (expandLine width))

def unexpandLine (width : Nat) (line : ByteText) : ByteText :=
  let isBlank := fun c => c == ' ' || c == '\t'
  let column := (expandLine width (line.takeWhile isBlank)).length
  List.replicate (column / width) '\t' ++ List.replicate (column % width) ' ' ++ line.dropWhile isBlank

def unexpand (arguments : List ByteText) : Option Plan := do
  let options ← Options.read ⟨['f'], ['t'], [("first-only", 'f'), ("tabs", 't')]⟩ arguments
  let width ← ((options.value? 't').map number?).getD (some 8)
  if width = 0 then none
  else pure (.transform options.operands fun text => (cutLines text).flatMap (unexpandLine width))

end CompletionRules.Shell.Fields
