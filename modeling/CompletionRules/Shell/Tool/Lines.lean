import CompletionRules.Shell.CharClass
import CompletionRules.Shell.Tool.Plan

namespace CompletionRules.Shell.Lines

def visible (c : Char) : ByteText :=
  let plain := fun (code : Nat) =>
    if code < 32 then ['^', Char.ofNat (code + 64)]
    else if code = 127 then ['^', '?']
    else [Char.ofNat code]
  if c = '\t' then [c]
  else if c.toNat < 128 then plain c.toNat
  else 'M' :: '-' :: plain (c.toNat - 128)

structure CatState where
  shown : ByteText
  number : Nat
  blanks : Nat

def cat (arguments : List ByteText) : Option Plan := do
  let options ← Options.read ⟨['A', 'b', 'e', 'E', 'n', 's', 't', 'T', 'u', 'v'], [],
    [("show-all", 'A'), ("number-nonblank", 'b'), ("show-ends", 'E'), ("number", 'n'),
      ("squeeze-blank", 's'), ("show-tabs", 'T'), ("show-nonprinting", 'v')]⟩ arguments
  let asked := fun (letters : List Char) => letters.any options.has
  let shownLine := fun (line : ByteText) =>
    let (text, ending) := splitEnd line
    let marked := if asked ['A', 'e', 't', 'v'] then text.flatMap visible else text
    let tabbed := if asked ['A', 't', 'T'] then
      marked.flatMap fun c => if c = '\t' then ['^', 'I'] else [c] else marked
    tabbed ++ (if asked ['A', 'e', 'E'] && !ending.isEmpty then ['$'] else []) ++ ending
  let step := fun (state : CatState) (line : ByteText) =>
    let blank := line = ['\n']
    let blanks := if blank then state.blanks + 1 else 0
    if options.has 's' && blanks > 1 then { state with blanks := blanks }
    else
      let counted := if options.has 'b' then !blank else options.has 'n'
      let number := if counted then state.number + 1 else state.number
      let label := if counted then filled 6 (ByteText.ofNat number) ++ ['\t'] else []
      (⟨state.shown ++ label ++ shownLine line, number, blanks⟩ : CatState)
  pure (.transform options.operands fun text =>
    if options.flags.all (· == 'u') then text else ((cutLines text).foldl step ⟨[], 0, 0⟩).shown)

def rev (arguments : List ByteText) : Option Plan := do
  let options ← Options.read ⟨[], [], []⟩ arguments
  pure (.transform options.operands fun text =>
    (cutLines text).flatMap fun line => let (held, ending) := splitEnd line; held.reverse ++ ending)

def tac (arguments : List ByteText) : Option Plan := do
  let options ← Options.read ⟨[], [], []⟩ arguments
  pure ⟨options.operands, fun sources =>
    ⟨sources.flatMap fun source => (cutLines source.text).reverse.flatten, 0, []⟩⟩

-- A count after a single dash is the old way to ask for so many lines, or for bytes if a letter
-- follows that says so. Some letters are known at the start only.
def oldCount (atStart : Bool) (arguments : List ByteText) : List ByteText :=
  match arguments with
  | ('-' :: word) :: rest =>
    let digits := word.takeWhile Char.isDigit
    let letters := word.drop digits.length
    if digits.isEmpty || (!atStart && ['k', 'm', 'q', 'v'].any letters.contains) then arguments
    else match letters with
      | [] | ['l'] => ['-', 'n'] :: digits :: rest
      | ['c'] => ['-', 'c'] :: digits :: rest
      | ['b'] | ['k'] => ['-', 'c'] :: word :: rest
      | ['m'] => ['-', 'c'] :: (digits ++ ['M']) :: rest
      | ['q'] => ['-', 'q', 'n'] :: digits :: rest
      | ['v'] => ['-', 'v', 'n'] :: digits :: rest
      | _ => arguments
  | _ => arguments

def multiplier? : ByteText → Option Nat
  | [] => some 1
  | ['b'] => some 512
  | ['k'] | ['K'] | ['K', 'i', 'B'] => some 1024
  | ['k', 'B'] | ['K', 'B'] => some 1000
  | ['M'] => some (1024 * 1024)
  | ['M', 'B'] => some 1000000
  | _ => none

def count? (text : ByteText) : Option (Option Char × Nat) := do
  let (sign, rest) := match text with
    | '-' :: rest => (some '-', rest)
    | '+' :: rest => (some '+', rest)
    | rest => (none, rest)
  let value ← number? (rest.takeWhile Char.isDigit)
  let unit ← multiplier? (rest.dropWhile Char.isDigit)
  pure (sign, value * unit)

def withTitles (options : Options) (sources : List InputText)
    (change : ByteText → ByteText) : ByteText :=
  let titled := (sources.length > 1 && !options.has 'q') || options.has 'v'
  let blocks := sources.map fun source =>
    let name := if source.name = ['-'] then "standard input".toList else source.name
    (if titled then "==> ".toList ++ name ++ " <==\n".toList else []) ++ change source.text
  (if titled then ['\n'] else []).intercalate blocks

def pieceOptions : OptionTable :=
  ⟨['q', 'v'], ['n', 'c'], [("lines", 'n'), ("bytes", 'c'), ("quiet", 'q'), ("silent", 'q'),
    ("verbose", 'v')]⟩

def firstOf {α : Type} (count : Option Char × Nat) (held : List α) : List α :=
  if count.1 = some '-' then held.take (held.length - count.2) else held.take count.2

def lastOf {α : Type} (count : Option Char × Nat) (held : List α) : List α :=
  if count.1 = some '+' then held.drop (count.2 - 1) else held.drop (held.length - count.2)

def pieces (atStart : Bool) (byBytes byLines : Option Char × Nat → ByteText → ByteText)
    (arguments : List ByteText) : Option Plan := do
  let options ← Options.read pieceOptions (oldCount atStart arguments)
  let last := options.values.getLast?.getD ('n', ['1', '0'])
  let count ← count? last.2
  let change := if last.1 = 'c' then byBytes count else byLines count
  pure ⟨options.operands, fun sources => ⟨withTitles options sources change, 0, []⟩⟩

def head : List ByteText → Option Plan :=
  pieces true firstOf fun count text => (firstOf count (cutLines text)).flatten

def tail : List ByteText → Option Plan :=
  pieces false lastOf fun count text => (lastOf count (cutLines text)).flatten

def isSpace (c : Char) : Bool := ((CharClass.ranges? "space").getD []).holds c

def wordCount (text : ByteText) : Nat :=
  ((Text.pieces isSpace text).filter fun piece => !piece.isEmpty).length

def lineCount (text : ByteText) : Nat := (text.filter (· == '\n')).length

def widest (text : ByteText) : Nat := ((ByteText.lines text).map List.length).foldl max 0

def wc (arguments : List ByteText) : Option Plan := do
  let options ← Options.read ⟨['l', 'w', 'c', 'm', 'L'], [],
    [("lines", 'l'), ("words", 'w'), ("bytes", 'c'), ("chars", 'm'), ("max-line-length", 'L')]⟩ arguments
  let letters := ['l', 'w', 'm', 'c', 'L'].filter fun letter =>
    if options.flags.isEmpty then ['l', 'w', 'c'].contains letter else options.has letter
  let counts := fun (text : ByteText) => letters.map fun letter =>
    match letter with
    | 'l' => lineCount text
    | 'w' => wordCount text
    | 'L' => widest text
    | _ => text.length
  pure ⟨options.operands, fun sources =>
    let rows := sources.map fun source =>
      (if options.operands.isEmpty then [] else source.name, counts source.text)
    let sums := letters.zipIdx.map fun (letter, place) =>
      let column := rows.map fun row => row.2[place]?.getD 0
      if letter = 'L' then column.foldl max 0 else column.foldl (· + ·) 0
    let table := if sources.length > 1 then rows ++ [("total".toList, sums)] else rows
    let size := (sources.map fun source => source.text.length).foldl (· + ·) 0
    let width :=
      if sources.length ≤ 1 && letters.length = 1 then 1
      else if sources.any fun source => source.name = ['-'] then 7
      else (ByteText.ofNat size).length
    let row := fun ((name, held) : ByteText × List Nat) =>
      [' '].intercalate (held.map fun value => filled width (ByteText.ofNat value)) ++
        (if name.isEmpty then [] else ' ' :: name)
    ⟨ByteText.ofLines (table.map row), 0, []⟩⟩

def nl (arguments : List ByteText) : Option Plan := do
  let options ← Options.read ⟨['p'], ['b', 'i', 'n', 's', 'v', 'w'],
    [("body-numbering", 'b'), ("line-increment", 'i'), ("number-format", 'n'),
      ("number-separator", 's'), ("starting-line-number", 'v'), ("number-width", 'w')]⟩ arguments
  let style := (options.value? 'b').getD ['t']
  let increment ← ((options.value? 'i').map signedNumber?).getD (some 1)
  let start ← ((options.value? 'v').map signedNumber?).getD (some 1)
  let width ← ((options.value? 'w').map number?).getD (some 6)
  let mark := (options.value? 's').getD ['\t']
  let shown := fun (value : Int) =>
    let digits := ByteText.ofInt value
    match ((options.value? 'n').getD []) with
    | ['l', 'n'] => digits ++ List.replicate (width - digits.length) ' '
    | ['r', 'z'] => List.replicate (width - digits.length) '0' ++ digits
    | _ => filled width digits
  let step := fun ((text, value) : ByteText × Int) (line : ByteText) =>
    if style = ['a'] || (style = ['t'] && !line.isEmpty) then
      (text ++ shown value ++ mark ++ line ++ ['\n'], value + increment)
    else (text ++ List.replicate (width + mark.length) ' ' ++ line ++ ['\n'], value)
  pure (.transform options.operands fun text => ((ByteText.lines text).foldl step ([], start)).1)

end CompletionRules.Shell.Lines
