import CompletionRules.Numeral.Binary64
import CompletionRules.Shell.Tool.Plan

namespace CompletionRules.Shell.Order

inductive Kind where
  | bytes
  | number
  | general
  | magnitude
  | month
  | version
  deriving Repr, DecidableEq

structure Comparison where
  kind : Kind
  folded : Bool
  wordsOnly : Bool
  shownOnly : Bool
  reversed : Bool
  skipsStart : Bool
  skipsEnd : Bool
  deriving Repr, DecidableEq

structure KeyBound where
  fields : Nat
  chars : Nat
  deriving Repr, DecidableEq

structure SortKey where
  first : KeyBound
  last : Option KeyBound
  options : Comparison
  deriving Repr, DecidableEq

def isBlank (c : Char) : Bool := c == ' ' || c == '\t'

def compareBytes : ByteText → ByteText → Ordering
  | [], [] => .eq
  | [], _ :: _ => .lt
  | _ :: _, [] => .gt
  | left :: lefts, right :: rights =>
    match compare left.toNat right.toNat with
    | .eq => compareBytes lefts rights
    | other => other

structure Scaled where
  value : Int
  places : Nat
  deriving Repr, DecidableEq

def Scaled.compare (left right : Scaled) : Ordering :=
  Ord.compare (left.value * tenTo right.places) (right.value * tenTo left.places)

def leadingNumber (text : ByteText) : Scaled × ByteText :=
  let text := text.dropWhile isBlank
  let (negative, unsigned) := match text with
    | '-' :: rest => (true, rest)
    | rest => (false, rest)
  let whole := unsigned.takeWhile Char.isDigit
  let after := unsigned.dropWhile Char.isDigit
  let (fraction, rest) := match after with
    | '.' :: more => (more.takeWhile Char.isDigit, more.dropWhile Char.isDigit)
    | _ => ([], after)
  let value : Int := ((number? (whole ++ fraction)).getD 0 : Nat)
  (⟨if negative then -value else value, fraction.length⟩, rest)

def magnitudeOf (rest : ByteText) : Nat :=
  match rest.head? with
  | some 'k' => 1
  | some c => (("KMGTPEZY".toList.idxOf? c).map (· + 1)).getD 0
  | none => 0

def compareMagnitudes (left right : ByteText) : Ordering :=
  let (first, firstRest) := leadingNumber left
  let (second, secondRest) := leadingNumber right
  let rank := fun (number : Scaled) (rest : ByteText) =>
    if number.value = 0 then (0 : Int)
    else (if number.value < 0 then -1 else 1) * ((magnitudeOf rest : Int) + 1)
  match compare (rank first firstRest) (rank second secondRest) with
  | .eq => first.compare second
  | other => other

def generalNumber? (text : ByteText) : Option Scaled :=
  let text := text.dropWhile isBlank
  let (number, rest) := leadingNumber text
  let starts := match Decimal.takeSign text with
    | (_, '.' :: c :: _) | (_, c :: _) => c.isDigit
    | (_, []) => false
  if !starts then none
  else match rest with
    | 'e' :: exponent | 'E' :: exponent =>
      let digits := exponent.takeWhile fun c => c.isDigit || c == '-' || c == '+'
      match signedNumber? digits with
      | some (.ofNat power) => some ⟨number.value * tenTo power, number.places⟩
      | some (.negSucc power) => some ⟨number.value, number.places + power + 1⟩
      | none => some number
    | _ => some number

def compareGeneral (left right : ByteText) : Ordering :=
  match generalNumber? left, generalNumber? right with
  | none, none => .eq
  | none, some _ => .lt
  | some _, none => .gt
  | some first, some second => first.compare second

def monthNames : List String :=
  ["JAN", "FEB", "MAR", "APR", "MAY", "JUN", "JUL", "AUG", "SEP", "OCT", "NOV", "DEC"]

def monthOf (text : ByteText) : Nat :=
  let name := String.ofList (((text.dropWhile isBlank).take 3).map Char.toUpper)
  ((monthNames.idxOf? name).map (· + 1)).getD 0

def versionRank : Option Char → Int
  | none => -1
  | some c =>
    if c.isDigit then 0 else if c == '~' then -2 else if c.isAlpha then c.toNat else (c.toNat : Int) + 256

def compareVersionParts : Nat → ByteText → ByteText → Ordering
  | 0, _, _ => .eq
  | room + 1, left, right =>
    if left.isEmpty && right.isEmpty then .eq
    else
      let goesOn := fun (text : ByteText) => text.head?.any fun c => !c.isDigit
      if goesOn left || goesOn right then
        match compare (versionRank left.head?) (versionRank right.head?) with
        | .eq => compareVersionParts room (left.drop 1) (right.drop 1)
        | other => other
      else
        let first := (number? (left.takeWhile Char.isDigit)).getD 0
        let second := (number? (right.takeWhile Char.isDigit)).getD 0
        match compare first second with
        | .eq => compareVersionParts room (left.dropWhile Char.isDigit) (right.dropWhile Char.isDigit)
        | other => other

def areSuffixes : Nat → ByteText → Bool
  | 0, _ => false
  | _, [] => true
  | room + 1, '.' :: c :: rest =>
    (c.isAlpha || c == '~') && areSuffixes room (rest.dropWhile fun c => c.isAlphanum || c == '~')
  | _, _ => false

def stem : ByteText → ByteText
  | [] => []
  | c :: rest => if areSuffixes (rest.length + 1) rest then [c] else c :: stem rest

-- Hidden names come first, the shortest of them before all others. Suffixes count only between names
-- that are the same without them.
def compareVersions (left right : ByteText) : Ordering :=
  let hidden := fun (text : ByteText) =>
    if text.isEmpty then 0
    else if text = ['.'] then 1
    else if text = ['.', '.'] then 2
    else if text.head? = some '.' then 3
    else (4 : Nat)
  let room := left.length + right.length + 2
  match compare (hidden left) (hidden right) with
  | .eq =>
    match compareVersionParts room (stem left) (stem right) with
    | .eq => compareVersionParts room left right
    | other => other
  | other => other

def isWordOrBlank (c : Char) : Bool := c.isAlphanum || isBlank c

def compareTexts (options : Comparison) (left right : ByteText) : Ordering :=
  let seen := fun (text : ByteText) =>
    let kept := if options.wordsOnly then text.filter isWordOrBlank
      else if options.shownOnly then text.filter fun c => ' ' ≤ c && c ≤ '~'
      else text
    if options.folded then kept.map Char.toUpper else kept
  let held := match options.kind with
    | .bytes => compareBytes (seen left) (seen right)
    | .number => (leadingNumber left).1.compare (leadingNumber right).1
    | .general => compareGeneral left right
    | .magnitude => compareMagnitudes left right
    | .month => compare (monthOf left) (monthOf right)
    | .version => compareVersions (seen left) (seen right)
  if options.reversed then held.swap else held

def dropFields (separator : Option Char) : Nat → ByteText → ByteText
  | 0, text => text
  | count + 1, text =>
    match separator with
    | some c => dropFields separator count ((text.dropWhile (· ≠ c)).drop 1)
    | none => dropFields separator count ((text.dropWhile isBlank).dropWhile fun c => !isBlank c)

def dropField (separator : Option Char) (text : ByteText) : ByteText :=
  match separator with
  | some c => text.dropWhile (· ≠ c)
  | none => (text.dropWhile isBlank).dropWhile fun c => !isBlank c

def keyText (separator : Option Char) (key : SortKey) (line : ByteText) : ByteText :=
  let skip := fun (wanted : Bool) (text : ByteText) => if wanted then text.dropWhile isBlank else text
  let start := (skip key.options.skipsStart (dropFields separator key.first.fields line)).drop key.first.chars
  match key.last with
  | none => start
  | some last =>
    let field := dropFields separator last.fields line
    let rest := if last.chars = 0 then dropField separator field
      else (skip key.options.skipsEnd field).drop last.chars
    start.take (start.length - rest.length)

def compareByKeys (separator : Option Char) (left right : ByteText) : List SortKey → Ordering
  | [] => .eq
  | key :: others =>
    match compareTexts key.options (keyText separator key left) (keyText separator key right) with
    | .eq => compareByKeys separator left right others
    | other => other

def kindOf (letters : List Char) : Kind :=
  if letters.contains 'n' then .number
  else if letters.contains 'g' then .general
  else if letters.contains 'h' then .magnitude
  else if letters.contains 'M' then .month
  else if letters.contains 'V' then .version
  else .bytes

def orderingOf (start last : List Char) : Comparison :=
  let letters := start ++ last
  ⟨kindOf letters, letters.contains 'f', letters.contains 'd', letters.contains 'i', letters.contains 'r', start.contains 'b',
    last.contains 'b'⟩

def bound? (text : ByteText) : Option (Nat × Option Nat × List Char) := do
  let fields ← number? (text.takeWhile Char.isDigit)
  match text.dropWhile Char.isDigit with
  | '.' :: rest => do
    let chars ← number? (rest.takeWhile Char.isDigit)
    pure (fields, some chars, rest.dropWhile Char.isDigit)
  | letters => pure (fields, none, letters)

def isOrderLetter (c : Char) : Bool := ['b', 'd', 'f', 'g', 'h', 'i', 'M', 'n', 'r', 'V'].contains c

def goTogether (letters : List Char) : Bool :=
  let ways := ['n', 'g', 'h', 'M'].filter letters.contains
  ways.length + (if ['V', 'd', 'i'].any letters.contains then 1 else 0) ≤ 1

def key? (general : List Char) (text : ByteText) : Option SortKey := do
  let (fields, chars, startLetters) ← bound? (text.takeWhile (· ≠ ','))
  let (last, lastLetters) ← match text.dropWhile (· ≠ ',') with
    | [] => some (none, [])
    | _ :: rest => do
      let (fields, chars, letters) ← bound? rest
      if fields = 0 then none else some (some (⟨fields - 1, chars.getD 0⟩ : KeyBound), letters)
  if fields = 0 || chars = some 0 || !(startLetters ++ lastLetters).all isOrderLetter then none
  else
    let own := !(startLetters ++ lastLetters).isEmpty
    if !goTogether (if own then startLetters ++ lastLetters else general) then none
    else pure ⟨⟨fields - 1, chars.getD 1 - 1⟩, last,
      if own then orderingOf startLetters lastLetters else orderingOf general general⟩

def dropRepeated (same : ByteText → ByteText → Bool) : List ByteText → List ByteText
  | [] => []
  | line :: rest =>
    match dropRepeated same rest with
    | [] => [line]
    | next :: others => if same line next then line :: others else line :: next :: others

def isOutOfOrder (inOrder : ByteText → ByteText → Bool) : List ByteText → Bool
  | first :: second :: rest => !inOrder first second || isOutOfOrder inOrder (second :: rest)
  | _ => false

def sortTable : OptionTable :=
  ⟨['b', 'd', 'f', 'g', 'h', 'i', 'M', 'n', 'r', 'V', 'c', 'C', 'm', 's', 'u', 'z'], ['k', 'o', 't', 'S', 'T'],
    [("ignore-leading-blanks", 'b'), ("dictionary-order", 'd'), ("ignore-case", 'f'),
      ("general-numeric-sort", 'g'), ("human-numeric-sort", 'h'), ("ignore-nonprinting", 'i'),
      ("month-sort", 'M'), ("numeric-sort", 'n'), ("reverse", 'r'), ("version-sort", 'V'),
      ("check", 'c'), ("merge", 'm'), ("stable", 's'), ("unique", 'u'), ("key", 'k'), ("output", 'o'),
      ("field-separator", 't'), ("zero-terminated", 'z')]⟩

def records (ending : Char) (text : ByteText) : List ByteText :=
  let pieces := Text.pieces (· == ending) text
  if pieces.getLast? = some [] then pieces.dropLast else pieces

def sort (arguments : List ByteText) : Option Plan := do
  let options ← Options.read sortTable arguments
  let general := options.flags.filter isOrderLetter
  let keys ← (options.valuesOf 'k').mapM (key? general)
  let separator ← match options.value? 't' with
    | none => some none
    | some [c] => some (some c)
    | some ['\\', '0'] => some (some '\x00')
    | some _ => none
  let ending := if options.has 'z' then '\x00' else '\n'
  let fitting := !keys.isEmpty || goTogether general
  let keys := if keys.isEmpty && general.any (· ≠ 'r') then
    [⟨⟨0, 0⟩, none, orderingOf general general⟩] else keys
  let byKeys := fun (left right : ByteText) => compareByKeys separator left right keys
  let wholly := fun (left right : ByteText) =>
    let held := compareBytes left right
    if options.has 'r' then held.swap else held
  let compared := fun (left right : ByteText) =>
    match byKeys left right with
    | .eq => if !keys.isEmpty && (options.has 'u' || options.has 's') then .eq else wholly left right
    | other => other
  let order := fun (lines : List ByteText) =>
    let sorted := lines.mergeSort fun left right => compared left right != Ordering.gt
    if options.has 'u' then dropRepeated (fun left right => compared left right == Ordering.eq) sorted else sorted
  if !fitting || (options.has 'c' && options.has 'C') then none
  else pure (.joined options.operands fun text =>
    let lines := records ending text
    if options.has 'c' || options.has 'C' then
      let inOrder := fun (left right : ByteText) =>
        if options.has 'u' then compared left right == Ordering.lt else compared left right != Ordering.gt
      ⟨[], if isOutOfOrder inOrder lines then 1 else 0, []⟩
    else
      let shown := (order lines).flatMap fun line => line ++ [ending]
      match options.value? 'o' with
      | some path => ⟨[], 0, [(path, shown)]⟩
      | none => ⟨shown, 0, []⟩)

def runs (same : ByteText → ByteText → Bool) : List ByteText → List (List ByteText)
  | [] => []
  | line :: rest =>
    match runs same rest with
    | (next :: others) :: more =>
      if same line next then (line :: next :: others) :: more else [line] :: (next :: others) :: more
    | more => [line] :: more

def uniq (arguments : List ByteText) : Option Plan := do
  let options ← Options.read ⟨['c', 'd', 'D', 'u', 'i'], ['f', 's', 'w'],
    [("count", 'c'), ("repeated", 'd'), ("unique", 'u'), ("ignore-case", 'i'), ("skip-fields", 'f'),
      ("skip-chars", 's'), ("check-chars", 'w')]⟩ arguments
  let fields ← ((options.value? 'f').map number?).getD (some 0)
  let chars ← ((options.value? 's').map number?).getD (some 0)
  let width ← match options.value? 'w' with
    | none => some none
    | some text => (number? text).map some
  let compared := fun (line : ByteText) =>
    let kept := (dropFields none fields line).drop chars
    let cut := match width with
      | some count => kept.take count
      | none => kept
    if options.has 'i' then cut.map Char.toLower else cut
  if options.operands.length > 2 || (options.has 'c' && options.has 'D') then none
  else pure (.joined (options.operands.take 1) fun text =>
    let held := runs (fun left right => compared left == compared right) (ByteText.lines text)
    let wanted := held.filter fun run =>
      (!(options.has 'd' || options.has 'D') || run.length > 1) && (!options.has 'u' || run.length = 1)
    let shown := ByteText.ofLines (wanted.flatMap fun run =>
      if options.has 'D' then run
      else
        let label := if options.has 'c' then filled 7 (ByteText.ofNat run.length) ++ [' '] else []
        [label ++ run.head?.getD []])
    match options.operands[1]? with
    | some path => ⟨[], 0, [(path, shown)]⟩
    | none => ⟨shown, 0, []⟩)

def merged : Nat → List ByteText → List ByteText → List (ByteText × Bool × Bool)
  | 0, _, _ => []
  | _, [], rights => rights.map fun line => (line, false, true)
  | _, lefts, [] => lefts.map fun line => (line, true, false)
  | room + 1, left :: lefts, right :: rights =>
    match compareBytes left right with
    | .lt => (left, true, false) :: merged room lefts (right :: rights)
    | .gt => (right, false, true) :: merged room (left :: lefts) rights
    | .eq => (left, true, true) :: merged room lefts rights

def comm (arguments : List ByteText) : Option Plan := do
  let options ← Options.read ⟨['1', '2', '3'], ['d'], [("output-delimiter", 'd')]⟩ arguments
  let mark := (options.value? 'd').getD ['\t']
  if options.operands.length ≠ 2 then none
  else pure ⟨options.operands, fun sources =>
    let linesOf := fun (place : Nat) => ByteText.lines ((sources[place]?.map fun source => source.text).getD [])
    let lefts := linesOf 0
    let rights := linesOf 1
    let indent := fun (hidden : List Char) =>
      (hidden.filter fun letter => !options.has letter).flatMap fun _ => mark
    ⟨ByteText.ofLines ((merged (lefts.length + rights.length + 1) lefts rights).filterMap
      fun (line, first, second) =>
        if first && second then if options.has '3' then none else some (indent ['1', '2'] ++ line)
        else if second then if options.has '2' then none else some (indent ['1'] ++ line)
        else if options.has '1' then none else some line), 0, []⟩⟩

structure JoinRow where
  key : ByteText
  fields : List ByteText
  deriving Repr, DecidableEq

def joinRow (separator : Option Char) (place : Nat) (line : ByteText) : JoinRow :=
  let fields := match separator with
    | some c => Text.pieces (· == c) line
    | none => (Text.pieces isBlank line).filter fun piece => !piece.isEmpty
  ⟨fields[place - 1]?.getD [], fields⟩

def joined (shown : Option JoinRow → Option JoinRow → ByteText) (alone : Bool × Bool) (paired : Bool) :
    Nat → List JoinRow → List JoinRow → List ByteText
  | 0, _, _ => []
  | _, [], rights => if alone.2 then rights.map fun row => shown none (some row) else []
  | _, lefts, [] => if alone.1 then lefts.map fun row => shown (some row) none else []
  | room + 1, left :: lefts, right :: rights =>
    match compareBytes left.key right.key with
    | .lt =>
      (if alone.1 then [shown (some left) none] else []) ++ joined shown alone paired room lefts (right :: rights)
    | .gt =>
      (if alone.2 then [shown none (some right)] else []) ++ joined shown alone paired room (left :: lefts) rights
    | .eq =>
      let same := fun (row : JoinRow) => row.key == left.key
      let first := left :: lefts.takeWhile same
      let second := right :: rights.takeWhile same
      (if paired then first.flatMap fun one => second.map fun other => shown (some one) (some other) else []) ++
        joined shown alone paired room (lefts.dropWhile same) (rights.dropWhile same)

def join (arguments : List ByteText) : Option Plan := do
  let options ← Options.read ⟨['i'], ['1', '2', 'j', 't', 'a', 'v', 'e', 'o'], []⟩ arguments
  let place := fun (letter : Char) =>
    (((options.value? letter).or (options.value? 'j')).map number?).getD (some 1)
  let first ← place '1'
  let second ← place '2'
  let separator := (options.value? 't').bind List.head?
  let mark := separator.getD ' '
  let filler := (options.value? 'e').getD []
  let asked := options.valuesOf 'a' ++ options.valuesOf 'v'
  let otherFields := fun (place : Nat) (row : JoinRow) => row.fields.eraseIdx (place - 1)
  let listed := (Text.pieces (fun c => c == ',' || c == ' ') ((options.value? 'o').getD [])).filter
    fun piece => !piece.isEmpty
  let shown := fun (left right : Option JoinRow) =>
    let key := ((left.or right).map JoinRow.key).getD []
    let fields := if listed.isEmpty then
        key :: ((left.map (otherFields first)).getD [] ++ (right.map (otherFields second)).getD [])
      else listed.map fun item =>
        let held := match item with
          | '1' :: '.' :: digits => left.bind fun row => row.fields[(number? digits).getD 1 - 1]?
          | '2' :: '.' :: digits => right.bind fun row => row.fields[(number? digits).getD 1 - 1]?
          | _ => some key
        held.getD filler
    [mark].intercalate fields
  if options.operands.length ≠ 2 then none
  else pure ⟨options.operands, fun sources =>
    let rows := fun (index place : Nat) =>
      (ByteText.lines ((sources[index]?.map fun source => source.text).getD [])).map (joinRow separator place)
    let lefts := rows 0 first
    let rights := rows 1 second
    ⟨ByteText.ofLines (joined shown (asked.contains ['1'], asked.contains ['2'])
      (options.valuesOf 'v').isEmpty (lefts.length + rights.length + 1) lefts rights), 0, []⟩⟩

end CompletionRules.Shell.Order
