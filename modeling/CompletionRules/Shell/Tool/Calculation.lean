import CompletionRules.Shell.Format
import CompletionRules.Shell.Search.Reading
import CompletionRules.Shell.Tool.Order

namespace CompletionRules.Shell.Calculation

def said (text : ByteText) : Answer := ⟨text, 0, []⟩

def refused (status : Nat) : Answer := ⟨[], status, []⟩

structure Figure where
  value : Int
  places : Nat
  width : Nat
  deriving Repr, DecidableEq

def hexValue? (digits : ByteText) : Option Int := (Arithmetic.digitsValue? 16 digits).map fun value => value

def figure? (text : ByteText) : Option Figure :=
  let (isNegative, unsigned) := Decimal.takeSign text
  let text := if text.head? = some '+' then unsigned else text
  let sign : Int := if isNegative then -1 else 1
  match unsigned with
  | '0' :: 'x' :: digits => (hexValue? digits).map fun value => ⟨sign * value, 0, 0⟩
  | _ =>
    let whole := unsigned.takeWhile Char.isDigit
    let rest := unsigned.drop whole.length
    let isPointed := rest.head? = some '.'
    let fraction := if isPointed then (rest.drop 1).takeWhile Char.isDigit else []
    let after := if isPointed then rest.drop (fraction.length + 1) else rest
    let width := text.length - after.length
    let width := if !isPointed then width
      else if fraction.isEmpty then width - 1
      else if whole.isEmpty then width + 1
      else width
    if whole.isEmpty && fraction.isEmpty then none
    else
      let value := sign * ((number? (whole ++ fraction)).getD 0 : Nat)
      match after with
      | [] => some ⟨value, fraction.length, width⟩
      | letter :: exponent =>
        if letter ≠ 'e' && letter ≠ 'E' then none
        else match signedNumber? exponent with
          | some (.ofNat power) =>
            let point := if power ≥ fraction.length && !fraction.isEmpty then 1 else 0
            some ⟨value * tenTo (power - fraction.length), fraction.length - power,
              width - point + (power - fraction.length)⟩
          | some (.negSucc power) =>
            let point := if !isPointed || fraction.isEmpty then 1 else 0
            some ⟨value, fraction.length + power + 1, width + point + power + 1⟩
          | none => none

def Figure.atPlaces (figure : Figure) (places : Nat) : Int := figure.value * tenTo (places - figure.places)

def figureText (places : Nat) (value : Int) : ByteText :=
  (if value < 0 then ['-'] else []) ++ Places.pointed places false value.natAbs

def zeroFilled (width : Nat) (text : ByteText) : ByteText :=
  let zeros := List.replicate (width - text.length) '0'
  match text with
  | '-' :: digits => '-' :: zeros ++ digits
  | digits => zeros ++ digits

def Figure.roomAt (figure : Figure) (places : Nat) : Nat :=
  if figure.places = 0 then figure.width + (if places > 0 then places + 1 else 0)
  else if places = 0 then figure.width - figure.places - 1
  else figure.width - figure.places + places

def plentyOfNumbers : Nat := 100000

def formatted? (format : ByteText) : Option (Int → Nat → ByteText) :=
  let start := format.takeWhile (· ≠ '%')
  match format.drop start.length with
  | [] => none
  | _ :: '%' :: _ => none
  | _ :: rest => do
    let (directive, after, _) ← Format.directive? rest []
    if !("eEfFgG".toList.contains directive.conversion) then none
    else if (after.filter (· == '%')).length % 2 = 1 then none
    else
      let ending := after.filter (· ≠ '%')
      some fun value places =>
        let digits := Format.realDigits directive ⟨value.natAbs, tenTo places⟩
        start ++ Format.paddedNumber { directive with precision := none } (Format.signOf directive value) digits ++
          ending

-- Options end at the first word that is a number, even if it is below zero.
def seq (arguments : List ByteText) : Answer :=
  let isFigure := fun (word : ByteText) => (figure? word).isSome && word.head? = some '-'
  let parsed := do
    let options ← Options.readLeading ⟨['w'], ['f', 's'],
      [("equal-width", 'w'), ("format", 'f'), ("separator", 's')]⟩
      (arguments.takeWhile (fun word => !isFigure word))
    let operands := options.operands ++ arguments.dropWhile fun word => !isFigure word
    let figures ← operands.mapM figure?
    let one : Figure := ⟨1, 0, 1⟩
    let (first, step, last) ← match figures with
      | [last] => some (one, one, last)
      | [first, last] => some (first, one, last)
      | [first, step, last] => if step.value = 0 then none else some (first, step, last)
      | _ => none
    let shown ← match options.value? 'f' with
      | some format => if options.has 'w' then none else (formatted? format).map some
      | none => some none
    pure (options, first, step, last, shown)
  match parsed with
  | none => refused 1
  | some (options, first, step, last, shown) =>
    let places := max first.places step.places
    let fine := max places last.places
    let count := (((last.atPlaces fine - first.atPlaces fine).fdiv (step.atPlaces fine)) + 1).toNat
    let width := if options.has 'w' then max (first.roomAt places) (last.roomAt places) else 0
    let values := (List.range (min count plentyOfNumbers)).map fun (index : Nat) =>
      first.atPlaces places + step.atPlaces places * (index : Int)
    let texts := values.map fun value =>
      match shown with
      | some shown => shown value places
      | none => zeroFilled width (figureText places value)
    if texts.isEmpty then said []
    else said (((options.value? 's').getD ['\n']).intercalate texts ++ ['\n'])

def factorsFrom : Nat → Nat → Nat → List Nat
  | 0, _, value => [value]
  | room + 1, candidate, value =>
    if value < 2 then []
    else if candidate * candidate > value then [value]
    else if value % candidate = 0 then candidate :: factorsFrom room candidate (value / candidate)
    else factorsFrom room (candidate + 1) value

def factor (arguments : List ByteText) : Answer :=
  match arguments.mapM number? with
  | none => refused 1
  | some values =>
    said (ByteText.ofLines (values.map fun value =>
      ByteText.ofNat value ++ [':'] ++
        ((factorsFrom (2 * value.sqrt + 128) 2 value).flatMap fun factor => ' ' :: ByteText.ofNat factor)))

def isWhole (text : ByteText) : Bool :=
  let digits := if text.head? = some '-' then text.drop 1 else text
  !digits.isEmpty && digits.all Char.isDigit

def wholeValue? (text : ByteText) : Option Int := if isWhole text then signedNumber? text else none

def isNull (text : ByteText) : Bool :=
  text.isEmpty || (isWhole text && wholeValue? text = some 0)

def truth (holds : Bool) : ByteText := if holds then ['1'] else ['0']

def compareValues (left right : ByteText) : Ordering :=
  match wholeValue? left, wholeValue? right with
  | some first, some second => compare first second
  | _, _ => Order.compareBytes left right

def compared? (operator : ByteText) (left right : ByteText) : Option ByteText :=
  let held := compareValues left right
  match ByteText.name operator with
  | "<" => some (truth (held == .lt))
  | "<=" => some (truth (held != .gt))
  | "=" | "==" => some (truth (held == .eq))
  | "!=" => some (truth (held != .eq))
  | ">=" => some (truth (held != .lt))
  | ">" => some (truth (held == .gt))
  | _ => none

def matched? (text pattern : ByteText) : Option ByteText := do
  let (search, groups) ← Search.read? ⟨false, false, true⟩ pattern
  let start := Place.start text
  match Search.longest? (search.ends ⟨false, false⟩ start) with
  | some last =>
    pure (if groups > 0 then (last.group? 1).getD [] else ByteText.ofNat (start.between last).length)
  | none => pure (if groups > 0 then [] else ['0'])

def combined? (operator : ByteText) (left right : ByteText) : Option ByteText := do
  match operator with
  | [':'] => matched? left right
  | ['|'] => pure (if !isNull left then left else if !isNull right then right else ['0'])
  | ['&'] => pure (if isNull left || isNull right then ['0'] else left)
  | _ =>
    match compared? operator left right with
    | some held => pure held
    | none => do
      let first ← wholeValue? left
      let second ← wholeValue? right
      match operator with
      | ['+'] => pure (ByteText.ofInt (first + second))
      | ['-'] => pure (ByteText.ofInt (first - second))
      | ['*'] => pure (ByteText.ofInt (first * second))
      | ['/'] => if second = 0 then none else pure (ByteText.ofInt (first.tdiv second))
      | ['%'] => if second = 0 then none else pure (ByteText.ofInt (first.tmod second))
      | _ => none

def tiers : List (List String) :=
  [["|"], ["&"], ["<", "<=", "=", "==", "!=", ">=", ">"], ["+", "-"], ["*", "/", "%"], [":"]]

def substring (text : ByteText) (start length : Int) : ByteText :=
  if start < 1 || length < 1 then [] else (text.drop (start.toNat - 1)).take length.toNat

mutual

def tier : Nat → List (List String) → List ByteText → Option (ByteText × List ByteText)
  | 0, _, _ => none
  | depth + 1, [], words => operand depth words
  | depth + 1, operators :: tighter, words => do
    let (left, rest) ← tier depth tighter words
    more depth operators tighter left rest

def more : Nat → List String → List (List String) → ByteText → List ByteText →
    Option (ByteText × List ByteText)
  | 0, _, _, _, _ => none
  | depth + 1, operators, tighter, left, words =>
    match words with
    | operator :: rest =>
      if operators.contains (ByteText.name operator) then do
        let (right, after) ← tier depth tighter rest
        more depth operators tighter (← combined? operator left right) after
      else some (left, words)
    | [] => some (left, [])

def operand : Nat → List ByteText → Option (ByteText × List ByteText)
  | 0, _ => none
  | depth + 1, words =>
    match words with
    | [] => none
    | word :: rest =>
      match ByteText.name word, rest with
      | "(", _ => do
        let (held, after) ← tier depth tiers rest
        match after with
        | [')'] :: left => pure (held, left)
        | _ => none
      | ")", _ => none
      | "+", text :: after => some (text, after)
      | "length", _ :: _ => do
        let (text, after) ← operand depth rest
        pure (ByteText.ofNat text.length, after)
      | "match", _ :: _ => do
        let (text, between) ← operand depth rest
        let (pattern, after) ← operand depth between
        pure (← matched? text pattern, after)
      | "index", _ :: _ => do
        let (text, between) ← operand depth rest
        let (set, after) ← operand depth between
        pure (ByteText.ofNat ((text.findIdx? set.contains).map (· + 1) |>.getD 0), after)
      | "substr", _ :: _ => do
        let (text, between) ← operand depth rest
        let (start, later) ← operand depth between
        let (length, after) ← operand depth later
        pure (match wholeValue? start, wholeValue? length with
          | some start, some length => substring text start length
          | _, _ => [], after)
      | _, _ => some (word, rest)

end

def expr (arguments : List ByteText) : Answer :=
  let words := if arguments.head? = some ['-', '-'] then arguments.drop 1 else arguments
  match tier (16 * words.length + 32) tiers words with
  | some (value, []) => ⟨value ++ ['\n'], if isNull value then 1 else 0, []⟩
  | _ => refused 2

def lastName (path : ByteText) : ByteText :=
  match (path.reverse.dropWhile (· == '/')).takeWhile (· ≠ '/') with
  | [] => if path.isEmpty then [] else ['/']
  | name => name.reverse

def upperPath (path : ByteText) : ByteText :=
  match ((path.reverse.dropWhile (· == '/')).dropWhile (· ≠ '/')).dropWhile (· == '/') with
  | [] => if path.head? = some '/' then ['/'] else ['.']
  | upper => upper.reverse

def dropSuffix (suffix name : ByteText) : ByteText :=
  if suffix.isSuffixOf name && suffix ≠ name then name.take (name.length - suffix.length) else name

def basename (arguments : List ByteText) : Answer :=
  match Options.readLeading ⟨['a', 'z'], ['s'], [("multiple", 'a'), ("suffix", 's'), ("zero", 'z')]⟩ arguments with
  | none => refused 1
  | some options =>
    let several := options.has 'a' || (options.value? 's').isSome
    let ending := if options.has 'z' then ['\x00'] else ['\n']
    match several, options.operands with
    | _, [] => refused 1
    | true, paths =>
      said (paths.flatMap fun path => dropSuffix ((options.value? 's').getD []) (lastName path) ++ ending)
    | false, [path] => said (lastName path ++ ending)
    | false, [path, suffix] => said (dropSuffix suffix (lastName path) ++ ending)
    | false, _ => refused 1

def dirname (arguments : List ByteText) : Answer :=
  match Options.readLeading ⟨['z'], [], [("zero", 'z')]⟩ arguments with
  | none => refused 1
  | some options =>
    if options.operands.isEmpty then refused 1
    else said (options.operands.flatMap fun path => upperPath path ++ if options.has 'z' then ['\x00'] else ['\n'])

def echo (arguments : List ByteText) : Answer :=
  let isOption := fun (word : ByteText) =>
    match word with
    | '-' :: c :: letters => (c :: letters).all fun letter => ['n', 'e', 'E'].contains letter
    | _ => false
  let letters := (arguments.takeWhile isOption).flatMap (List.drop 1)
  let text := [' '].intercalate (arguments.dropWhile isOption)
  let isNamed := (letters.reverse.find? fun c => c ≠ 'n') = some 'e'
  let (shown, ended) := if isNamed then Format.unescape text else (text, false)
  said (if ended || letters.contains 'n' then shown else shown ++ ['\n'])

end CompletionRules.Shell.Calculation
