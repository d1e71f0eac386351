import CompletionRules.Numeral.Rounded
import CompletionRules.Shell.Arithmetic

-- Printing by a format. Backslashes name characters that are hard to write; directives take the
-- arguments in turn, and the format is gone through again while arguments are left.

namespace CompletionRules.Shell.Format

def isOctal (c : Char) : Bool := '0' ≤ c && c ≤ '7'

def octalValue (digits : ByteText) : Char :=
  .ofNat (digits.foldl (fun value c => value * 8 + (c.toNat - 48)) 0 % 256)

def namedEscape : Char → Option Char
  | '\\' => some '\\'
  | 'a' => some '\x07'
  | 'b' => some '\x08'
  | 'e' => some '\x1b'
  | 'f' => some '\x0c'
  | 'n' => some '\n'
  | 'r' => some '\r'
  | 't' => some '\t'
  | 'v' => some '\x0b'
  | _ => none

def octalDigits (most : Nat) (text : ByteText) : ByteText := (text.take most).takeWhile isOctal

def escapeAfter (text : ByteText) : Char × ByteText :=
  match text with
  | [] => ('\\', [])
  | c :: rest =>
    if isOctal c then
      let digits := octalDigits 3 text
      (octalValue digits, text.drop digits.length)
    else match namedEscape c with
      | some meant => (meant, rest)
      | none => ('\\', text)

def unescapeWithin : Nat → ByteText → ByteText × Bool
  | 0, _ => ([], false)
  | _, [] => ([], false)
  | room + 1, '\\' :: rest =>
    match rest with
    | 'c' :: _ => ([], true)
    | '0' :: digits =>
      let taken := octalDigits 3 digits
      let (others, ended) := unescapeWithin room (digits.drop taken.length)
      (octalValue taken :: others, ended)
    | _ =>
      let (meant, after) := escapeAfter rest
      let (others, ended) := unescapeWithin room after
      (meant :: others, ended)
  | room + 1, c :: rest =>
    let (others, ended) := unescapeWithin room rest
    (c :: others, ended)

def unescape (text : ByteText) : ByteText × Bool := unescapeWithin (text.length + 1) text

def echo (arguments : List ByteText) : ByteText :=
  let (shown, ending) := match arguments with
    | ['-', 'n'] :: rest => (rest, [])
    | _ => (arguments, ['\n'])
  let (text, ended) := unescape ([' '].intercalate shown)
  if ended then text else text ++ ending

structure Directive where
  left : Bool
  zeros : Bool
  plus : Bool
  blank : Bool
  alternate : Bool
  width : Nat
  precision : Option Nat
  conversion : Char
  deriving Repr, DecidableEq

-- The status is one for an argument that is no number and two for a directive that is none.
structure Progress where
  shown : ByteText
  arguments : List ByteText
  asked : Bool
  status : Nat
  ended : Bool
  deriving Repr, DecidableEq

def padded (directive : Directive) (text : ByteText) : ByteText :=
  let room := List.replicate (directive.width - text.length) ' '
  if directive.left then text ++ room else room ++ text

def paddedNumber (directive : Directive) (sign digits : ByteText) : ByteText :=
  let digits := List.replicate (directive.precision.getD 1 - digits.length) '0' ++ digits
  if directive.zeros && !directive.left && directive.precision.isNone then
    sign ++ List.replicate (directive.width - sign.length - digits.length) '0' ++ digits
  else padded directive (sign ++ digits)

def isSpace (c : Char) : Bool := c == ' ' || ('\t' ≤ c && c ≤ '\r')

def digitsStart (text : ByteText) : Nat × ByteText × ByteText :=
  let (base, isDigit, digits) : Nat × (Char → Bool) × ByteText := match text with
    | '0' :: x :: c :: rest =>
      if (x == 'x' || x == 'X') && Arithmetic.digitValue c < 16 then
        (16, fun c => Arithmetic.digitValue c < 16, c :: rest)
      else (8, isOctal, text)
    | '0' :: _ => (8, isOctal, text)
    | _ => (10, Char.isDigit, text)
  (base, digits.takeWhile isDigit, digits.dropWhile isDigit)

def integerStart (text : ByteText) : Int × ByteText :=
  let (negative, unsigned) := Decimal.takeSign (text.dropWhile isSpace)
  let (base, digits, rest) := digitsStart unsigned
  match Arithmetic.digitsValue? base digits with
  | none => (0, text)
  | some value => (if negative then -value else value, rest)

-- The whole number that an argument stands for, taken to the nearest one that can be held, and
-- whether the argument is just that. A quote before a character asks for the character's number.
def integerOf (argument : ByteText) : Int × Bool :=
  match argument with
  | '\'' :: rest | '"' :: rest => (((rest.head?.map Char.toNat).getD 0 : Nat), true)
  | _ =>
    let (value, rest) := integerStart argument
    (Arithmetic.clamp value, rest.isEmpty && Arithmetic.clamp value = value)

def naturalOf (argument : ByteText) : Nat × Bool :=
  match argument with
  | '\'' :: rest | '"' :: rest => ((rest.head?.map Char.toNat).getD 0, true)
  | _ =>
    let (value, rest) := integerStart argument
    if value.natAbs < twoTo 64 then ((value % twoTo 64).toNat, rest.isEmpty)
    else (twoTo 64 - 1, false)

def signOf (directive : Directive) (value : Int) : ByteText :=
  if value < 0 then ['-'] else if directive.plus then ['+'] else if directive.blank then [' '] else []

def decimal (value : Nat) : ByteText := (toString value).toList

def upper (text : ByteText) : ByteText := text.map Char.toUpper

def decimalStart (text : ByteText) : ByteText × ByteText :=
  let sign := text.takeWhile fun c => c == '-' || c == '+'
  let rest := text.drop (min sign.length 1)
  let whole := rest.takeWhile Char.isDigit
  let afterWhole := rest.drop whole.length
  let fraction := match afterWhole with
    | '.' :: more => '.' :: more.takeWhile Char.isDigit
    | _ => []
  let afterFraction := afterWhole.drop fraction.length
  let exponent := match afterFraction with
    | letter :: more =>
      let mark := more.takeWhile fun c => c == '-' || c == '+'
      let digits := (more.drop mark.length).takeWhile Char.isDigit
      if (letter == 'e' || letter == 'E') && mark.length ≤ 1 && !digits.isEmpty then letter :: mark ++ digits
      else []
    | [] => []
  if whole.isEmpty && fraction.length < 2 then ([], text)
  else (sign.take 1 ++ whole ++ fraction ++ exponent, afterFraction.drop exponent.length)

def hexadecimalStart (negative : Bool) (text : ByteText) : Binary64 × ByteText :=
  let isDigit := fun c => Arithmetic.digitValue c < 16
  let whole := text.takeWhile isDigit
  let afterWhole := text.drop whole.length
  let fraction := match afterWhole with
    | '.' :: more => more.takeWhile isDigit
    | _ => []
  let rest := if afterWhole.head? = some '.' then afterWhole.drop (fraction.length + 1) else afterWhole
  let (power, rest) : Int × ByteText := match rest with
    | letter :: more =>
      let (below, unsigned) := Decimal.takeSign more
      let digits := unsigned.takeWhile Char.isDigit
      if (letter == 'p' || letter == 'P') && !digits.isEmpty then
        let value : Int := min 5000 (Decimal.digitsValue digits)
        (if below then -value else value, unsigned.drop digits.length)
      else (0, rest)
    | [] => (0, rest)
  let value := (Arithmetic.digitsValue? 16 (whole ++ fraction)).getD 0
  let exponent := power - 4 * fraction.length
  (if exponent ≥ 0 then Binary64.ofQuotient negative (value * twoTo exponent.toNat) 1
    else Binary64.ofQuotient negative value (twoTo (-exponent).toNat), rest)

def isOutOfRange (digits : Nat) : Binary64 → Bool
  | .finite _ significand _ => significand < twoTo 52 && digits ≠ 0
  | .infinite _ => true
  | .notANumber => false

def realOf (argument : ByteText) : Binary64 × Bool :=
  let (negative, unsigned) := Decimal.takeSign (argument.dropWhile isSpace)
  let word := unsigned.map Char.toLower
  match argument with
  | [] => (.finite false 0 0, true)
  | '\'' :: rest | '"' :: rest => (Binary64.ofQuotient false ((rest.head?.map Char.toNat).getD 0) 1, true)
  | _ =>
    if "inf".toList.isPrefixOf word then
      (.infinite negative, word = "inf".toList || word = "infinity".toList)
    else if "nan".toList.isPrefixOf word then (.notANumber, word = "nan".toList)
    else if ['0', 'x'].isPrefixOf word then
      let (value, rest) := hexadecimalStart negative (word.drop 2)
      (value, rest.isEmpty && word.length > 2)
    else
      let (start, rest) := decimalStart (argument.dropWhile isSpace)
      match Decimal.ofText? start with
      | some held =>
        let value := Binary64.ofDecimal held
        (value, rest.isEmpty && !isOutOfRange held.digits value)
      | none => (.finite false 0 0, false)

-- Zeros after the last digit are dropped by the letters g, so that it is enough to ask for as many
-- digits as any number of 64 bits has.
def realDigits (directive : Directive) (value : Quotient) : ByteText :=
  let places := directive.precision.getD 6
  let digits := if directive.alternate then places else min places 1100
  match directive.conversion with
  | 'e' | 'E' => Places.scientific places directive.alternate directive.conversion value
  | 'g' => Places.general digits directive.alternate 'e' value
  | 'G' => Places.general digits directive.alternate 'E' value
  | _ => Places.fixed places directive.alternate value

def shownReal (directive : Directive) (value : Binary64) : ByteText :=
  let sign := signOf directive (if value.isNegative then -1 else 1)
  match value with
  | .finite _ significand exponent =>
    paddedNumber { directive with precision := none } sign
      (realDigits directive (.ofBinary64 significand exponent))
  | other =>
    let name := if other = .notANumber then ['n', 'a', 'n'] else ['i', 'n', 'f']
    padded directive (sign ++ if directive.conversion.isUpper then upper name else name)

def shownDigits (directive : Directive) (digits : ByteText) : ByteText :=
  if directive.precision = some 0 && digits = ['0'] then [] else digits

def octal (directive : Directive) (value : Nat) : ByteText :=
  let digits := shownDigits directive (Nat.toDigits 8 value)
  let filled := List.replicate (directive.precision.getD 1 - digits.length) '0' ++ digits
  if directive.alternate && filled.head? ≠ some '0' then '0' :: filled else filled

def hexadecimal (directive : Directive) (value : Nat) : ByteText :=
  let mark := if directive.alternate && value ≠ 0 then ['0', 'x'] else []
  paddedNumber directive mark (shownDigits directive (Nat.toDigits 16 value))

def converted (directive : Directive) (argument : ByteText) : ByteText × Bool × Bool :=
  match directive.conversion with
  | 's' => (padded directive (argument.take (directive.precision.getD argument.length)), true, false)
  | 'c' => (padded directive [argument.head?.getD '\x00'], true, false)
  | 'b' =>
    let (text, ended) := unescape argument
    (padded directive (text.take (directive.precision.getD text.length)), true, ended)
  | 'd' | 'i' =>
    let (number, valid) := integerOf argument
    (paddedNumber directive (signOf directive number) (shownDigits directive (decimal number.natAbs)), valid, false)
  | 'u' =>
    let (number, valid) := naturalOf argument
    (paddedNumber directive [] (shownDigits directive (decimal number)), valid, false)
  | 'o' =>
    let (number, valid) := naturalOf argument
    (paddedNumber directive [] (octal directive number), valid, false)
  | 'x' =>
    let (number, valid) := naturalOf argument
    (hexadecimal directive number, valid, false)
  | 'X' =>
    let (number, valid) := naturalOf argument
    (upper (hexadecimal directive number), valid, false)
  | 'e' | 'E' | 'f' | 'F' | 'g' | 'G' =>
    let (value, valid) := realOf argument
    (shownReal directive value, valid, false)
  | _ => ([], false, true)

def conversions : List Char := "scbdiuoxXeEfFgG".toList

def isFlag (c : Char) : Bool := ['#', '-', '+', ' ', '0'].contains c

def count (text : ByteText) (arguments : List ByteText) : Int × ByteText × List ByteText × Bool :=
  match text with
  | '*' :: rest =>
    let (value, valid) := integerOf (arguments.head?.getD [])
    (value.bmod (twoTo 32), rest, arguments.drop 1, valid)
  | _ =>
    let digits := text.takeWhile Char.isDigit
    (Decimal.digitsValue digits, text.drop digits.length, arguments, true)

def directive? (text : ByteText) (arguments : List ByteText) :
    Option (Directive × ByteText × List ByteText × Bool) :=
  let flags := text.takeWhile isFlag
  let (width, text, arguments, isWidth) := count (text.dropWhile isFlag) arguments
  let (precision, text, arguments, isPrecision) : Option Nat × ByteText × List ByteText × Bool := match text with
    | '.' :: rest =>
      let (held, rest, arguments, valid) := count rest arguments
      (if held < 0 then none else some held.toNat, rest, arguments, valid)
    | _ => (none, text, arguments, true)
  match text with
  | [] => none
  | conversion :: rest =>
    some (⟨flags.contains '-' || width < 0, flags.contains '0', flags.contains '+', flags.contains ' ',
      flags.contains '#', width.natAbs, precision, conversion⟩, rest, arguments, isWidth && isPrecision)

def isTooLong (directive : Directive) : Bool :=
  max directive.width (directive.precision.getD 0) ≥ twoTo 31

def pass : Nat → ByteText → Progress → Progress
  | 0, _, progress => progress
  | _, [], progress => progress
  | room + 1, '\\' :: rest, progress =>
    let (meant, after) := escapeAfter rest
    pass room after { progress with shown := progress.shown ++ [meant] }
  | room + 1, '%' :: '%' :: rest, progress =>
    pass room rest { progress with shown := progress.shown ++ ['%'] }
  | room + 1, '%' :: rest, progress =>
    match (directive? rest progress.arguments).filter fun held =>
        conversions.contains held.1.conversion && !isTooLong held.1 with
    | none => { progress with status := 2, ended := true }
    | some (directive, after, arguments, areCounts) =>
      let (text, valid, ended) := converted directive (arguments.head?.getD [])
      let next : Progress :=
        ⟨progress.shown ++ text, arguments.drop 1, true,
          if valid && areCounts then progress.status else 1, ended⟩
      if ended then next else pass room after next
  | room + 1, c :: rest, progress =>
    pass room rest { progress with shown := progress.shown ++ [c] }

def passes (format : ByteText) : Nat → Progress → Progress
  | 0, progress => progress
  | room + 1, progress =>
    let next := pass (format.length + 1) format { progress with asked := false }
    if next.ended || !next.asked || next.arguments.isEmpty then next else passes format room next

def print (format : ByteText) (arguments : List ByteText) : ByteText × Nat :=
  let progress := passes format (arguments.length + 1) ⟨[], arguments, false, 0, false⟩
  (progress.shown, progress.status)

end CompletionRules.Shell.Format
