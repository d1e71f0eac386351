import CompletionRules.Toml.Quoted

-- Numbers: whole ones with a base perhaps, and reals. Their parts are looked at first, and the
-- underscores between their digits last.

namespace CompletionRules.Toml.Number

open Quoted (refuse offset refuseAt)

def isBit (c : Char) : Bool := c == '0' || c == '1'

def isOctal (c : Char) : Bool := '0' ≤ c && c ≤ '7'

structure Base where
  radix : Nat
  kind : String
  isDigit : Char → Bool

def hexadecimal : Base := ⟨16, "hexadecimal", Quoted.isHex⟩

def octal : Base := ⟨8, "octal", isOctal⟩

def binary : Base := ⟨2, "binary", isBit⟩

def decimal : Base := ⟨10, "integer", Char.isDigit⟩

def pieces : List Char → List (List Char × List Char)
  | [] => [([], [])]
  | '_' :: rest => ([], '_' :: rest) :: pieces rest
  | c :: rest =>
    match pieces rest with
    | (piece, after) :: others => (c :: piece, after) :: others
    | [] => [([c], [])]

-- Each underscore has a digit on both sides; a letter counts as a digit of whole numbers. A piece of
-- one character is not looked at from behind.
def checkPieces (written : Written) (isDigit : Char → Bool) :
    List (List Char × List Char) → Except Fault Unit
  | [] => .ok ()
  | (piece, after) :: others =>
    let start := offset written (piece ++ after)
    let stop := offset written after
    if 0 < start && !(piece.head?.any isDigit) then refuse written (start - 1) start .looseUnderscore
    else if 1 < piece.length && !after.isEmpty && !(piece.getLast?.any isDigit) then
      refuse written stop (stop + 1) .looseUnderscore
    else checkPieces written isDigit others

def checkUnderscores (written : Written) (isDigit : Char → Bool) (stream : List Char) :
    Except Fault Unit :=
  if !stream.contains '_' then .ok ()
  else if stream.head? = some '_' then refuseAt written stream (stream.drop 1) .looseUnderscore
  else if stream.getLast? = some '_' then
    let stop := Text.bytesIn written.text
    refuse written (stop - 1) stop .looseUnderscore
  else checkPieces written isDigit (pieces stream)

def withSign (text : List Char) : Bool × List Char :=
  match text with
  | '-' :: rest => (true, rest)
  | '+' :: rest => (false, rest)
  | rest => (false, rest)

def read (base : Base) (text : List Char) : Value :=
  let (negative, digits) := withSign (text.filter (· ≠ '_'))
  if digits.isEmpty || !digits.all base.isDigit then .unreadable
  else
    let size := digits.foldl (fun value c => value * base.radix + (Quoted.hexValue? c).getD 0) 0
    .integer (if negative then -(size : Int) else size)

def whole (written : Written) (base : Base) (stream : List Char) : Except Fault Value := do
  checkUnderscores written Quoted.isHex stream
  pure (read base stream)

def checkBased (written : Written) (base : Base) (stream : List Char) : Except Fault Unit :=
  let isSign := fun (c : Char) => c == '+' || c == '-'
  if stream.head?.any isSign then
    let rest := written.text.dropWhile fun c => !isSign c
    refuseAt written rest (rest.drop 1) .signAfterBase
  else
    match stream.dropWhile fun c => base.isDigit c || c == '_' with
    | [] => .ok ()
    | rest => refuseAt written rest rest (.badDigit base.kind)

def based (written : Written) (signed : Bool) (value : List Char) (base : Base) (mark : Char) :
    Except Fault Value :=
  let stream := value.drop 2
  if signed then refuse written 0 1 .baseWithSign
  else if value[1]? = some mark.toUpper then
    refuseAt written value stream (.upperBase (.ofList ['0', mark]))
  else do
    checkBased written base stream
    whole written base stream

-- Digits and underscores from the start of a text; there has to be a digit. A zero in front of other
-- digits is refused where it says something.
def digitsPart (written : Written) (padded : Bool) (part : String) (text : List Char) :
    Except Fault (List Char) :=
  let taken := text.takeWhile fun c => c.isDigit || c == '_'
  let count := (taken.filter Char.isDigit).length
  if count = 0 then refuseAt written text text (.badPart part)
  else if 1 < count && text.head? = some '0' && !padded then
    refuseAt written text (text.drop 1) .leadingZero
  else .ok (text.drop taken.length)

def fractionPart (written : Written) : List Char → Except Fault (List Char)
  | '.' :: rest => digitsPart written true "fraction" rest
  | text => .ok text

def exponentPart (written : Written) (text : List Char) : Except Fault (List Char) :=
  match text with
  | c :: rest =>
    if c == 'e' || c == 'E' then digitsPart written true "exponent" (withSign rest).2 else .ok text
  | [] => .ok []

def checkReal (written : Written) (value : List Char) : Except Fault Unit := do
  let afterWhole ← digitsPart written false "mantissa" value
  let afterFraction ← fractionPart written afterWhole
  match ← exponentPart written afterFraction with
  | [] => pure ()
  | rest => refuseAt written rest [] .realWithRest

def realValue (text : List Char) : Value :=
  let (negative, unsigned) := withSign (text.filter (· ≠ '_'))
  let isMark := fun (c : Char) => c == 'e' || c == 'E'
  let mantissa := unsigned.takeWhile fun c => !isMark c
  let fraction := (mantissa.dropWhile (· ≠ '.')).drop 1
  let (below, power) := withSign ((unsigned.dropWhile fun c => !isMark c).drop 1)
  let size : Int := Decimal.digitsValue power
  let exponent := if below then -size else size
  let number := Binary64.ofDecimal
    ⟨negative, Decimal.digitsValue (mantissa.takeWhile (· ≠ '.') ++ fraction),
      exponent - fraction.length⟩
  if number.isFinite then .real number else .tooLarge

def real (written : Written) (value : List Char) : Except Fault Value := do
  checkReal written value
  checkUnderscores written Char.isDigit written.text
  pure (realValue written.text)

def checkNoLeadingZero (written : Written) (value : List Char) : Except Fault Unit :=
  if value.head? = some '0' then refuseAt written value (value.drop 1) .leadingZero else .ok ()

def looksReal (rest : List Char) : Bool := rest.any fun c => c == '.' || c == 'e' || c == 'E'

end CompletionRules.Toml.Number
