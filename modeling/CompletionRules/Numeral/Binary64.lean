import CompletionRules.Numeral.Power

-- A significand below 2^53 times a power of two, rounded to the nearest from exact quotients.

namespace CompletionRules

-- A finite number is its sign and `significand * 2 ^ exponent`, the exponent as small as it can be
-- but not below -1074.
inductive Binary64 where
  | finite (negative : Bool) (significand : Nat) (exponent : Int)
  | infinite (negative : Bool)
  | notANumber
  deriving Repr, DecidableEq

structure Decimal where
  negative : Bool
  digits : Nat
  exponent : Int
  deriving Repr, DecidableEq

namespace Decimal

def digitsValue (digits : List Char) : Nat := digits.foldl (fun value c => value * 10 + (c.toNat - 48)) 0

def takeSign : List Char → Bool × List Char
  | '-' :: rest => (true, rest)
  | '+' :: rest => (false, rest)
  | text => (false, text)

def exponentOf? : List Char → Option Int
  | [] => some 0
  | c :: rest =>
    let (negative, digits) := takeSign rest
    if (c == 'e' || c == 'E') && !digits.isEmpty && digits.all Char.isDigit then
      some (if negative then -(digitsValue digits : Int) else digitsValue digits)
    else none

def ofText? (text : List Char) : Option Decimal :=
  let (negative, unsigned) := takeSign text
  let whole := unsigned.takeWhile Char.isDigit
  let afterWhole := unsigned.dropWhile Char.isDigit
  let (fraction, rest) := match afterWhole with
    | '.' :: more => (more.takeWhile Char.isDigit, more.dropWhile Char.isDigit)
    | other => ([], other)
  if whole.isEmpty && fraction.isEmpty then none
  else (exponentOf? rest).map fun exponent =>
    ⟨negative, digitsValue (whole ++ fraction), exponent - fraction.length⟩

end Decimal

namespace Binary64

def roundedQuotient (numerator denominator : Nat) : Nat :=
  let floor := numerator / denominator
  let twice := 2 * (numerator % denominator)
  if twice > denominator || (twice == denominator && floor % 2 == 1) then floor + 1 else floor

def scaled (numerator denominator : Nat) (exponent : Int) : Nat × Nat :=
  if exponent ≥ 0 then (numerator, denominator * twoTo exponent.toNat)
  else (numerator * twoTo (-exponent).toNat, denominator)

def roundAt (negative : Bool) (numerator denominator : Nat) (exponent : Int) : Binary64 :=
  let (num, den) := scaled numerator denominator exponent
  let significand := roundedQuotient num den
  let (significand, exponent) :=
    if significand = twoTo 53 then (twoTo 52, exponent + 1) else (significand, exponent)
  if exponent > 971 then .infinite negative else .finite negative significand exponent

def ofQuotient (negative : Bool) (numerator denominator : Nat) : Binary64 :=
  let wide : Int := max (-1074) ((numerator.log2 : Int) - denominator.log2 - 53)
  let (num, den) := scaled numerator denominator wide
  roundAt negative numerator denominator (if num / den ≥ twoTo 53 then wide + 1 else wide)

def digitCount (value : Nat) : Nat := (Nat.toDigits 10 value).length

-- Far beyond the range on either side no power is computed.
def ofDecimal (decimal : Decimal) : Binary64 :=
  let magnitude : Int := decimal.exponent + digitCount decimal.digits
  if decimal.digits = 0 || magnitude < -330 then .finite decimal.negative 0 (-1074)
  else if magnitude > 330 then .infinite decimal.negative
  else if decimal.exponent ≥ 0 then
    ofQuotient decimal.negative (decimal.digits * tenTo decimal.exponent.toNat) 1
  else ofQuotient decimal.negative decimal.digits (tenTo (-decimal.exponent).toNat)

def isFinite : Binary64 → Bool
  | .finite .. => true
  | _ => false

def same : Binary64 → Binary64 → Bool
  | .finite _ 0 _, .finite _ 0 _ => true
  | left, right => left == right

end Binary64

end CompletionRules
