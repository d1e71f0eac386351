import CompletionRules.Numeral.Binary64

-- The fewest digits that lie within the numbers rounding to the same 64 bits, and of these the nearest.

namespace CompletionRules.Binary64

-- The bounds of what rounds to `significand * 2 ^ exponent`, counted in quarters of its last bit. Below a
-- power of two the numbers lie twice as dense.
structure Interval where
  low : Nat
  value : Nat
  high : Nat
  closed : Bool
  deriving Repr, DecidableEq

def interval (significand : Nat) (exponent : Int) : Interval where
  low := 4 * significand - (if significand = twoTo 52 && exponent > -1074 then 1 else 2)
  value := 4 * significand
  high := 4 * significand + 2
  closed := significand % 2 == 0

structure Digits where
  digits : Nat
  power : Int
  deriving Repr, DecidableEq

def sides (left : Nat) (two : Int) (right : Nat) (ten : Int) : Nat × Nat :=
  (left * twoTo two.toNat * tenTo (-ten).toNat, right * tenTo ten.toNat * twoTo (-two).toNat)

def within (bounds : Interval) (two : Int) (candidate : Nat) (ten : Int) : Bool :=
  let (low, middle) := sides bounds.low two candidate ten
  let (high, middle') := sides bounds.high two candidate ten
  if bounds.closed then low ≤ middle && middle' ≤ high else low < middle && middle' < high

def onGrid? (bounds : Interval) (two ten : Int) : Option Digits :=
  let (value, unit) := sides bounds.value two 1 ten
  let below := value / unit
  let belowIn := 0 < below && within bounds two below ten
  let aboveIn := within bounds two (below + 1) ten
  let toBelow := value - below * unit
  let toAbove := (below + 1) * unit - value
  let above : Digits := ⟨below + 1, ten⟩
  if belowIn && aboveIn then
    if toBelow < toAbove || (toBelow == toAbove && below % 2 == 0) then some ⟨below, ten⟩ else some above
  else if belowIn then some ⟨below, ten⟩
  else if aboveIn then some above
  else none

def firstOnGrid (bounds : Interval) (two : Int) : Nat → Int → Digits
  | 0, ten => ⟨(sides bounds.value two 1 ten).1 / (sides bounds.value two 1 ten).2, ten⟩
  | room + 1, ten => (onGrid? bounds two ten).getD (firstOnGrid bounds two room (ten - 1))

def withoutZeros : Nat → Digits → Digits
  | 0, found => found
  | room + 1, found =>
    if found.digits ≠ 0 && found.digits % 10 = 0 then
      withoutZeros room ⟨found.digits / 10, found.power + 1⟩
    else found

def startPower (significand : Nat) (exponent : Int) : Int :=
  ((significand.log2 : Int) + exponent + 1) * 30103 / 100000 + 1

def shortest (significand : Nat) (exponent : Int) : Digits :=
  withoutZeros 400
    (firstOnGrid (interval significand exponent) (exponent - 2) 22 (startPower significand exponent))

-- Plain notation while the point is at most 16 places right of the first digit and at most 5 left
-- of it, else one digit before the point and an exponent. Plain notation always shows a point.
def finiteText (significand : Nat) (exponent : Int) : String :=
  if significand = 0 then "0.0"
  else
    let found := shortest significand exponent
    let digits := toString found.digits
    let count : Int := digits.length
    let point := count + found.power
    let zeros (places : Int) : String := .ofList (List.replicate places.toNat '0')
    if 0 ≤ found.power && point ≤ 16 then digits ++ zeros found.power ++ ".0"
    else if 0 < point && point ≤ 16 then
      .ofList (digits.toList.take point.toNat) ++ "." ++ .ofList (digits.toList.drop point.toNat)
    else if -5 < point && point ≤ 0 then "0." ++ zeros (-point) ++ digits
    else
      .ofList (digits.toList.take 1) ++
        (if digits.length = 1 then "" else "." ++ .ofList (digits.toList.drop 1)) ++
        "e" ++ toString (point - 1)

def plainText : Binary64 → String
  | .finite negative significand exponent =>
    let found := shortest significand exponent
    let digits := toString found.digits
    let places := (-found.power).toNat
    let padded := String.ofList (List.replicate (places + 1 - digits.length) '0') ++ digits
    (if negative then "-" else "") ++
      (if significand = 0 then "0.0"
      else if 0 ≤ found.power then
        digits ++ .ofList (List.replicate found.power.toNat '0') ++ ".0"
      else
        .ofList (padded.toList.take (padded.length - places)) ++ "." ++
          .ofList (padded.toList.drop (padded.length - places)))
  | .infinite false => "inf"
  | .infinite true => "-inf"
  | .notANumber => "NaN"

def text : Binary64 → String
  | .finite negative significand exponent =>
    (if negative then "-" else "") ++ finiteText significand exponent
  | .infinite false => ".inf"
  | .infinite true => "-.inf"
  | .notANumber => ".nan"

end CompletionRules.Binary64
