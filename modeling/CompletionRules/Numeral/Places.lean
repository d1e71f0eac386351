import CompletionRules.Numeral.Binary64

-- Writing an exact quotient with a fixed count of places; an exact half goes to the even neighbour.

namespace CompletionRules

structure Quotient where
  numerator : Nat
  denominator : Nat
  deriving Repr, DecidableEq

namespace Quotient

def ofBinary64 (significand : Nat) (exponent : Int) : Quotient :=
  if exponent ≥ 0 then ⟨significand * twoTo exponent.toNat, 1⟩ else ⟨significand, twoTo (-exponent).toNat⟩

def rounded (quotient : Quotient) : Nat :=
  Binary64.roundedQuotient quotient.numerator quotient.denominator

def timesTenTo (quotient : Quotient) (exponent : Int) : Quotient :=
  if exponent ≥ 0 then ⟨quotient.numerator * tenTo exponent.toNat, quotient.denominator⟩
  else ⟨quotient.numerator, quotient.denominator * tenTo (-exponent).toNat⟩

def magnitude (quotient : Quotient) : Int :=
  let guess : Int :=
    (Binary64.digitCount quotient.numerator : Int) - Binary64.digitCount quotient.denominator
  let scaled := quotient.timesTenTo (-guess)
  if scaled.numerator < scaled.denominator then guess - 1 else guess

end Quotient

namespace Places

def pointed (places : Nat) (keepPoint : Bool) (value : Nat) : List Char :=
  let digits := Nat.toDigits 10 value
  let digits := List.replicate (places + 1 - digits.length) '0' ++ digits
  let whole := digits.take (digits.length - places)
  let fraction := digits.drop (digits.length - places)
  whole ++ (if fraction.isEmpty && !keepPoint then [] else ['.']) ++ fraction

def fixed (places : Nat) (keepPoint : Bool) (quotient : Quotient) : List Char :=
  pointed places keepPoint (quotient.timesTenTo places).rounded

def scaled (places : Nat) (quotient : Quotient) : Nat × Int :=
  if quotient.numerator = 0 then (0, 0)
  else
    let exponent := quotient.magnitude
    let value := (quotient.timesTenTo ((places : Int) - exponent)).rounded
    if value ≥ tenTo (places + 1) then (tenTo places, exponent + 1) else (value, exponent)

def exponentText (letter : Char) (exponent : Int) : List Char :=
  let digits := Nat.toDigits 10 exponent.natAbs
  [letter, if exponent < 0 then '-' else '+'] ++ List.replicate (2 - digits.length) '0' ++ digits

def scientific (places : Nat) (keepPoint : Bool) (letter : Char) (quotient : Quotient) : List Char :=
  let (value, exponent) := scaled places quotient
  pointed places keepPoint value ++ exponentText letter exponent

def trimmed (digits : List Char) : List Char :=
  if digits.contains '.' then
    let kept := digits.reverse.dropWhile (· == '0')
    (if kept.head? = some '.' then kept.drop 1 else kept).reverse
  else digits

def general (digits : Nat) (keepZeros : Bool) (letter : Char) (quotient : Quotient) : List Char :=
  let wanted := max digits 1
  let (value, exponent) := scaled (wanted - 1) quotient
  let settle := fun (text : List Char) => if keepZeros then text else trimmed text
  if exponent < -4 || exponent ≥ wanted then
    settle (pointed (wanted - 1) keepZeros value) ++ exponentText letter exponent
  else settle (fixed ((wanted : Int) - 1 - exponent).toNat keepZeros quotient)

end Places

end CompletionRules
