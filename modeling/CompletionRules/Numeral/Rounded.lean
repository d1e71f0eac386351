import CompletionRules.Numeral.Places

-- Calculating with numbers of 64 bits. Each result is rounded once, from the exact one.

namespace CompletionRules.Binary64

structure Exact where
  numerator : Int
  denominator : Nat
  deriving Repr, DecidableEq

def exact (negative : Bool) (significand : Nat) (exponent : Int) : Exact :=
  let held := Quotient.ofBinary64 significand exponent
  ⟨if negative then -(held.numerator : Int) else held.numerator, held.denominator⟩

def ofExact (value : Exact) : Binary64 :=
  if value.numerator = 0 then .finite false 0 (-1074)
  else ofQuotient (value.numerator < 0) value.numerator.natAbs value.denominator

def ofInt (value : Int) : Binary64 := ofExact ⟨value, 1⟩

def negate : Binary64 → Binary64
  | .finite negative significand exponent => .finite (!negative) significand exponent
  | .infinite negative => .infinite (!negative)
  | .notANumber => .notANumber

def isNegative : Binary64 → Bool
  | .finite negative .. | .infinite negative => negative
  | .notANumber => false

def isZero : Binary64 → Bool
  | .finite _ 0 _ => true
  | _ => false

def add : Binary64 → Binary64 → Binary64
  | .finite n s e, .finite n' s' e' =>
    let left := exact n s e
    let right := exact n' s' e'
    ofExact ⟨left.numerator * right.denominator + right.numerator * left.denominator,
      left.denominator * right.denominator⟩
  | .infinite left, .infinite right => if left = right then .infinite left else .notANumber
  | .infinite negative, .finite .. | .finite .., .infinite negative => .infinite negative
  | _, _ => .notANumber

def subtract (left right : Binary64) : Binary64 := add left (negate right)

def multiply : Binary64 → Binary64 → Binary64
  | .finite n s e, .finite n' s' e' =>
    let left := exact n s e
    let right := exact n' s' e'
    ofQuotient (n != n') (left.numerator.natAbs * right.numerator.natAbs) (left.denominator * right.denominator)
  | left, right =>
    if left = .notANumber || right = .notANumber || left.isZero || right.isZero then .notANumber
    else .infinite (left.isNegative != right.isNegative)

def divide : Binary64 → Binary64 → Binary64
  | .finite n s e, .finite n' s' e' =>
    let left := exact n s e
    let right := exact n' s' e'
    if s' = 0 then if s = 0 then .notANumber else .infinite (n != n')
    else ofQuotient (n != n') (left.numerator.natAbs * right.denominator)
      (left.denominator * right.numerator.natAbs)
  | .infinite negative, .finite negative' .. => .infinite (negative != negative')
  | .finite negative .., .infinite negative' => .finite (negative != negative') 0 (-1074)
  | _, _ => .notANumber

def remainder : Binary64 → Binary64 → Binary64
  | .finite n s e, .finite _ s' e' =>
    let left := exact n s e
    let right := exact false s' e'
    if s' = 0 then .notANumber
    else
      let rest := (left.numerator.natAbs * right.denominator) % (right.numerator.natAbs * left.denominator)
      ofQuotient n rest (left.denominator * right.denominator)
  | .finite n s e, .infinite _ => .finite n s e
  | _, _ => .notANumber

def truncated : Binary64 → Binary64
  | .finite n s e =>
    let held := exact n s e
    ofExact ⟨held.numerator.tdiv held.denominator, 1⟩
  | other => other

def whole? : Binary64 → Option Int
  | .finite n s e =>
    let held := exact n s e
    if held.numerator % held.denominator = 0 then some (held.numerator / held.denominator) else none
  | _ => none

-- A count beyond this is taken for this: only numbers next to one are still in range then.
def powerLimit : Nat := 65536

def naturalPower (base : Binary64) (count : Nat) : Binary64 :=
  match base with
  | .finite n s e =>
    let held := exact n s e
    let times := if count ≤ powerLimit then count else powerLimit + count % 2
    ofQuotient (n && times % 2 == 1) (Nat.pow held.numerator.natAbs times) (Nat.pow held.denominator times)
  | .infinite negative => if count = 0 then ofInt 1 else .infinite (negative && count % 2 == 1)
  | .notANumber => if count = 0 then ofInt 1 else .notANumber

def power (base times : Binary64) : Binary64 :=
  match times.whole? with
  | some (.ofNat count) => naturalPower base count
  | some (.negSucc less) => divide (ofInt 1) (naturalPower base (less + 1))
  | none => .notANumber

def isBelow : Binary64 → Binary64 → Bool
  | .finite n s e, .finite n' s' e' =>
    let left := exact n s e
    let right := exact n' s' e'
    left.numerator * right.denominator < right.numerator * left.denominator
  | .infinite true, .finite .. | .finite .., .infinite false | .infinite true, .infinite false => true
  | _, _ => false

end CompletionRules.Binary64
