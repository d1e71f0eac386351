import CompletionRules.Text.Utf8
import CompletionRules.Yaml.Value

-- What a scalar's text means. Plain text may be nothing, a truth value or a number; text in quotes
-- is always a string. A tag of the standard asks for one kind and refuses text of another.

namespace CompletionRules.Yaml.Scalar

def isNull (text : String) : Bool := ["null", "Null", "NULL", "~"].contains text

def boolean? (text : String) : Option Bool :=
  if ["true", "True", "TRUE"].contains text then some true
  else if ["false", "False", "FALSE"].contains text then some false
  else none

def digitValue? (base : Nat) (c : Char) : Option Nat :=
  let value :=
    if c.isDigit then c.toNat - 48
    else if 'a' ≤ c && c ≤ 'z' then c.toNat - 87
    else if 'A' ≤ c && c ≤ 'Z' then c.toNat - 55
    else base
  if value < base then some value else none

def digits? (base : Nat) (text : List Char) : Option Nat :=
  if text.isEmpty then none
  else (text.mapM (digitValue? base)).map fun values =>
    values.foldl (fun total value => total * base + value) 0

def isZeroPadded (text : List Char) : Bool :=
  let (_, unsigned) := Decimal.takeSign text
  match unsigned with
  | '0' :: d :: rest => (d :: rest).all Char.isDigit
  | _ => false

def magnitude? : List Char → Option Nat
  | '0' :: 'x' :: rest => digits? 16 rest
  | '0' :: 'o' :: rest => digits? 8 rest
  | '0' :: 'b' :: rest => digits? 2 rest
  | text => digits? 10 text

inductive Reading where
  | value (value : Value)
  | tooWide (value : Int)
  deriving Inhabited

-- Whole numbers of 64 bits are values; wider ones up to 128 bits are told apart, to be refused, and
-- any wider are no whole numbers.
def integer? (text : List Char) : Option Reading :=
  if isZeroPadded text then none
  else
    let (negative, unsigned) := Decimal.takeSign text
    (magnitude? unsigned).bind fun magnitude =>
      if negative then
        if magnitude ≤ twoTo 63 then some (.value (.number (.integer (-magnitude))))
        else if magnitude ≤ twoTo 127 then some (.tooWide (-magnitude))
        else none
      else
        if magnitude < twoTo 64 then some (.value (.number (.integer magnitude)))
        else if magnitude < twoTo 128 then some (.tooWide magnitude)
        else none

def real? (text : String) : Option Binary64 :=
  let chars := text.toList
  let unplused := if chars.head? = some '+' then chars.drop 1 else chars
  if chars.head? = some '+' && (unplused.head? = some '+' || unplused.head? = some '-') then none
  else if [".inf", ".Inf", ".INF"].contains (String.ofList unplused) then some (.infinite false)
  else if ["-.inf", "-.Inf", "-.INF"].contains text then some (.infinite true)
  else if [".nan", ".NaN", ".NAN"].contains text then some .notANumber
  else
    match (Decimal.ofText? unplused).map Binary64.ofDecimal with
    | some number => if number.isFinite then some number else none
    | none => none

def plain (text : String) : Reading :=
  if text.isEmpty || isNull text then .value .null
  else match boolean? text with
    | some value => .value (.boolean value)
    | none =>
      match integer? text.toList with
      | some reading => reading
      | none =>
        match if isZeroPadded text.toList then none else real? text with
        | some value => .value (.number (.real value))
        | none => .value (.string text)

def standardTag (name : String) : List UInt8 := Text.encode ("tag:yaml.org,2002:" ++ name)

def localTag? (tag : Option (List UInt8)) : Option String :=
  match tag with
  | some [0x21] => some "!"
  | some (0x21 :: rest) => Text.decode? rest
  | _ => none

inductive Refusal where
  | tooWide (value : Int)
  | notA (text : String) (wanted : String)
  deriving Repr, DecidableEq

def accepted : Reading → Except Refusal Value
  | .value value => .ok value
  | .tooWide value => .error (.tooWide value)

def untagged (text : String) (isPlain : Bool) : Except Refusal Value :=
  if isPlain then accepted (plain text) else .ok (.string text)

def read (tag : Option (List UInt8)) (text : String) (isPlain : Bool) : Except Refusal Value :=
  match tag with
  | none => untagged text isPlain
  | some given =>
    if given = standardTag "bool" then
      match boolean? text with
      | some value => .ok (.boolean value)
      | none => .error (.notA text "a boolean")
    else if given = standardTag "int" then
      match integer? text.toList with
      | some reading => accepted reading
      | none => .error (.notA text "an integer")
    else if given = standardTag "float" then
      match real? text with
      | some value => .ok (.number (.real value))
      | none => .error (.notA text "a float")
    else if given = standardTag "null" then
      if isNull text then .ok .null else .error (.notA text "null")
    else untagged text (isPlain && given.head? = some 0x21)

end CompletionRules.Yaml.Scalar
