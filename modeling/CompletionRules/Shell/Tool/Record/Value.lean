import CompletionRules.Shell.Format
import CompletionRules.Shell.Tool.Plan
import CompletionRules.Shell.Tool.Record.Reading

-- Values of programs on records. A text that was read counts as a number where it looks like one; one
-- that the program made never does.

namespace CompletionRules.Shell.Record

inductive Value where
  | absent
  | number (held : Binary64)
  | text (held : ByteText)
  | read (held : ByteText)
  deriving Repr, DecidableEq

def isBlank (c : Char) : Bool := c == ' ' || c == '\t' || c == '\n'

def startsNumber (text : ByteText) : Bool :=
  match text with
  | '-' :: c :: _ | '+' :: c :: _ => c.isDigit || c == '.'
  | c :: _ => c.isDigit || c == '.'
  | [] => false

def leadingNumber (text : ByteText) : Binary64 × Bool :=
  let text := text.dropWhile isBlank
  if startsNumber text then Format.realOf text else (Binary64.ofInt 0, false)

def looksNumeric (text : ByteText) : Bool := (leadingNumber (text.reverse.dropWhile isBlank).reverse).2

namespace Value

def isNumber : Value → Bool
  | .number _ => true
  | .read held => looksNumeric held
  | _ => false

def toNumber : Value → Binary64
  | .absent => Binary64.ofInt 0
  | .number held => held
  | .text held | .read held => (leadingNumber held).1

def ofNat (value : Nat) : Value := .number (Binary64.ofInt value)

def ofBool (held : Bool) : Value := ofNat (if held then 1 else 0)

def shownBy (form : ByteText) (value : Binary64) : ByteText :=
  match value with
  | .notANumber => "-nan".toList
  | .infinite negative => (if negative then "-inf" else "inf").toList
  | _ =>
    match value.whole? with
    | some held =>
      if -(twoTo 63 : Int) ≤ held && held < twoTo 64 then ByteText.ofInt held else directed value
    | none => directed value
where
  directed (value : Binary64) : ByteText :=
    match form with
    | '%' :: rest =>
      match Format.directive? rest [] with
      | some (directive, after, _) => Format.shownReal directive value ++ after
      | none => form
    | _ => form

def toText (form : ByteText) : Value → ByteText
  | .absent => []
  | .number held => shownBy form held
  | .text held | .read held => held

def isTrue : Value → Bool
  | .absent => false
  | .number held => !held.isZero
  | .text held => !held.isEmpty
  | .read held => if looksNumeric held then !(leadingNumber held).1.isZero else !held.isEmpty

def compared (comparison : Comparison) (below above : Bool) : Bool :=
  match comparison with
  | .below => below
  | .atMost => !above
  | .equal => !below && !above
  | .unequal => below || above
  | .above => above
  | .atLeast => !below

def compare (form : ByteText) (comparison : Comparison) (left right : Value) : Bool :=
  if (left.isNumber || left = .absent) && (right.isNumber || right = .absent) then
    let (first, second) := (left.toNumber, right.toNumber)
    compared comparison (first.isBelow second) (second.isBelow first)
  else
    let (first, second) := (left.toText form, right.toText form)
    compared comparison (first != second && first.comesFirst second)
      (first != second && second.comesFirst first)

end Value

def calculated : Operator → Binary64 → Binary64 → Binary64
  | .add => .add
  | .subtract => .subtract
  | .multiply => .multiply
  | .divide => .divide
  | .remainder => .remainder
  | .power => .power

def converted (form : ByteText) (directive : Format.Directive) (value : Value) : ByteText :=
  let whole := ByteText.ofInt (value.toNumber.truncated.whole?.getD 0)
  match directive.conversion with
  | 'c' =>
    if value.isNumber then
      Format.padded directive [Char.ofNat ((value.toNumber.truncated.whole?.getD 0) % 256).toNat]
    else
      let text := value.toText form
      Format.padded directive (if text.isEmpty then ['\x00'] else text.take 1)
  | 's' | 'b' =>
    let text := value.toText form
    Format.padded directive (text.take (directive.precision.getD text.length))
  | 'd' | 'i' | 'o' | 'u' | 'x' | 'X' => (Format.converted directive whole).1
  | _ => Format.shownReal directive value.toNumber

def formatted (form : ByteText) : Nat → ByteText → List Value → ByteText × Bool
  | 0, _, _ => ([], false)
  | _, [], _ => ([], true)
  | room + 1, '%' :: '%' :: rest, values =>
    let (text, complete) := formatted form room rest values
    ('%' :: text, complete)
  | room + 1, '%' :: rest, values =>
    match Format.directive? rest (values.map fun value => value.toText form) with
    | none => (['%'], true)
    | some (directive, after, left, _) =>
      if Format.isTooLong directive || !Format.conversions.contains directive.conversion then ([], false)
      else match values.drop (values.length - left.length) with
        | [] => ([], false)
        | value :: others =>
          let (text, complete) := formatted form room after others
          (converted form directive value ++ text, complete)
  | room + 1, c :: rest, values =>
    let (text, complete) := formatted form room rest values
    (c :: text, complete)

inductive Parting where
  | blanks
  | everywhere
  | at (sign : Char)
  | found (search : Search)
  | lines
  deriving Repr, DecidableEq

namespace Parting

def ofText (text : ByteText) : Parting :=
  match text with
  | [' '] => .blanks
  | [] => .everywhere
  | ['\\'] => .at '\\'
  | [c] => .at c
  | _ => ((Reader.search? text).map Parting.found).getD .blanks

def plainly : Manner := ⟨false, false⟩

def betweenFound (search : Search) : Nat → Place → List ByteText
  | 0, place => [place.ahead]
  | room + 1, place =>
    match Search.findFrom search plainly place with
    | none => [place.ahead]
    | some (first, last) =>
      if first.ahead.length = last.ahead.length then
        match betweenFound search room (first.advance 1) with
        | field :: others =>
          if first.ahead.isEmpty then [place.ahead]
          else (place.between first ++ first.ahead.take 1 ++ field) :: others
        | [] => []
      else place.between first :: betweenFound search room { last with held := [] }

def fields (parting : Parting) (text : ByteText) : List ByteText :=
  if text.isEmpty then []
  else match parting with
    | .blanks => (Text.pieces isBlank text).filter fun field => !field.isEmpty
    | .everywhere => text.map fun c => [c]
    | .at sign => Text.pieces (· == sign) text
    | .lines => Text.pieces (· == '\n') text
    | .found search => betweenFound search (text.length + 1) (.start text)

end Parting

def replacement (found : ByteText) : ByteText → ByteText
  | [] => []
  | '\\' :: '&' :: rest => '&' :: replacement found rest
  | '\\' :: '\\' :: rest => '\\' :: replacement found rest
  | '&' :: rest => found ++ replacement found rest
  | c :: rest => c :: replacement found rest

-- The text with occurrences replaced, the first or all, and their number. Where an occurrence has just
-- ended none starts that is empty.
def replaced (search : Search) (text : ByteText) (all : Bool) : Nat → Bool → Place → ByteText × Nat
  | 0, _, place => (place.ahead, 0)
  | room + 1, ended, place =>
    match Search.findFrom search Parting.plainly place with
    | none => (place.ahead, 0)
    | some (first, last) =>
      let isEmpty := first.ahead.length == last.ahead.length
      let isSkipped := isEmpty && ended && first.ahead.length == place.ahead.length
      let start := place.between first ++
        if isSkipped then [] else replacement (first.between last) text
      let found := if isSkipped then 0 else 1
      if !all then (start ++ last.ahead, found)
      else if isEmpty then
        if first.ahead.isEmpty then (start, found)
        else
          let (rest, count) := replaced search text all room false { first.advance 1 with held := [] }
          (start ++ first.ahead.take 1 ++ rest, found + count)
      else
        let (rest, count) := replaced search text all room true { last with held := [] }
        (start ++ rest, found + count)

def part (text : ByteText) (start : Binary64) (length : Option Binary64) : ByteText :=
  let rounded := fun (value : Binary64) =>
    ((value.add (.ofDecimal ⟨false, 5, -1⟩)).whole?.getD
      (match value.add (.ofDecimal ⟨false, 5, -1⟩) with
        | .finite n s e => (Binary64.exact n s e).numerator.fdiv (Binary64.exact n s e).denominator
        | other => if other.isNegative then -(twoTo 62 : Int) else (twoTo 62 : Int)))
  let first := rounded start
  let last := match length with
    | none => (text.length : Int)
    | some count => rounded (start.add count) - 1
  let least := max first 1
  let upTo := min last (text.length : Int)
  (text.drop (least - 1).toNat).take (upTo - least + 1).toNat

def placeOf (wanted : ByteText) : ByteText → Nat → Nat
  | [], place => if wanted.isEmpty then place else 0
  | c :: rest, place =>
    if wanted.isPrefixOf (c :: rest) then place else placeOf wanted rest (place + 1)

def slot (key : ByteText) : Nat :=
  (key.foldl (fun hash c => ((hash ^^^ c.toNat) * 16777619) % twoTo 32) 2166136261) % 64

end CompletionRules.Shell.Record
