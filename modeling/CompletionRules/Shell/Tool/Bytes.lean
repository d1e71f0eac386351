import CompletionRules.Shell.Format
import CompletionRules.Shell.Tool.Fields

namespace CompletionRules.Shell.Bytes

def chunks {α : Type} (size : Nat) : Nat → List α → List (List α)
  | 0, _ => []
  | _, [] => []
  | room + 1, held => held.take size :: chunks size room (held.drop size)

def chunked {α : Type} (size : Nat) (held : List α) : List (List α) := chunks (max size 1) held.length held

structure UnitForm where
  bytes : Nat
  shown : Nat → ByteText

def inBase (base width : Nat) (value : Nat) : ByteText :=
  let digits := Nat.toDigits base value
  List.replicate (width - digits.length) '0' ++ digits

def charName (code : Nat) : ByteText :=
  match code with
  | 0 => ['\\', '0']
  | 7 => ['\\', 'a']
  | 8 => ['\\', 'b']
  | 9 => ['\\', 't']
  | 10 => ['\\', 'n']
  | 11 => ['\\', 'v']
  | 12 => ['\\', 'f']
  | 13 => ['\\', 'r']
  | _ => if 32 ≤ code && code < 127 then [Char.ofNat code] else inBase 8 3 code

def signed (bytes value : Nat) : Int :=
  if value ≥ twoTo (8 * bytes - 1) then (value : Int) - twoTo (8 * bytes) else value

def form? (text : ByteText) : Option UnitForm :=
  let sized := fun (digits : ByteText) => match digits with
    | [] => some 4
    | ['C'] => some 1
    | ['S'] => some 2
    | ['I'] => some 4
    | ['L'] => some 8
    | _ => (number? digits).filter fun size => [1, 2, 4, 8].contains size
  match text with
  | ['c'] => some ⟨1, fun code => filled 3 (charName code)⟩
  | 'x' :: size => (sized size).map fun bytes => ⟨bytes, inBase 16 (2 * bytes)⟩
  | 'o' :: size =>
    (sized size).map fun bytes => ⟨bytes, inBase 8 ((8 * bytes + 2) / 3)⟩
  | 'u' :: size =>
    (sized size).map fun bytes => ⟨bytes, fun value =>
      filled (ByteText.ofNat (twoTo (8 * bytes) - 1)).length (ByteText.ofNat value)⟩
  | 'd' :: size =>
    (sized size).map fun bytes => ⟨bytes, fun value =>
      filled ((ByteText.ofNat (twoTo (8 * bytes - 1))).length + 1) (ByteText.ofInt (signed bytes value))⟩
  | _ => none

def unitValue (bytes : ByteText) : Nat := bytes.foldr (fun c value => value * 256 + c.toNat) 0

def row (form : UnitForm) (bytes : ByteText) : ByteText :=
  (chunked form.bytes bytes).flatMap fun unit => ' ' :: form.shown (unitValue unit)

def address (base : ByteText) (place : Nat) : ByteText :=
  match base with
  | ['n'] => []
  | ['d'] => inBase 10 7 place
  | ['x'] => inBase 16 6 place
  | _ => inBase 8 7 place

def rows (form : UnitForm) (base : ByteText) (all : Bool) : Nat → Option ByteText → Bool → List ByteText →
    List ByteText
  | _, _, _, [] => []
  | place, before, starred, bytes :: rest =>
    if !all && before = some bytes then
      (if starred then [] else [['*']]) ++ rows form base all (place + bytes.length) before true rest
    else (address base place ++ row form bytes) ::
      rows form base all (place + bytes.length) (some bytes) false rest

def od (arguments : List ByteText) : Option Plan := do
  let options ← Options.read ⟨['b', 'c', 'd', 'o', 'v', 'x'], ['A', 'N', 'j', 't', 'w'],
    [("address-radix", 'A'), ("read-bytes", 'N'), ("skip-bytes", 'j'), ("format", 't'),
      ("output-duplicates", 'v'), ("width", 'w')]⟩ arguments
  let form ← match options.value? 't' with
    | some text => form? text
    | none =>
      form? (if options.has 'c' then ['c'] else if options.has 'b' then ['o', '1']
        else if options.has 'x' then ['x', '2'] else if options.has 'd' then ['u', '2'] else ['o', '2'])
  let base := (options.value? 'A').getD ['o']
  let skipped ← ((options.value? 'j').map number?).getD (some 0)
  let width ← ((options.value? 'w').map number?).getD (some 16)
  let most ← match options.value? 'N' with
    | none => some none
    | some text => (number? text).map some
  pure (.transform options.operands fun text =>
    let rest := text.drop skipped
    let bytes := match most with
      | some count => rest.take count
      | none => rest
    let last := address base (skipped + bytes.length)
    ByteText.ofLines (rows form base (options.has 'v') skipped none false (chunked width bytes) ++
      if last.isEmpty then [] else [last]))

def letters : Array Char :=
  "ABCDEFGHIJKLMNOPQRSTUVWXYZabcdefghijklmnopqrstuvwxyz0123456789+/".toList.toArray

def packed (bytes : ByteText) : ByteText :=
  (chunked 3 bytes).flatMap fun group =>
    let value := (group ++ List.replicate (3 - group.length) '\x00').foldl (fun value c => value * 256 + c.toNat) 0
    let digits := [value / 262144, value / 4096 % 64, value / 64 % 64, value % 64].map fun digit =>
      letters[digit]?.getD '='
    digits.take (group.length + 1) ++ List.replicate (3 - group.length) '='

def unpacked? (text : ByteText) : Option ByteText :=
  let digits := text.filter (· ≠ '=')
  if text.length % 4 ≠ 0 then none
  else do
    let values ← digits.mapM letters.toList.idxOf?
    pure ((chunked 4 values).flatMap fun group =>
      let value := (group ++ List.replicate (4 - group.length) 0).foldl (fun value digit => value * 64 + digit) 0
      ([value / 65536, value / 256 % 256, value % 256].map Char.ofNat).take (group.length - 1))

def base64 (arguments : List ByteText) : Option Plan := do
  let options ← Options.read ⟨['d', 'D', 'i'], ['w'],
    [("decode", 'd'), ("ignore-garbage", 'i'), ("wrap", 'w')]⟩ arguments
  let width ← ((options.value? 'w').map number?).getD (some 76)
  pure (.joined options.operands fun text =>
    if options.has 'd' then
      match unpacked? (text.filter (· ≠ '\n')) with
      | some bytes => ⟨bytes, 0, []⟩
      | none => ⟨[], 1, []⟩
    else
      let shown := packed text
      ⟨if width = 0 then shown else ByteText.ofLines (chunked width shown), 0, []⟩)

end CompletionRules.Shell.Bytes
