import CompletionRules.Text.Utf8

-- A name as the programs of the base system cite it, in quotes from which a shell reads it back.
-- Bytes that are not printable ASCII are written as escapes in a stretch of their own.

namespace CompletionRules.Text

structure Citation where
  written : List Char
  escaping : Bool
  deriving Repr, DecidableEq

namespace Citation

def isPrintable (code : Nat) : Bool := 32 ≤ code && code < 127

def octalDigits (code : Nat) : List Char :=
  [Nat.digitChar (code / 64 % 8), Nat.digitChar (code / 8 % 8), Nat.digitChar (code % 8)]

def escapeOf (code : Nat) : List Char :=
  match code with
  | 7 => ['a']
  | 8 => ['b']
  | 9 => ['t']
  | 10 => ['n']
  | 11 => ['v']
  | 12 => ['f']
  | 13 => ['r']
  | _ => octalDigits code

def add (citation : Citation) (byte : UInt8) : Citation :=
  let code := byte.toNat
  if code = 39 then ⟨citation.written ++ ['\'', '\\', '\'', '\''], false⟩
  else if isPrintable code then
    ⟨citation.written ++ (if citation.escaping then ['\'', '\''] else []) ++ [Char.ofNat code], false⟩
  else
    ⟨citation.written ++ (if citation.escaping then [] else ['\'', '$', '\'']) ++ ['\\'] ++ escapeOf code, true⟩

end Citation

def isPlainInQuotes (place : Nat) (byte : UInt8) : Bool :=
  let c := Char.ofNat byte.toNat
  if c = '#' || c = '~' then place = 0
  else Citation.isPrintable byte.toNat &&
    !("!\"$&()*;<=>?[\\^\x60\x7b|\x7d".toList.contains c)

-- Double quotes do for a name with a single quote in it, if nothing else in it is special. The state
-- in which a name with a single quote ends is the one that it starts in.
def cited (name : String) : String :=
  let bytes := encode name
  let hasQuote := bytes.contains 39
  if hasQuote && bytes.zipIdx.all fun (byte, place) => isPlainInQuotes place byte then
    "\"" ++ name ++ "\""
  else
    let first := bytes.foldl Citation.add ⟨[], false⟩
    let whole := bytes.foldl Citation.add ⟨[], hasQuote && first.escaping⟩
    .ofList (['\''] ++ whole.written ++ ['\''])

def needsQuotes (place : Nat) (byte : UInt8) : Bool :=
  let c := Char.ofNat byte.toNat
  if c = '#' || c = '~' then place = 0
  else !Citation.isPrintable byte.toNat || " !\"$&'()*;<=>?[\\^\x60|".toList.contains c

def citedIfNeeded (name : String) : String :=
  let bytes := encode name
  if bytes.isEmpty || bytes.zipIdx.any fun (byte, place) => needsQuotes place byte then cited name else name

end CompletionRules.Text
