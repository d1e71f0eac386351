-- Texts as bytes. A byte sequence that encodes no character is refused, or replaced piece by piece
-- where a reader has to go on.

namespace CompletionRules.Text

def bytesIn (text : List Char) : Nat := text.foldl (fun sum c => sum + c.utf8Size) 0

inductive Decoded where
  | char (c : Char) (rest : List UInt8)
  | invalid (rest : List UInt8)
  deriving Repr, DecidableEq

def isContinuation (byte : UInt8) : Bool := 0x80 ≤ byte && byte ≤ 0xBF

-- The range of the second byte keeps out overlong forms, surrogates and what lies beyond the last
-- code point.
def secondRange (first : UInt8) : UInt8 × UInt8 :=
  if first == 0xE0 then (0xA0, 0xBF)
  else if first == 0xED then (0x80, 0x9F)
  else if first == 0xF0 then (0x90, 0xBF)
  else if first == 0xF4 then (0x80, 0x8F)
  else (0x80, 0xBF)

def isSecond (first second : UInt8) : Bool :=
  (secondRange first).1 ≤ second && second ≤ (secondRange first).2

def codeOf (lead : Nat) (others : List UInt8) : Nat :=
  others.foldl (fun code byte => code * 64 + byte.toNat % 64) lead

def decodeOne (first : UInt8) (rest : List UInt8) : Decoded :=
  if first < 0x80 then .char (.ofNat first.toNat) rest
  else if 0xC2 ≤ first && first ≤ 0xDF then
    match rest with
    | second :: others =>
      if isSecond first second then .char (.ofNat (codeOf (first.toNat % 32) [second])) others
      else .invalid rest
    | [] => .invalid rest
  else if 0xE0 ≤ first && first ≤ 0xEF then
    match rest with
    | second :: others =>
      if isSecond first second then
        match others with
        | third :: more =>
          if isContinuation third then
            .char (.ofNat (codeOf (first.toNat % 16) [second, third])) more
          else .invalid others
        | [] => .invalid others
      else .invalid rest
    | [] => .invalid rest
  else if 0xF0 ≤ first && first ≤ 0xF4 then
    match rest with
    | second :: others =>
      if isSecond first second then
        match others with
        | third :: more =>
          if isContinuation third then
            match more with
            | fourth :: last =>
              if isContinuation fourth then
                .char (.ofNat (codeOf (first.toNat % 8) [second, third, fourth])) last
              else .invalid more
            | [] => .invalid more
          else .invalid others
        | [] => .invalid others
      else .invalid rest
    | [] => .invalid rest
  else .invalid rest

def decodeSteps : Nat → List UInt8 → List (Option Char)
  | 0, _ => []
  | _, [] => []
  | room + 1, first :: rest =>
    match decodeOne first rest with
    | .char c left => some c :: decodeSteps room left
    | .invalid left => none :: decodeSteps room left

def decodeAll (bytes : List UInt8) : List (Option Char) := decodeSteps bytes.length bytes

def decode? (bytes : List UInt8) : Option String := ((decodeAll bytes).mapM id).map String.ofList

def decodeLossy (bytes : List UInt8) : String :=
  .ofList ((decodeAll bytes).map fun decoded => decoded.getD '\ufffd')

def encode (text : String) : List UInt8 := text.toUTF8.toList

end CompletionRules.Text
