import CompletionRules.Text.Pieces
import CompletionRules.Text.Utf8

-- Text as the shell sees it: one character a byte, so that bytes that encode no character pass
-- through unchanged.

namespace CompletionRules.Shell

abbrev ByteText := List Char

namespace ByteText

def ofBytes (bytes : List UInt8) : ByteText := bytes.map fun byte => .ofNat byte.toNat

def bytes (text : ByteText) : List UInt8 := text.map fun c => c.toNat.toUInt8

def ofString (text : String) : ByteText := ofBytes (Text.encode text)

def toText (text : ByteText) : String := Text.decodeLossy text.bytes

def name (text : ByteText) : String := .ofList text

def isNameStart (c : Char) : Bool := c.isAlpha || c == '_'

def isNameChar (c : Char) : Bool := c.isAlphanum || c == '_'

def isName (text : ByteText) : Bool := text.head?.any isNameStart && text.all isNameChar

def ofNat (value : Nat) : ByteText := (toString value).toList

def ofInt (value : Int) : ByteText := (toString value).toList

def lines (text : ByteText) : List ByteText :=
  let parts := Text.pieces (· == '\n') text
  if parts.getLast? = some [] then parts.dropLast else parts

def ofLines (lines : List ByteText) : ByteText := lines.flatMap fun line => line ++ ['\n']

def comesFirst : ByteText → ByteText → Bool
  | [], _ => true
  | _ :: _, [] => false
  | left :: lefts, right :: rights =>
    left.toNat < right.toNat || (left == right && comesFirst lefts rights)

def sorted (texts : List ByteText) : List ByteText := texts.mergeSort comesFirst

end ByteText

end CompletionRules.Shell
