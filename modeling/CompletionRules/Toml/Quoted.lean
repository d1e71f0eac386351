import CompletionRules.Toml.Statement
import CompletionRules.Toml.Value

-- Strings without their quotes and escapes, and the keys, which may be strings. Whether a string has
-- both its quotes is looked at before what stands between them.

namespace CompletionRules.Toml.Quoted

def refuse {α : Type} (written : Written) (start stop : Nat) (cause : Cause) : Except Fault α :=
  .error ⟨⟨written.span.start + start, written.span.start + stop⟩, cause⟩

def offset (written : Written) (rest : List Char) : Nat :=
  Text.bytesIn written.text - Text.bytesIn rest

def refuseAt {α : Type} (written : Written) (rest after : List Char) (cause : Cause) : Except Fault α :=
  refuse written (offset written rest) (offset written after) cause

def isStringChar (c : Char) : Bool := c == '\t' || (0x20 ≤ c.toNat && c.toNat ≠ 0x7f)

def between (written : Written) (kind : String) (quotes : List Char) (open? : List Char → List Char) :
    Except Fault (List Char) :=
  let quote := String.ofList (quotes.take 1)
  if !quotes.isPrefixOf written.text then refuse written 0 0 (.quoteMissing kind quote)
  else
    let body := open? (written.text.drop quotes.length)
    if quotes.isSuffixOf body then .ok (body.take (body.length - quotes.length))
    else
      let size := Text.bytesIn written.text
      refuse written size size (.quoteMissing kind quote)

-- `closing` is how many bytes follow the text in what is written.
structure Place where
  written : Written
  closing : Nat
  deriving Repr, DecidableEq

def Place.offset (place : Place) (rest : List Char) : Nat :=
  Text.bytesIn place.written.text - place.closing - Text.bytesIn rest

def Place.refuse {α : Type} (place : Place) (rest after : List Char) (cause : Cause) : Except Fault α :=
  Quoted.refuse place.written (place.offset rest) (place.offset after) cause

def checkChars (place : Place) (allowed : Char → Bool) (cause : Cause) : List Char → Except Fault Unit
  | [] => .ok ()
  | c :: rest =>
    if allowed c then checkChars place allowed cause rest
    else place.refuse (c :: rest) (rest.dropWhile fun c => !allowed c) cause

def literal (written : Written) : Except Fault (List Char) := do
  let body ← between written "literal string" ['\''] id
  checkChars ⟨written, 1⟩ isStringChar
    (.badCharacter "literal string" "non-single-quote visible characters") body
  pure body

def dropFirstLineEnd : List Char → List Char
  | '\n' :: rest | '\r' :: '\n' :: rest => rest
  | text => text

def checkLines (place : Place) : List Char → Except Fault Unit
  | [] => .ok ()
  | '\r' :: '\n' :: rest => checkLines place rest
  | '\r' :: rest => place.refuse rest rest .loneReturn
  | c :: rest =>
    if c == '\n' || isStringChar c then checkLines place rest
    else
      place.refuse (c :: rest) (rest.dropWhile fun c => !(c == '\n' || c == '\r' || isStringChar c))
        (.badCharacter "multi-line literal string" "non-single-quote visible characters")

def literalLines (written : Written) : Except Fault (List Char) := do
  let body ← between written "multi-line literal string" ['\'', '\'', '\''] dropFirstLineEnd
  checkLines ⟨written, 3⟩ body
  pure body

def hexValue? (c : Char) : Option Nat :=
  if c.isDigit then some (c.toNat - 48)
  else if 'a' ≤ c && c ≤ 'f' then some (c.toNat - 87)
  else if 'A' ≤ c && c ≤ 'F' then some (c.toNat - 55)
  else none

def isHex (c : Char) : Bool := (hexValue? c).isSome

def coded (place : Place) (count : Nat) (text : List Char) : Except Fault (Char × List Char) :=
  let digits := (text.takeWhile isHex).take count
  let after := text.drop digits.length
  if digits.length < count then place.refuse after after .shortCode
  else
    let code := digits.foldl (fun value c => value * 16 + (hexValue? c).getD 0) 0
    if code.isValidChar then .ok (.ofNat code, after) else place.refuse text text .badCode

def escaped (place : Place) : List Char → Except Fault (Char × List Char)
  | 'b' :: rest => .ok ('\x08', rest)
  | 't' :: rest => .ok ('\t', rest)
  | 'n' :: rest => .ok ('\n', rest)
  | 'f' :: rest => .ok ('\x0c', rest)
  | 'r' :: rest => .ok ('\r', rest)
  | 'e' :: rest => .ok ('\x1b', rest)
  | '"' :: rest => .ok ('"', rest)
  | '\\' :: rest => .ok ('\\', rest)
  | 'x' :: rest => coded place 2 rest
  | 'u' :: rest => coded place 4 rest
  | 'U' :: rest => coded place 8 rest
  | rest => place.refuse rest rest .badEscape

def dropLines (place : Place) : List Char → Except Fault (List Char)
  | '\r' :: '\n' :: rest => dropLines place rest
  | '\r' :: rest => place.refuse rest rest .loneReturn
  | c :: rest =>
    if Token.isBlankChar c || c == '\n' then dropLines place rest else .ok (c :: rest)
  | [] => .ok []

-- A backslash at the end of a line takes away the line end and all blanks up to the next character.
def joined (place : Place) (text : List Char) : Except Fault (List Char) :=
  match text.dropWhile Token.isBlankChar with
  | '\n' :: rest => dropLines place rest
  | '\r' :: '\n' :: rest => dropLines place rest
  | '\r' :: rest => place.refuse rest rest .loneReturn
  | rest => place.refuse rest rest (.lineNotEnded "multi-line basic string")

def startsGap (text : List Char) : Bool :=
  (text.head?.map fun c => Token.isBlankChar c || c == '\n' || c == '\r').getD false

def basicName (lines : Bool) : String := if lines then "multi-line basic string" else "basic string"

def isBasicChar (lines : Bool) (c : Char) : Bool :=
  if lines then c == '\n' || (isStringChar c && c ≠ '\\') else isStringChar c && c ≠ '\\' && c ≠ '"'

def basicChars (place : Place) (lines : Bool) : Nat → List Char → Except Fault (List Char)
  | 0, _ => .ok []
  | _, [] => .ok []
  | room + 1, '\\' :: rest =>
    if lines && startsGap rest then do
      let after ← joined place rest
      basicChars place lines room after
    else do
      let (meant, after) ← escaped place rest
      let others ← basicChars place lines room after
      pure (meant :: others)
  | room + 1, c :: rest =>
    if isBasicChar lines c then do
      let others ← basicChars place lines room rest
      pure (c :: others)
    else match lines, c, rest with
      | true, '\r', '\n' :: after => do
        let others ← basicChars place lines room after
        pure ('\r' :: '\n' :: others)
      | true, '\r', after => place.refuse after after .loneReturn
      | _, _, _ =>
        let isFine := fun c => isBasicChar lines c || c == '\\' || (lines && c == '\r')
        place.refuse (c :: rest) (rest.dropWhile fun c => !isFine c)
          (.badCharacter (basicName lines) "non-double-quote visible characters, `\\`")

def basic (written : Written) : Except Fault (List Char) := do
  let body ← between written "basic string" ['"'] id
  basicChars ⟨written, 1⟩ false body.length body

def basicLines (written : Written) : Except Fault (List Char) := do
  let body ← between written "multi-line basic string" ['"', '"', '"'] dropFirstLineEnd
  basicChars ⟨written, 3⟩ true body.length body

def string (written : Written) : Except Fault String :=
  String.ofList <$> match written.quoting with
    | .bare => .ok written.text
    | .literal => literal written
    | .literalLines => literalLines written
    | .basic => basic written
    | .basicLines => basicLines written

def isKeyChar (c : Char) : Bool := c.isAlphanum || c == '-' || c == '_'

def bareKey (written : Written) : Except Fault Key :=
  let sound := written.text.takeWhile isKeyChar
  match written.text.drop sound.length with
  | [] =>
    if written.text.isEmpty then .error ⟨written.span, .emptyKey⟩
    else .ok ⟨.ofList written.text, written.span⟩
  | rest => refuseAt written rest (rest.dropWhile fun c => !isKeyChar c) .badKey

def key (written : Written) : Except Fault Key :=
  match written.quoting with
  | .bare => bareKey written
  | .literalLines => .error ⟨written.span, .keyOfLines "multi-line literal string"⟩
  | .basicLines => .error ⟨written.span, .keyOfLines "multi-line basic string"⟩
  | _ => do
    let name ← string written
    pure ⟨name, written.span⟩

end CompletionRules.Toml.Quoted
