import CompletionRules.Shell.ByteText
import CompletionRules.Shell.CharClass

-- Patterns of the shell. A character that was quoted stands for itself; a backslash that came out of a value
-- quotes what follows it.

namespace CompletionRules.Shell

abbrev Field := List (Char × Bool)

namespace Field

def plain (field : Field) : ByteText := field.map Prod.fst

def ofText (text : ByteText) (quoted : Bool) : Field := text.map fun c => (c, quoted)

-- Backslashes that are not quoted quote the next character.
def settled : Field → Field
  | ('\\', false) :: (c, _) :: rest => (c, true) :: settled rest
  | c :: rest => c :: settled rest
  | [] => []

end Field

inductive Mark where
  | anyText
  | anyChar
  | oneOf (negated : Bool) (ranges : CharRanges)
  | exactly (c : Char)
  deriving Repr, DecidableEq

def Mark.accepts : Mark → Char → Bool
  | .anyText, _ | .anyChar, _ => true
  | .oneOf negated held, c => held.holds c != negated
  | .exactly found, c => found == c

abbrev Pattern := List Mark

namespace Pattern

def item : Field → Option (CharRanges × Field)
  | [] => none
  | (c, quoted) :: rest =>
    match if c == '[' && !quoted then CharClass.named? (Field.plain rest) else none with
    | some (name, after) =>
      match CharClass.ranges? name with
      | some held => some (held, rest.drop (rest.length - after.length))
      | none => some ([(c, c)], rest)
    | none =>
      match rest with
      | ('-', false) :: (']', false) :: _ => some ([(c, c)], rest)
      | ('-', false) :: (high, _) :: after => some ([(c, high)], after)
      | _ => some ([(c, c)], rest)

def listed : Nat → Bool → Field → Option (CharRanges × Field)
  | 0, _, _ => none
  | room + 1, first, field =>
    match field with
    | (']', false) :: rest =>
      if first then
        (item field).bind fun (held, after) =>
          (listed room false after).map fun (others, left) => (held ++ others, left)
      else some ([], rest)
    | _ =>
      (item field).bind fun (held, after) =>
        (listed room false after).map fun (others, left) => (held ++ others, left)

def bracket (field : Field) : Option (Mark × Field) :=
  match field with
  | ('!', false) :: rest =>
    (listed field.length true rest).map fun (held, after) => (.oneOf true held, after)
  | _ => (listed (field.length + 1) true field).map fun (held, after) => (.oneOf false held, after)

def ofFieldWithin : Nat → Field → Pattern
  | 0, _ => []
  | _, [] => []
  | room + 1, (c, quoted) :: rest =>
    if quoted then .exactly c :: ofFieldWithin room rest
    else if c == '*' then .anyText :: ofFieldWithin room rest
    else if c == '?' then .anyChar :: ofFieldWithin room rest
    else if c == '[' then
      match bracket rest with
      | some (mark, after) => mark :: ofFieldWithin room after
      | none => .exactly c :: ofFieldWithin room rest
    else .exactly c :: ofFieldWithin room rest

def ofField (field : Field) : Pattern :=
  let field := field.settled
  ofFieldWithin field.length field

def suffixes : ByteText → List ByteText
  | [] => [[]]
  | c :: rest => (c :: rest) :: suffixes rest

def accepts : Pattern → ByteText → Bool
  | [], text => text.isEmpty
  | .anyText :: rest, text => (suffixes text).any (accepts rest)
  | _ :: _, [] => false
  | mark :: rest, c :: text => Mark.accepts mark c && accepts rest text

def isLiteral (pattern : Pattern) : Bool :=
  pattern.all fun mark => match mark with
    | .exactly _ => true
    | _ => false

def dropStart (pattern : Pattern) (longest : Bool) (text : ByteText) : ByteText :=
  let lengths := List.range (text.length + 1)
  let ordered := if longest then lengths.reverse else lengths
  match ordered.find? fun count => pattern.accepts (text.take count) with
  | some count => text.drop count
  | none => text

def dropEnd (pattern : Pattern) (longest : Bool) (text : ByteText) : ByteText :=
  let lengths := List.range (text.length + 1)
  let ordered := if longest then lengths else lengths.reverse
  match ordered.find? fun count => pattern.accepts (text.drop count) with
  | some count => text.take count
  | none => text

end Pattern

end CompletionRules.Shell
