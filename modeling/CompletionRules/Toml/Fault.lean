import CompletionRules.Text.Pieces
import CompletionRules.Text.Utf8

-- Why a settings text is refused, and how that is shown: the line at fault between gutters, marks
-- under the stretch at fault, and the reason below. Stretches are counted in bytes from the start.

namespace CompletionRules.Toml

structure Span where
  start : Nat
  stop : Nat
  deriving Repr, DecidableEq

namespace Span

def before (span : Span) : Span := ⟨span.start, span.start⟩

def after (span : Span) : Span := ⟨span.stop, span.stop⟩

def through (first last : Span) : Span := ⟨first.start, last.stop⟩

end Span

inductive Awaited where
  | key
  | equals
  | value
  | comma
  deriving Repr, DecidableEq

def Awaited.text : Awaited → String
  | .key => "key"
  | .equals => "`=`"
  | .value => "value"
  | .comma => "`,`"

inductive Cause where
  | tooDeep
  | badComment | loneReturn | afterStatement
  | tableNotOpened | tableNotClosed | arrayTableNotClosed | arrayTableHalfClosed
  | noStatement | noAssignment | noAssignmentAfterDot | secondEquals
  | arrayNotOpened | arrayNotClosed | emptyItem | equalsInArray | itemsNotSeparated
  | inlineTableNotOpened | inlineTableNotClosed | entryWithoutEquals | entriesNotSeparated
  | emptyEntry (awaited : Awaited)
  | entryWithTwoEquals (awaited : Awaited)
  | entryWithoutKey (awaited : Awaited)
  | badEntry (awaited : Awaited)
  | emptyKey | badKey | tooManyKeys
  | keyOfLines (kind : String)
  | quoteMissing (kind quote : String)
  | badCharacter (kind allowed : String)
  | lineNotEnded (kind : String)
  | badEscape | shortCode | badCode
  | notQuoted
  | notOpened (quotes : String)
  | badWord (kind expected : String)
  | badPart (part : String)
  | realWithRest
  | leadingZero | looseUnderscore | secondSign
  | baseWithSign | upperBase (mark : String) | decimalBase | signAfterBase
  | badDigit (kind : String)
  | badMoment (part expected : Option String)
  | duplicateKey
  | notExtensible (kind : String)
  | wrongType (found expected : String)
  | unknownName (name : String) (known : List String)
  | notAName | noSingleName (many : Bool) | nameWithContent (found : String)
  | integerOverflow | realOverflow
  deriving Repr, DecidableEq

def Cause.message : Cause → String
  | .tooDeep => "cannot recurse further; max recursion depth met"
  | .badComment => "invalid comment character, expected printable characters"
  | .loneReturn => "carriage return must be followed by newline, expected newline"
  | .afterStatement => "unexpected key or value, expected newline, `#`"
  | .tableNotClosed => "unclosed table, expected `]`"
  | .arrayTableNotClosed => "unclosed array table, expected `]]`"
  | .arrayTableHalfClosed => "unclosed array table, expected `]`"
  | .tableNotOpened => "missing table open, expected `[`"
  | .noAssignment => "key with no value, expected `=`"
  | .noAssignmentAfterDot => "missing value for key, expected `=`"
  | .noStatement => "invalid key-value pair, expected key"
  | .secondEquals => "extra `=`, expected nothing"
  | .arrayNotOpened => "missing array opening, expected `[`"
  | .inlineTableNotOpened => "missing inline table opening, expected `\x7b`"
  | .arrayNotClosed => "unclosed array, expected `]`"
  | .inlineTableNotClosed => "unclosed inline table, expected `\x7d`"
  | .emptyItem => "extra comma in array, expected value"
  | .equalsInArray => "unexpected `=` in array, expected value, `]`"
  | .itemsNotSeparated => "missing comma between array elements, expected `,`"
  | .emptyEntry awaited => "extra comma in inline table, expected " ++ awaited.text
  | .entryWithoutEquals => "missing assignment between key-value pairs, expected `=`"
  | .entryWithTwoEquals awaited => "extra assignment between key-value pairs, expected " ++ awaited.text
  | .entryWithoutKey awaited => "missing key for inline table element, expected " ++ awaited.text
  | .badEntry awaited => "invalid inline table element, expected " ++ awaited.text
  | .entriesNotSeparated => "missing comma between key-value pairs, expected `,`"
  | .emptyKey => "unquoted keys cannot be empty, expected letters, numbers, `-`, `_`"
  | .badKey => "invalid unquoted key, expected letters, numbers, `-`, `_`"
  | .tooManyKeys => "recursion limit"
  | .keyOfLines kind => "keys cannot be " ++ kind ++ "s, expected basic string, literal string"
  | .quoteMissing kind quote => "invalid " ++ kind ++ ", expected `" ++ quote ++ "`"
  | .badCharacter kind allowed => "invalid " ++ kind ++ ", expected " ++ allowed
  | .lineNotEnded kind => "invalid " ++ kind ++ ", expected newline"
  | .badEscape =>
    "missing escaped value, expected `b`, `e`, `f`, `n`, `r`, `\\`, `\"`, `x`, `u`, `U`"
  | .shortCode => "too few unicode value digits, expected unicode hexadecimal value"
  | .badCode => "invalid value, expected unicode hexadecimal value"
  | .notQuoted => "string values must be quoted, expected literal string"
  | .notOpened quotes => "missing opening quote, expected `" ++ quotes ++ "`"
  | .badWord kind expected => "invalid " ++ kind ++ ", expected `" ++ expected ++ "`"
  | .badPart part => "invalid " ++ part ++ ", expected digits"
  | .realWithRest => "invalid float, expected nothing"
  | .leadingZero => "unexpected leading zero, expected nothing"
  | .looseUnderscore => "`_` may only go between digits, expected nothing"
  | .secondSign => "redundant numeric sign, expected nothing"
  | .baseWithSign => "integers with a radix cannot be signed, expected nothing"
  | .upperBase mark => "radix must be lowercase, expected `" ++ mark ++ "`"
  | .decimalBase => "redundant integer number prefix, expected nothing"
  | .signAfterBase => "unexpected sign, expected nothing"
  | .badDigit kind => "invalid " ++ kind ++ " number"
  | .badMoment part expected =>
    "invalid " ++ part.getD "datetime" ++ ((expected.map fun text => ", expected " ++ text).getD "")
  | .duplicateKey => "duplicate key"
  | .notExtensible kind => "cannot extend value of type " ++ kind ++ " with a dotted key"
  | .wrongType found expected => "invalid type: " ++ found ++ ", expected " ++ expected
  | .unknownName name known =>
    "unknown variant `" ++ name ++ "`, expected one of " ++
      Text.joined ", " (known.map fun name => "`" ++ name ++ "`")
  | .notAName => "wanted string or table"
  | .noSingleName many =>
    "wanted exactly 1 element, " ++ (if many then "more than 1 element" else "found 0 elements")
  | .nameWithContent found => "expected " ++ found
  | .integerOverflow => "integer number overflowed"
  | .realOverflow => "floating-point number overflowed"

def Cause.isPlaced : Cause → Bool
  | .tooManyKeys => false
  | _ => true

structure Fault where
  span : Span
  cause : Cause
  deriving Repr, DecidableEq

namespace Fault

def charsWithin : Nat → List Char → List Char
  | _, [] => []
  | bytes, c :: rest => if c.utf8Size ≤ bytes then c :: charsWithin (bytes - c.utf8Size) rest else []

-- Where the byte does not end a character it is the bytes that count. What lies at the end of the text belongs
-- to its last line.
def position (text : List Char) (start : Nat) : Nat × Nat :=
  let size := Text.bytesIn text
  let safe := if size = 0 then 0 else min start (size - 1)
  let before := charsWithin safe text
  let line := (before.filter (· == '\n')).length
  let sameLine := before.reverse.takeWhile (· ≠ '\n')
  let passed := Text.bytesIn before
  let endsThere := (text[before.length]?).all fun c => passed + c.utf8Size = safe + 1
  let column := if endsThere then sameLine.length else Text.bytesIn sameLine + (safe - passed)
  (line, column + (start - safe))

def spaces (count : Nat) : String := .ofList (List.replicate count ' ')

def marks (count : Nat) : String := .ofList (List.replicate count '^')

def placedText (fault : Fault) (source : String) : String :=
  let (line, column) := position source.toList fault.span.start
  let content := (Text.pieces (· == '\n') source.toList)[line]?.getD []
  let number := toString (line + 1)
  let gutter := spaces (number.length + 1)
  let shown := min (fault.span.stop - fault.span.start) (Text.bytesIn content - column)
  "TOML parse error at line " ++ number ++ ", column " ++ toString (column + 1) ++ "\n" ++
    gutter ++ "|\n" ++
    number ++ " | " ++ String.ofList content ++ "\n" ++
    gutter ++ "|" ++ spaces (column + 1) ++ marks (max 1 shown) ++ "\n" ++
    fault.cause.message ++ "\n"

def text (fault : Fault) (source : String) : String :=
  if fault.cause.isPlaced then fault.placedText source else fault.cause.message ++ "\n"

end Fault

end CompletionRules.Toml
