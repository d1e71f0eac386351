import CompletionRules.Text.Utf8

-- Places in a text, and what can be wrong with the text at one. A fault names the problem, where it
-- was noticed and, if something larger was being read, what that was and where it began.

namespace CompletionRules.Yaml

structure Mark where
  index : Nat
  line : Nat
  column : Nat
  deriving Repr, DecidableEq

namespace Mark

def start : Mark := ⟨0, 0, 0⟩

def right (mark : Mark) (passed : List Char) : Mark :=
  ⟨mark.index + Text.bytesIn passed, mark.line, mark.column + passed.length⟩

def newLine (mark : Mark) (passed : List Char) : Mark :=
  ⟨mark.index + Text.bytesIn passed, mark.line + 1, 0⟩

def isStart (mark : Mark) : Bool := mark.line == 0 && mark.column == 0

def text (mark : Mark) : String :=
  if mark.isStart then ""
  else " at line " ++ toString (mark.line + 1) ++ " column " ++ toString (mark.column + 1)

end Mark

inductive Problem where
  | controlCharacter
  | noToken
  | noColon
  | valueNotAllowed
  | keyNotAllowed
  | entryNotAllowed
  | noDirectiveName
  | unknownDirective
  | badDirectiveName
  | noCommentOrBreak
  | noVersionDot
  | noVersionNumber
  | longVersionNumber
  | noSpace
  | noSpaceOrBreak
  | noBang
  | noTagEnd
  | noTagUri
  | noEscapedOctet
  | badLeadingOctet
  | badTrailingOctet
  | noName
  | zeroIndent
  | tabForIndent
  | documentInQuotes
  | endInQuotes
  | unknownEscape
  | noHexDigit
  | badCodePoint
  | unexpectedColon
  | tabBreaksIndent
  | noDocumentStart
  | duplicateVersion
  | duplicateTag
  | incompatible
  | undefinedHandle
  | noNodeContent
  | noDash
  | noKey
  | noCommaOrBracket
  | noCommaOrBrace
  deriving Repr, DecidableEq

def Problem.text : Problem → String
  | .controlCharacter => "control characters are not allowed"
  | .noToken => "found character that cannot start any token"
  | .noColon => "could not find expected ':'"
  | .valueNotAllowed => "mapping values are not allowed in this context"
  | .keyNotAllowed => "mapping keys are not allowed in this context"
  | .entryNotAllowed => "block sequence entries are not allowed in this context"
  | .noDirectiveName => "could not find expected directive name"
  | .unknownDirective => "found unknown directive name"
  | .badDirectiveName => "found unexpected non-alphabetical character"
  | .noCommentOrBreak => "did not find expected comment or line break"
  | .noVersionDot => "did not find expected digit or '.' character"
  | .noVersionNumber => "did not find expected version number"
  | .longVersionNumber => "found extremely long version number"
  | .noSpace => "did not find expected whitespace"
  | .noSpaceOrBreak => "did not find expected whitespace or line break"
  | .noBang => "did not find expected '!'"
  | .noTagEnd => "did not find the expected '>'"
  | .noTagUri => "did not find expected tag URI"
  | .noEscapedOctet => "did not find URI escaped octet"
  | .badLeadingOctet => "found an incorrect leading UTF-8 octet"
  | .badTrailingOctet => "found an incorrect trailing UTF-8 octet"
  | .noName => "did not find expected alphabetic or numeric character"
  | .zeroIndent => "found an indentation indicator equal to 0"
  | .tabForIndent => "found a tab character where an indentation space is expected"
  | .documentInQuotes => "found unexpected document indicator"
  | .endInQuotes => "found unexpected end of stream"
  | .unknownEscape => "found unknown escape character"
  | .noHexDigit => "did not find expected hexadecimal number"
  | .badCodePoint => "found invalid Unicode character escape code"
  | .unexpectedColon => "found unexpected ':'"
  | .tabBreaksIndent => "found a tab character that violates indentation"
  | .noDocumentStart => "did not find expected <document start>"
  | .duplicateVersion => "found duplicate %YAML directive"
  | .duplicateTag => "found duplicate %TAG directive"
  | .incompatible => "found incompatible YAML document"
  | .undefinedHandle => "found undefined tag handle"
  | .noNodeContent => "did not find expected node content"
  | .noDash => "did not find expected '-' indicator"
  | .noKey => "did not find expected key"
  | .noCommaOrBracket => "did not find expected ',' or ']'"
  | .noCommaOrBrace => "did not find expected ',' or '\x7d'"

inductive Activity where
  | simpleKey
  | nextToken
  | directive
  | versionDirective
  | tagDirective
  | tagDirectiveHandle
  | tagDirectiveStart
  | tagDirectiveUri
  | anchor
  | alias
  | tag
  | tagUri
  | blockScalar
  | quotedScalar
  | quotedEscape
  | plainScalar
  | node
  | blockNode
  | flowNode
  | blockCollection
  | blockMapping
  | flowSequence
  | flowMapping
  deriving Repr, DecidableEq

def Activity.text : Activity → String
  | .simpleKey => "while scanning a simple key"
  | .nextToken => "while scanning for the next token"
  | .directive => "while scanning a directive"
  | .versionDirective => "while scanning a %YAML directive"
  | .tagDirective => "while scanning a %TAG directive"
  | .tagDirectiveHandle => "while parsing a tag directive"
  | .tagDirectiveStart => "while scanning a tag directive"
  | .tagDirectiveUri => "while parsing a %TAG directive"
  | .anchor => "while scanning an anchor"
  | .alias => "while scanning an alias"
  | .tag => "while scanning a tag"
  | .tagUri => "while parsing a tag"
  | .blockScalar => "while scanning a block scalar"
  | .quotedScalar => "while scanning a quoted scalar"
  | .quotedEscape => "while parsing a quoted scalar"
  | .plainScalar => "while scanning a plain scalar"
  | .node => "while parsing a node"
  | .blockNode => "while parsing a block node"
  | .flowNode => "while parsing a flow node"
  | .blockCollection => "while parsing a block collection"
  | .blockMapping => "while parsing a block mapping"
  | .flowSequence => "while parsing a flow sequence"
  | .flowMapping => "while parsing a flow mapping"

inductive Fault where
  | unreadable (offset : Nat)
  | at (problem : Problem) (mark : Mark) (during : Option (Activity × Mark))
  deriving Repr, DecidableEq

namespace Fault

def mark : Fault → Mark
  | .unreadable _ => .start
  | .at _ mark _ => mark

def message : Fault → String
  | .unreadable offset =>
    Problem.controlCharacter.text ++
      if offset = 0 then "" else " at position " ++ toString offset
  | .at problem mark during =>
    problem.text ++ mark.text ++
      match during with
      | none => ""
      | some (activity, began) =>
        ", " ++ activity.text ++
          if began.line = mark.line ∧ began.column = mark.column then "" else began.text

end Fault

end CompletionRules.Yaml
