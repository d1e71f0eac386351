import CompletionRules.Toml.Fault

-- The tokens of a settings text. Signs stand for themselves; strings keep their quotes and escapes;
-- whatever else stands between blanks and signs is bare. No text is refused here.

namespace CompletionRules.Toml

inductive Quoting where
  | bare
  | literal
  | basic
  | literalLines
  | basicLines
  deriving Repr, DecidableEq

inductive TokenKind where
  | dot | equals | comma
  | openSquare | closeSquare | openCurly | closeCurly
  | blank | lineEnd | comment
  | content (quoting : Quoting)
  | textEnd
  deriving Repr, DecidableEq

structure Token where
  kind : TokenKind
  text : List Char
  span : Span
  deriving Repr, DecidableEq

namespace Token

def isBlankChar (c : Char) : Bool := c == ' ' || c == '\t'

def endsBare (c : Char) : Bool :=
  ['.', '=', ',', '[', ']', '\x7b', '\x7d', ' ', '\t', '#', '\r', '\n'].contains c

def literalLength : List Char → Nat
  | [] => 0
  | c :: rest => if c == '\'' then 1 else if c == '\n' then 0 else 1 + literalLength rest

def basicLength : List Char → Nat
  | [] => 0
  | '\\' :: '\\' :: rest => 2 + basicLength rest
  | '\\' :: '"' :: rest => 2 + basicLength rest
  | c :: rest => if c == '"' then 1 else if c == '\n' then 0 else 1 + basicLength rest

def closingLength (quote : Char) (text : List Char) : Nat :=
  3 + (((text.drop 3).take 2).takeWhile (· == quote)).length

def literalLinesLength : List Char → Nat
  | [] => 0
  | '\'' :: '\'' :: '\'' :: rest => closingLength '\'' ('\'' :: '\'' :: '\'' :: rest)
  | _ :: rest => 1 + literalLinesLength rest

def basicLinesLength : List Char → Nat
  | [] => 0
  | '"' :: '"' :: '"' :: rest => closingLength '"' ('"' :: '"' :: '"' :: rest)
  | '\\' :: _ :: rest => 2 + basicLinesLength rest
  | _ :: rest => 1 + basicLinesLength rest

def first (c : Char) (rest : List Char) : TokenKind × Nat :=
  match c, rest with
  | '.', _ => (.dot, 1)
  | '=', _ => (.equals, 1)
  | ',', _ => (.comma, 1)
  | '[', _ => (.openSquare, 1)
  | ']', _ => (.closeSquare, 1)
  | '\x7b', _ => (.openCurly, 1)
  | '\x7d', _ => (.closeCurly, 1)
  | ' ', _ | '\t', _ => (.blank, 1 + (rest.takeWhile isBlankChar).length)
  | '#', _ => (.comment, 1 + (rest.takeWhile fun c => c ≠ '\n' && c ≠ '\r').length)
  | '\n', _ => (.lineEnd, 1)
  | '\r', '\n' :: _ => (.lineEnd, 2)
  | '\r', _ => (.lineEnd, 1)
  | '\'', '\'' :: '\'' :: more => (.content .literalLines, 3 + literalLinesLength more)
  | '\'', _ => (.content .literal, 1 + literalLength rest)
  | '"', '"' :: '"' :: more => (.content .basicLines, 3 + basicLinesLength more)
  | '"', _ => (.content .basic, 1 + basicLength rest)
  | _, _ => (.content .bare, 1 + (rest.takeWhile fun c => !endsBare c).length)

def ofTextFrom : Nat → Nat → List Char → List Token
  | 0, place, _ => [⟨.textEnd, [], ⟨place, place⟩⟩]
  | _, place, [] => [⟨.textEnd, [], ⟨place, place⟩⟩]
  | room + 1, place, c :: rest =>
    let (kind, length) := first c rest
    let text := (c :: rest).take length
    let stop := place + Text.bytesIn text
    ⟨kind, text, ⟨place, stop⟩⟩ :: ofTextFrom room stop ((c :: rest).drop length)

def ofText (text : List Char) : List Token :=
  match text with
  | '\ufeff' :: rest => ofTextFrom (rest.length + 1) 3 rest
  | _ => ofTextFrom (text.length + 1) 0 text

end Token

end CompletionRules.Toml
