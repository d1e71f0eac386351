-- Words and lines as the shell has to read them. Text between single quotes is literal to the
-- shell; in the dollar form a backslash escapes the next character.

namespace CompletionRules.Script

-- A quote cannot stand between single quotes: the quotes are closed, a quote is written behind a
-- backslash, and they are opened again.
def quotedChars : List Char → List Char
  | [] => []
  | c :: rest => if c = '\'' then '\'' :: '\\' :: '\'' :: '\'' :: quotedChars rest else c :: quotedChars rest

def quoted (word : String) : String := .ofList ('\'' :: quotedChars word.toList ++ ['\''])

def isSpecial (c : Char) : Bool :=
  "()[]\x7b\x7d$*?|&;<>\x60\\\"'!^, \t\n".toList.contains c

def needsQuotes (word : List Char) : Bool :=
  word.isEmpty || word.any isSpecial || word.head? = some '~' || word.head? = some '#'

def bareOrQuoted (word : String) : String := if needsQuotes word.toList then quoted word else word

def escapedChars : List Char → List Char
  | [] => []
  | c :: rest =>
    if c = '\\' ∨ c = '\'' then '\\' :: c :: escapedChars rest else c :: escapedChars rest

def escaped (line : List Char) : List Char := '$' :: '\'' :: escapedChars line ++ ['\'']

-- Reads back what stands between the quotes; only a backslash and a quote may be escaped. A bare
-- quote inside is let through.
def unescapedChars? : List Char → Option (List Char)
  | [] => some []
  | '\\' :: c :: rest => if c = '\\' ∨ c = '\'' then (unescapedChars? rest).map (c :: ·) else none
  | c :: rest => if c = '\\' then none else (unescapedChars? rest).map (c :: ·)

def unescaped? : List Char → Option (List Char)
  | '$' :: '\'' :: rest => if rest.getLast? = some '\'' then unescapedChars? rest.dropLast else none
  | _ => none

end CompletionRules.Script
