-- The named classes of characters that patterns, searches and sets may ask for. They hold ASCII only.

namespace CompletionRules.Shell

abbrev CharRanges := List (Char × Char)

namespace CharRanges

def holds (ranges : CharRanges) (c : Char) : Bool := ranges.any fun (low, high) => low ≤ c && c ≤ high

def members (ranges : CharRanges) : List Char :=
  ranges.flatMap fun (low, high) =>
    (List.range (high.toNat + 1 - low.toNat)).map fun step => Char.ofNat (low.toNat + step)

end CharRanges

namespace CharClass

def ranges? : String → Option CharRanges
  | "lower" => some [('a', 'z')]
  | "upper" => some [('A', 'Z')]
  | "digit" => some [('0', '9')]
  | "alpha" => some [('A', 'Z'), ('a', 'z')]
  | "alnum" => some [('0', '9'), ('A', 'Z'), ('a', 'z')]
  | "xdigit" => some [('0', '9'), ('A', 'F'), ('a', 'f')]
  | "space" => some [('\t', '\r'), (' ', ' ')]
  | "blank" => some [('\t', '\t'), (' ', ' ')]
  | "cntrl" => some [('\x00', '\x1f'), ('\x7f', '\x7f')]
  | "graph" => some [('!', '~')]
  | "print" => some [(' ', '~')]
  | "punct" => some [('!', '/'), (':', '@'), ('[', '\x60'), ('\x7b', '~')]
  | _ => none

def named? : List Char → Option (String × List Char)
  | ':' :: text =>
    match text.dropWhile Char.isAlpha with
    | ':' :: ']' :: after => some (.ofList (text.takeWhile Char.isAlpha), after)
    | _ => none
  | _ => none

def wordRanges : CharRanges := [('0', '9'), ('A', 'Z'), ('_', '_'), ('a', 'z')]

def isWordChar (c : Char) : Bool := wordRanges.holds c

end CharClass

end CompletionRules.Shell
