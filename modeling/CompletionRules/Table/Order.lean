import CompletionRules.Table.Entry

-- The order in which entries are tried: shorter patterns first, a word before the any-token where two of one
-- length first differ, and then the order of the document. Overlapping patterns are kept.

namespace CompletionRules

def Pattern.mustPrecede : Pattern → Pattern → Bool
  | left :: lefts, right :: rights =>
    if left = right then mustPrecede lefts rights
    else match left, right with
      | .word _, .any => true
      | _, _ => false
  | _, _ => false

namespace Entry

-- Asked of `entry` about one already placed.
def goesBefore (entry placed : Entry) : Bool :=
  placed.pattern.length == entry.pattern.length && entry.pattern.mustPrecede placed.pattern

def place (entry : Entry) : List Entry → List Entry
  | [] => [entry]
  | placed :: rest =>
    if entry.goesBefore placed then entry :: placed :: rest else placed :: place entry rest

def placeAll (entries : List Entry) : List Entry := entries.foldl (fun placed entry => entry.place placed) []

def noLonger (left right : Entry) : Bool := left.pattern.length ≤ right.pattern.length

def order (entries : List Entry) : List Entry := (placeAll entries).mergeSort noLonger

end Entry

end CompletionRules
