import CompletionRules.Text.Pieces

-- Blanks are the characters of the property White_Space, which reaches beyond ASCII: the no-break space
-- counts, the zero-width space does not.

namespace CompletionRules.Text

def isBlank (c : Char) : Bool :=
  let code := c.toNat
  (9 ≤ code && code ≤ 13) || code == 0x20 || code == 0x85 || code == 0xA0 || code == 0x1680 ||
    (0x2000 ≤ code && code ≤ 0x200A) || code == 0x2028 || code == 0x2029 || code == 0x202F ||
    code == 0x205F || code == 0x3000

def wordsOf (text : List Char) : List (List Char) :=
  (pieces isBlank text).filter fun piece => !piece.isEmpty

def words (text : String) : List String := (wordsOf text.toList).map String.ofList

def trimStart (text : List Char) : List Char := text.dropWhile isBlank

def trimEnd (text : List Char) : List Char := (text.reverse.dropWhile isBlank).reverse

def trim (text : String) : String := String.ofList (trimEnd (trimStart text.toList))

def isAllBlank (text : String) : Bool := text.toList.all isBlank

theorem wordsOf_append_blank (left right : List Char) (c : Char) (blank : isBlank c = true) :
    wordsOf (left ++ c :: right) = wordsOf left ++ wordsOf right := by
  simp [wordsOf, pieces_append_separator _ _ _ _ blank]

end CompletionRules.Text
