import CompletionRules.Shell.Pattern

-- What a line is searched for. Where an expression may end is a list of places, the ones that take
-- more of the line first; of all ends the longest counts, and of equally long ones the first.

namespace CompletionRules.Shell

inductive Search where
  | nothing
  | one (mark : Mark)
  | lineStart
  | lineEnd
  | textStart
  | textEnd
  | wordStart
  | wordEnd
  | wordEdge (wanted : Bool)
  | group (number : Nat) (body : Search)
  | again (number : Nat)
  | either (left right : Search)
  | both (first second : Search)
  | repeated (least : Nat) (most : Option Nat) (body : Search)
  deriving Repr, DecidableEq

structure Place where
  passed : ByteText
  ahead : ByteText
  held : List (Nat × ByteText)
  deriving Repr, DecidableEq

structure Manner where
  folded : Bool
  byLine : Bool
  deriving Repr, DecidableEq

def Manner.accepts (manner : Manner) (mark : Mark) (c : Char) : Bool :=
  mark.accepts c || (manner.folded && (mark.accepts c.toLower || mark.accepts c.toUpper))

def Manner.equates (manner : Manner) (left right : Char) : Bool :=
  left == right || (manner.folded && left.toLower == right.toLower)

namespace Place

def start (text : ByteText) : Place := ⟨[], text, []⟩

def step (place : Place) : Option Place :=
  match place.ahead with
  | [] => none
  | c :: rest => some { place with passed := c :: place.passed, ahead := rest }

def between (first last : Place) : ByteText := first.ahead.take (first.ahead.length - last.ahead.length)

def advance (place : Place) (count : Nat) : Place :=
  { place with
    passed := (place.ahead.take count).reverse ++ place.passed
    ahead := place.ahead.drop count }

def group? (place : Place) (number : Nat) : Option ByteText :=
  (place.held.find? fun entry => entry.1 == number).map Prod.snd

def isAfterWord (place : Place) : Bool := place.passed.head?.any CharClass.isWordChar

def isBeforeWord (place : Place) : Bool := place.ahead.head?.any CharClass.isWordChar

def distinct (places : List Place) : List Place :=
  places.foldr (fun place others => place :: others.filter fun other =>
    !(other.ahead.length == place.ahead.length && other.held == place.held)) []

end Place

namespace Search

def onlyIf (holds : Bool) (place : Place) : List Place := if holds then [place] else []

-- As often as allowed. A turn that takes nothing is the last one.
def turns (once : Place → List Place) : Nat → Nat → Option Nat → Place → List Place
  | 0, least, _, place => onlyIf (least == 0) place
  | room + 1, least, most, place =>
    let further := if most = some 0 then [] else (once place).flatMap fun next =>
      if next.ahead.length < place.ahead.length then
        turns once room (least - 1) (most.map (· - 1)) next
      else onlyIf (least > 0) next
    Place.distinct (further ++ onlyIf (least == 0) place)

def ends (manner : Manner) : Search → Place → List Place
  | .nothing, place => [place]
  | .one mark, place =>
    match place.ahead with
    | c :: _ => if manner.accepts mark c then place.step.toList else []
    | [] => []
  | .lineStart, place =>
    onlyIf (place.passed.isEmpty || (manner.byLine && place.passed.head? = some '\n')) place
  | .lineEnd, place =>
    onlyIf (place.ahead.isEmpty || (manner.byLine && place.ahead.head? = some '\n')) place
  | .textStart, place => onlyIf place.passed.isEmpty place
  | .textEnd, place => onlyIf place.ahead.isEmpty place
  | .wordStart, place => onlyIf (!place.isAfterWord && place.isBeforeWord) place
  | .wordEnd, place => onlyIf (place.isAfterWord && !place.isBeforeWord) place
  | .wordEdge wanted, place => onlyIf ((place.isAfterWord != place.isBeforeWord) == wanted) place
  | .group number body, place =>
    (ends manner body place).map fun last =>
      { last with
        held := (number, place.between last) :: last.held.filter fun entry => entry.1 != number }
  | .again number, place =>
    match place.group? number with
    | none => []
    | some text =>
      let ahead := place.ahead.take text.length
      onlyIf (ahead.length == text.length &&
        (ahead.zip text).all fun (left, right) => manner.equates left right) (place.advance text.length)
  | .either left right, place => Place.distinct (ends manner left place ++ ends manner right place)
  | .both first second, place => Place.distinct ((ends manner first place).flatMap (ends manner second))
  | .repeated least most body, place =>
    turns (ends manner body) (place.ahead.length + least + 1) least most place

def longest? : List Place → Option Place
  | [] => none
  | place :: others =>
    match longest? others with
    | none => some place
    | some other => some (if other.ahead.length < place.ahead.length then other else place)

def find (ends : Place → List Place) : Nat → Place → Option (Place × Place)
  | 0, _ => none
  | room + 1, place =>
    match longest? (ends place) with
    | some last => some (place, last)
    | none => place.step.bind (find ends room)

def findFrom (search : Search) (manner : Manner) (place : Place) : Option (Place × Place) :=
  find (search.ends manner) (place.ahead.length + 1) place

end Search

end CompletionRules.Shell
