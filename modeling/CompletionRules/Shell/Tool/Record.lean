import CompletionRules.Numeral.Rounded
import CompletionRules.Shell.Search

-- Programs that are run on each record of a text. A program is a list of rules, each a pattern that
-- picks records and the statements that are carried out for them. A record is cut into fields.

namespace CompletionRules.Shell.Record

inductive Operator where
  | add
  | subtract
  | multiply
  | divide
  | remainder
  | power
  deriving Repr, DecidableEq

inductive Comparison where
  | below
  | atMost
  | equal
  | unequal
  | above
  | atLeast
  deriving Repr, DecidableEq

inductive Function where
  | length
  | part
  | place
  | split
  | replaceOne
  | replaceAll
  | find
  | format
  | lower
  | upper
  | whole
  | close
  deriving Repr, DecidableEq

-- A search that stands alone asks whether it is found in the record. `step` changes a target by one and has
-- the value from before or after that.
inductive Expression where
  | number (value : Binary64)
  | text (value : ByteText)
  | search (held : Search)
  | variable (name : ByteText)
  | element (array : ByteText) (keys : List Expression)
  | field (place : Expression)
  | assign (target : Expression) (operator : Option Operator) (value : Expression)
  | step (up before : Bool) (target : Expression)
  | calculate (operator : Operator) (left right : Expression)
  | both (left right : Expression)
  | either (left right : Expression)
  | negated (body : Expression)
  | minus (body : Expression)
  | plus (body : Expression)
  | compare (comparison : Comparison) (left right : Expression)
  | found (wanted : Bool) (text pattern : Expression)
  | joined (left right : Expression)
  | choose (condition consequence alternative : Expression)
  | isIn (keys : List Expression) (array : ByteText)
  | call (function : Function) (arguments : List Expression)
  | several (values : List Expression)

namespace Expression

instance : Inhabited Expression := ⟨.several []⟩

def isTarget : Expression → Bool
  | .variable _ | .element .. | .field _ => true
  | _ => false

end Expression

inductive Statement where
  | value (expression : Expression)
  | print (values : List Expression) (path : Option Expression)
  | printFormatted (values : List Expression) (path : Option Expression)
  | block (body : List Statement)
  | branch (condition : Expression) (consequence alternative : Statement)
  | loop (condition : Expression) (body : Statement)
  | loopAfter (body : Statement) (condition : Expression)
  | count (first : Statement) (condition : Expression) (step body : Statement)
  | each (name array : ByteText) (body : Statement)
  | leaveLoop
  | nextTurn
  | nextRecord
  | exit (status : Option Expression)
  | erase (array : ByteText) (keys : List Expression)

inductive Pattern where
  | atStart
  | atEnd
  | always
  | when (condition : Expression)
  | between (first last : Expression)

structure Rule where
  pattern : Pattern
  body : Statement

abbrev Program := List Rule

end CompletionRules.Shell.Record
