import CompletionRules.Rules.Document

-- Rows of the flat table: one per leaf of the rule tree, in the order in which they are tried.

namespace CompletionRules

structure Entry where
  pattern : Pattern
  source : Source
  origin : KeyPath
  deriving Repr, DecidableEq

structure DeadEnd where
  pattern : Pattern
  origin : KeyPath
  deriving Repr, DecidableEq

namespace Entry

def program? (entry : Entry) : Option Token := entry.pattern.head?

def arguments (entry : Entry) : Pattern := entry.pattern.tail

def accepts (program : String) (typed : List String) (entry : Entry) : Bool :=
  (match entry.program? with
    | some token => token.accepts program
    | none => true) && entry.arguments.accepts typed

end Entry

structure Table where
  entries : List Entry
  deadEnds : List DeadEnd
  programs : List String
  deriving Repr, DecidableEq

def baseName (program : String) : String := .ofList (Text.lastPiece (· == '/') program.toList)

def Table.find? (table : Table) (program : String) (typed : List String) : Option Entry :=
  table.entries.find? (Entry.accepts (baseName program) typed)

end CompletionRules
