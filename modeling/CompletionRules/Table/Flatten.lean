import CompletionRules.Table.Order

-- Flattening walks the rule tree and writes down what it meets, leaf or empty branch. Below the root, keys
-- that start with a word are walked before the others; the root keys are walked as they stand.

namespace CompletionRules

inductive Visit where
  | entry (entry : Entry)
  | deadEnd (deadEnd : DeadEnd)
  deriving Repr, DecidableEq

namespace Visit

def entry? : Visit → Option Entry
  | .entry row => some row
  | .deadEnd _ => none

def deadEnd? : Visit → Option DeadEnd
  | .entry _ => none
  | .deadEnd stop => some stop

end Visit

mutual

def Tree.visits (pattern : Pattern) (origin : KeyPath) : Tree → List Visit
  | .leaf source => [.entry ⟨pattern, source, origin⟩]
  | .branch .nil => [.deadEnd ⟨pattern, origin⟩]
  | .branch (.cons key tree rest) =>
    Children.visits pattern origin false (.cons key tree rest) ++
      Children.visits pattern origin true (.cons key tree rest)

def Children.visits (pattern : Pattern) (origin : KeyPath) (anyFirst : Bool) : Children → List Visit
  | .nil => []
  | .cons key tree rest =>
    (if key.startsWithAny = anyFirst then tree.visits (pattern ++ key.tokens) (origin ++ [key.raw])
      else []) ++ rest.visits pattern origin anyFirst

end

namespace Document

def visits (document : Document) : List Visit :=
  document.roots.flatMap fun (key, tree) => tree.visits key.tokens [key.raw]

def table (document : Document) : Table where
  entries := Entry.order (document.visits.filterMap Visit.entry?)
  deadEnds := document.visits.filterMap Visit.deadEnd?
  programs := document.programs

end Document

end CompletionRules
