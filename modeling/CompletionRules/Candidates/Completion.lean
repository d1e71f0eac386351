import CompletionRules.Candidates.Action
import CompletionRules.Candidates.Request
import CompletionRules.Table.Entry

-- What runs commands is a parameter in any monad, so that how often a command is run, and which, is told.

namespace CompletionRules

inductive Offer where
  | fixed (words : List String)
  | outputOf (command : String)
  deriving Repr, DecidableEq

namespace Source

def offer : Source → Offer
  | .words offered => .fixed (Candidates.ofWords offered).plain
  | .command text => if Text.isAllBlank text then .fixed [] else .outputOf text

end Source

namespace Table

def offer (table : Table) (program : String) (typed : List String) : Offer :=
  match table.find? program typed with
  | none => .fixed []
  | some entry => entry.source.offer

def complete {m : Type → Type} [Monad m] (table : Table) (run : String → m (Option String))
    (request : Request) : m (List String) := do
  let offered ← match table.offer request.program request.typed with
    | .fixed words => pure words
    | .outputOf command => do
      let output ← run command
      pure ((output.map Text.words).getD [])
  pure (offered.filter fun candidate => request.current.toList.isPrefixOf candidate.toList)

end Table

end CompletionRules
