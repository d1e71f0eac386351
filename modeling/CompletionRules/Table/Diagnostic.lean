import CompletionRules.Candidates.Completion
import CompletionRules.Table.Flatten

-- Problems of a table advise the author of a document and never keep a script from being written.

namespace CompletionRules

inductive Problem where
  | emptyCandidates (origin : KeyPath)
  | blankCommand (origin : KeyPath)
  | duplicatePattern (origins : List KeyPath)
  | emptyBranch (origin : KeyPath)
  deriving Repr, DecidableEq

namespace Problem

def kind : Problem → String
  | .emptyCandidates _ => "empty-candidates"
  | .blankCommand _ => "malformed-dynamic-source"
  | .duplicatePattern _ => "duplicate-pattern"
  | .emptyBranch _ => "empty-branch"

def quoted (origin : KeyPath) : String := "'" ++ origin.text ++ "'"

def message : Problem → String
  | .emptyCandidates origin => quoted origin ++ " offers no candidates"
  | .blankCommand origin => quoted origin ++ " has an empty command"
  | .duplicatePattern origins =>
    "defined " ++ toString origins.length ++ " times: " ++ Text.joined ", " (origins.map quoted) ++
      "; only the first is used"
  | .emptyBranch origin => quoted origin ++ " has no entries"

def locations : Problem → List KeyPath
  | .emptyCandidates origin | .blankCommand origin | .emptyBranch origin => [origin]
  | .duplicatePattern origins => origins

end Problem

structure Diagnostic where
  pattern : Pattern
  problem : Problem
  deriving Repr, DecidableEq

def Diagnostic.text (diagnostic : Diagnostic) : String :=
  diagnostic.problem.kind ++ " [" ++ diagnostic.pattern.text ++ "]: " ++ diagnostic.problem.message

def Entry.sourceProblem? (entry : Entry) : Option Diagnostic :=
  match entry.source with
  | .words [] => some ⟨entry.pattern, .emptyCandidates entry.origin⟩
  | .words _ => none
  | .command text =>
    if Text.isAllBlank text then some ⟨entry.pattern, .blankCommand entry.origin⟩ else none

structure Group where
  pattern : Pattern
  origins : List KeyPath
  deriving Repr, DecidableEq

namespace Table

-- A word and the any-token are different tokens here, though the one also accepts the other's word.
def joinGroup (entry : Entry) : List Group → List Group
  | [] => [⟨entry.pattern, [entry.origin]⟩]
  | group :: rest =>
    if group.pattern = entry.pattern then ⟨group.pattern, group.origins ++ [entry.origin]⟩ :: rest
    else group :: joinGroup entry rest

def groups (entries : List Entry) : List Group :=
  entries.foldl (fun groups entry => joinGroup entry groups) []

def duplicates (entries : List Entry) : List Diagnostic :=
  (groups entries).filterMap fun group =>
    if group.origins.length < 2 then none
    else some ⟨group.pattern, .duplicatePattern group.origins⟩

def diagnostics (table : Table) : List Diagnostic :=
  table.entries.filterMap Entry.sourceProblem? ++ duplicates table.entries ++
    table.deadEnds.map fun deadEnd => ⟨deadEnd.pattern, .emptyBranch deadEnd.origin⟩

end Table

end CompletionRules
