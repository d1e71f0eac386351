import CompletionRules.Host.Desk
import CompletionRules.Main
import CompletionRules.Proofs.Table.FirstMatch
import CompletionRules.Proofs.Script.Condition
import CompletionRules.Proofs.Script.Unwrapping
import CompletionRules.Proofs.Script.Printing
import CompletionRules.Proofs.Script.Acceptance
import CompletionRules.Proofs.Script.Branches
import CompletionRules.Proofs.Script.Embedding
import CompletionRules.Proofs.Script.Expansion
import CompletionRules.Proofs.Rules.Loaded
import CompletionRules.Proofs.Table.RootWalk
import CompletionRules.Proofs.Table.Problems
import CompletionRules.Proofs.Text.Words
import CompletionRules.Proofs.Candidates.Rearranged
import CompletionRules.Proofs.Candidates.Output
import CompletionRules.Proofs.Candidates.Supply
import CompletionRules.Proofs.Table.Served
import CompletionRules.Proofs.Rules.Grammar
import CompletionRules.Proofs.Rules.Options
import CompletionRules.Proofs.Command.Sessions
import CompletionRules.Proofs.Command.Agreement
import CompletionRules.Proofs.Command.Regeneration
import CompletionRules.Proofs.Candidates.CommandLine
import CompletionRules.Proofs.Script.Registration
import CompletionRules.Proofs.Install.Copying
import CompletionRules.Proofs.Files.Removed
import CompletionRules.Proofs.Install.Undoing
import CompletionRules.Proofs.Candidates.Parted
import CompletionRules.Proofs.Script.TestLine
import CompletionRules.Proofs.Table.Conflicts
import CompletionRules.Proofs.Table.PatternText
import CompletionRules.Proofs.Script.Declared
import CompletionRules.Proofs.Script.Locals
