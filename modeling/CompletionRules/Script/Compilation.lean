import CompletionRules.Script.Emit
import CompletionRules.Script.Wrapper
import CompletionRules.Table.Diagnostic

namespace CompletionRules

structure Compilation.Choices where
  functionName : Option String
  wrapper : Option String
  deriving Repr, DecidableEq

structure Compilation where
  functionName : String
  plain : String
  script : String
  diagnostics : List Diagnostic
  table : Table
  deriving Repr, DecidableEq

def Document.compile (document : Document) (choices : Compilation.Choices) : Compilation :=
  let table := document.table
  let name := choices.functionName.getD (Script.defaultFunctionName table)
  let plain := Script.emit table document.options name
  { functionName := name
    plain := plain
    script := match choices.wrapper with
      | some wrapper => Script.wrap plain wrapper
      | none => plain
    diagnostics := table.diagnostics
    table := table }

end CompletionRules
