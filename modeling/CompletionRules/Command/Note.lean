import CompletionRules.Command.Topic
import CompletionRules.Rules.Load
import CompletionRules.Script.Compilation

-- Lines of the journal. A detail belongs to a topic and is written when the topic is on; a warning
-- is always written.

namespace CompletionRules

inductive Note where
  | detail (topic : Topic) (text : String)
  | warning (text : String)
  deriving Repr, DecidableEq

namespace Note

def steersTerminal (c : Char) : Bool := ['\x1b', '\x07', '\x08', '\x0c', '\x7f'].contains c

def spelled (c : Char) : String :=
  if steersTerminal c then
    "\\x" ++ (if c.toNat < 16 then "0" else "") ++ Text.hexDigits c.toNat
  else if 0x80 ≤ c.toNat ∧ c.toNat ≤ 0x9f then "\\u\x7b" ++ Text.hexDigits c.toNat ++ "\x7d"
  else String.singleton c

def spelledOut (text : String) : String := String.join (text.toList.map spelled)

def line : Note → String
  | .detail _ text => "DEBUG " ++ spelledOut text ++ "\n"
  | .warning text => " WARN " ++ spelledOut text ++ "\n"

end Note

def Journal.writes (journal : Journal) : Note → Bool
  | .detail topic _ => journal.enabled.contains topic
  | .warning _ => true

def Journal.lines (journal : Journal) (notes : List Note) : String :=
  String.join ((notes.filter journal.writes).map Note.line)

def Document.loadNotes (document : Document) : Yaml.Value → List Note
  | .null => []
  | _ => [.detail .load
      ("loaded " ++ toString document.roots.length ++ " root key(s), " ++
        toString document.root.leafCount ++ " leaf node(s), " ++
        toString document.options.length ++ " option(s)")]

def LoadError.note (error : LoadError) : Note :=
  .detail .load ("failed to load configuration: " ++ error.message)

def Entry.note (entry : Entry) (index : Nat) : Note :=
  .detail .flatten
    ("entry " ++ toString index ++ ": [" ++ entry.pattern.text ++ "] <- " ++ entry.origin.text)

def Diagnostic.note (diagnostic : Diagnostic) : Note := .detail .validate diagnostic.text

def Document.optionNotes (document : Document) : List Note :=
  (document.options.filter fun option => option.1 ≠ Script.registrationOption).map fun (name, _) =>
    .warning ("ignoring unknown option '" ++ name ++ "'")

def Compilation.emitNote (made : Compilation) : Note :=
  .detail .emit
    ("emitted " ++ made.functionName ++ " with " ++ toString made.table.entries.length ++
      " branch(es), " ++ toString made.plain.utf8ByteSize ++ " byte(s)")

def Compilation.notes (made : Compilation) (document : Document) : List Note :=
  made.table.entries.mapIdx (fun index entry => entry.note index) ++
    made.diagnostics.map Diagnostic.note ++ document.optionNotes ++ [made.emitNote]

def Source.skippedNotes : Source → List Note
  | .words offered =>
    let actions := (Candidates.ofWords offered).actions
    if actions.isEmpty then []
    else [.detail .simulate ("skipping actions: [" ++ Text.joined ", " (actions.map Action.label) ++ "]")]
  | .command _ => []

def Table.matchNotes (table : Table) (request : Request) : List Note :=
  match table.find? request.program request.typed with
  | none => [.detail .simulate "no entry matches"]
  | some entry =>
    .detail .simulate
        ("matched [" ++ entry.pattern.text ++ "] from '" ++ entry.origin.text ++ "'") ::
      entry.source.skippedNotes

end CompletionRules
