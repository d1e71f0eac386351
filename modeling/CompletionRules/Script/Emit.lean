import CompletionRules.Candidates.Completion
import CompletionRules.Script.Quote
import CompletionRules.Table.Flatten
import CompletionRules.Text.Lines

-- The completion script of a table: a shell function that walks the entries as one chain of tests in table
-- order and offers the candidates of the first that applies, and the line that registers the function.

namespace CompletionRules.Script

def registrationOption : String := "complete_options"

def anonymous : String := "comptree"

def nameChar (c : Char) : Char := if c.isAlphanum || c == '_' || c == '-' then c else '_'

def defaultFunctionName (table : Table) : String :=
  "_" ++ .ofList ((table.programs.head?.getD anonymous).toList.map nameChar) ++ "_completions"

def indented (depth : Nat) (text : String) : String :=
  if text.isEmpty then "" else .ofList (List.replicate (2 * depth) ' ') ++ text

structure Features where
  comparesProgram : Bool
  runsCommands : Bool
  usesActions : Bool
  deriving Repr, DecidableEq

namespace Features

def entryComparesProgram (entry : Entry) : Bool :=
  match entry.program? with
  | some (.word _) => true
  | _ => false

def sourceIsCommand : Source → Bool
  | .words _ => false
  | .command _ => true

def sourceUsesActions : Source → Bool
  | .words words => !(Candidates.ofWords words).actions.isEmpty
  | .command _ => false

def ofTable (table : Table) : Features where
  comparesProgram := table.entries.any entryComparesProgram
  runsCommands := table.entries.any fun entry => sourceIsCommand entry.source
  usesActions := table.entries.any fun entry => sourceUsesActions entry.source

end Features

def padded (width : Nat) (text : String) : String :=
  text ++ .ofList (List.replicate (width - text.length) ' ')

def shownPrograms (table : Table) : String :=
  if table.programs.isEmpty then anonymous else Text.joined ", " table.programs

def title (table : Table) : List String :=
  [padded 60 ("# " ++ shownPrograms table ++ " completion") ++ "-*- shell-script -*-",
    "",
    "# This bash completion script was generated by comptree.",
    "# Modifying it manually is not recommended.",
    ""]

def scratchNames (features : Features) : List String :=
  (if features.runsCommands then ["output"] else []) ++ ["word"] ++
    (if features.usesActions then ["action"] else [])

def prologue (features : Features) : List String :=
  ["  local cur=$\x7bCOMP_WORDS[COMP_CWORD]\x7d"] ++
    (if features.comparesProgram then ["  local program=$\x7b1##*/\x7d"] else []) ++
    ["  local -a words=()", "  local -a candidates=()"] ++
    (if features.usesActions then ["  local -a actions=()"] else []) ++
    ["  local IFS=$' \\t\\n'",
      "  local " ++ Text.joined " " (scratchNames features),
      "",
      "  COMPREPLY=()",
      "  if ((COMP_CWORD > 1)); then",
      "    words=(\"$\x7bCOMP_WORDS[@]:1:COMP_CWORD-1\x7d\")",
      "  fi",
      ""]

def wordTest (index : Nat) : Token → Option String
  | .any => none
  | .word text => some ("$\x7bwords[" ++ toString index ++ "]\x7d == " ++ quoted text)

def wordTests (index : Nat) : Pattern → List String
  | [] => []
  | token :: rest => (wordTest index token).toList ++ wordTests (index + 1) rest

def programTest : Option Token → List String
  | some (.word text) => ["$program == " ++ quoted text]
  | _ => []

def condition (entry : Entry) : String :=
  let count := "(($\x7b#words[@]\x7d == " ++ toString entry.arguments.length ++ "))"
  let tests := programTest entry.program? ++ wordTests 0 entry.arguments
  if tests.isEmpty then count else count ++ " && [[ " ++ Text.joined " && " tests ++ " ]]"

-- The lines of a command as they go into the script. Only the first is indented: the others may sit
-- inside a quoted text or end a here-document.
def commandLines (command : String) : List String :=
  match (Text.linesOf (Text.trimEnd command.toList)).map String.ofList with
  | [] => []
  | first :: others => indented 4 first :: others

def sourceLines : Source → List String
  | .words words =>
    let sorted := Candidates.ofWords words
    indented 2 ("candidates=(" ++ Text.joined " " (sorted.plain.map bareOrQuoted) ++ ")") ::
      (if sorted.actions.isEmpty then []
        else [indented 2 ("actions=(" ++ Text.joined " " (sorted.actions.map Action.name) ++ ")")])
  | .command text =>
    if Text.isAllBlank text then
      ["    # empty command; offers no candidates", "    candidates=()"]
    else
      ["    if output=$(", "      \x7b"] ++ commandLines text ++
        ["      \x7d 2>/dev/null", "    ); then",
          "      read -r -d '' -a candidates <<<\"$output\"", "    fi"]

def branchLines (keyword : String) (entry : Entry) : List String :=
  ("  " ++ keyword ++ " " ++ condition entry ++ "; then") :: sourceLines entry.source

def chain : List Entry → List String
  | [] => []
  | first :: others =>
    branchLines "if" first ++ others.flatMap (branchLines "elif") ++ ["  fi", ""]

def epilogue (features : Features) : List String :=
  ["  for word in \"$\x7bcandidates[@]\x7d\"; do",
    "    if [[ $word == \"$cur\"* ]]; then",
    "      COMPREPLY+=(\"$word\")",
    "    fi",
    "  done"] ++
    if features.usesActions then
      ["",
        "  for action in \"$\x7bactions[@]\x7d\"; do",
        "    while IFS= read -r word; do",
        "      COMPREPLY+=(\"$word\")",
        "    done < <(compgen -A \"$action\" -- \"$cur\")",
        "  done"]
    else []

def registrationOptions (options : List (String × String)) : List String :=
  match Pairs.find? registrationOption options with
  | none => []
  | some value => if Text.isAllBlank value then [] else [Text.trim value]

def registration (table : Table) (options : List (String × String)) (name : String) : List String :=
  if table.programs.isEmpty then ["\x7d"]
  else
    ["\x7d &&",
      "  " ++ Text.joined " " (["complete"] ++ registrationOptions options ++ ["-F", name] ++
        table.programs.map bareOrQuoted)]

def emitLines (table : Table) (options : List (String × String)) (name : String) : List String :=
  let features := Features.ofTable table
  title table ++ [name ++ "() \x7b"] ++ prologue features ++ chain table.entries ++
    epilogue features ++ registration table options name ++ ["", "# ex: filetype=sh"]

def emit (table : Table) (options : List (String × String)) (name : String) : String :=
  Text.joined "\n" (emitLines table options name) ++ "\n"

end CompletionRules.Script
