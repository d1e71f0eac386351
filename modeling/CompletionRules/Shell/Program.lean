import CompletionRules.Shell.Builtin
import CompletionRules.Shell.Tool.Bytes
import CompletionRules.Shell.Tool.Calculation
import CompletionRules.Shell.Tool.Files
import CompletionRules.Shell.Tool.LineEdit.Reading
import CompletionRules.Shell.Tool.Lines
import CompletionRules.Shell.Tool.LineSearch
import CompletionRules.Shell.Tool.Record.Run

namespace CompletionRules.Shell

def readingFault (tool : String) (name : ByteText) (error : FileError) : String × Nat :=
  let shown := Text.citedIfNeeded name.toText
  let reason := error.reason
  match tool with
  | "grep" | "egrep" | "fgrep" => ("grep: " ++ name.toText ++ ": " ++ reason, 2)
  | "sort" => ("sort: cannot read: " ++ shown ++ ": " ++ reason, 2)
  | "sed" =>
    (if error = .isADirectory then "sed: couldn't edit " ++ name.toText ++ ": not a regular file"
      else "sed: can't read " ++ name.toText ++ ": " ++ reason, 2)
  | "head" | "tail" =>
    (if error = .isADirectory then tool ++ ": error reading " ++ Text.cited name.toText ++ ": " ++ reason
      else tool ++ ": cannot open " ++ Text.cited name.toText ++ " for reading: " ++ reason, 1)
  | "tac" => ("tac: failed to open " ++ Text.cited name.toText ++ " for reading: " ++ reason, 1)
  | "awk" | "mawk" => (tool ++ ": cannot open " ++ name.toText ++ " (" ++ reason ++ ")", 2)
  | "rev" => ("rev: cannot open " ++ name.toText ++ ": " ++ reason, 1)
  | _ => (tool ++ ": " ++ shown ++ ": " ++ reason, 1)

def misuseStatus : String → Nat
  | "awk" | "grep" | "egrep" | "fgrep" | "mawk" | "sort" | "ls" => 2
  | _ => 1

def needsAll (tool : String) : Bool := ["comm", "join", "paste", "sort"].contains tool

variable {m : Type → Type} [Monad m] [Disk m]

def readOperand (operand : ByteText) : Run m (Except FileError InputText) := do
  let text ← if operand = ['-'] then do
      if ((← get).channel? 0).isNone then pure (.error (.other "Bad file descriptor"))
      else pure (.ok (← readAll 0))
    else readFile operand
  pure (text.map fun held => ⟨operand, held⟩)

def runPlan (tool : String) (plan : Plan) : Run m Flow := do
  let results ← plan.names.mapM fun name => do
    match ← readOperand name with
    | .ok source => pure (some source, 0)
    | .error error => do
      let (message, status) := readingFault tool name error
      report message
      pure (none, status)
  let worst := (results.map Prod.snd).foldl max 0
  if worst > 0 && needsAll tool then finish worst
  else do
    let answer := plan.answer (results.filterMap Prod.fst)
    let written ← answer.written.mapM fun (path, text) => do
      match ← writeFile path text with
      | .ok _ => pure 0
      | .error error => do
        report (tool ++ ": " ++ Text.citedIfNeeded path.toText ++ ": " ++ error.reason)
        pure (misuseStatus tool)
    say answer.shown (written.foldl max (max worst answer.status))

def textTool? : String → Option (List ByteText → Option Plan)
  | "cat" => some Lines.cat
  | "rev" => some Lines.rev
  | "tac" => some Lines.tac
  | "head" => some Lines.head
  | "tail" => some Lines.tail
  | "wc" => some Lines.wc
  | "nl" => some Lines.nl
  | "sort" => some Order.sort
  | "uniq" => some Order.uniq
  | "comm" => some Order.comm
  | "join" => some Order.join
  | "tr" => some Fields.tr
  | "cut" => some Fields.cut
  | "paste" => some Fields.paste
  | "fold" => some Fields.fold
  | "expand" => some Fields.expand
  | "unexpand" => some Fields.unexpand
  | "grep" => some (LineSearch.grep "grep")
  | "egrep" => some (LineSearch.grep "egrep")
  | "fgrep" => some (LineSearch.grep "fgrep")
  | "sed" => some LineEdit.sed
  | "awk" | "mawk" => some Record.awk
  | "od" => some Bytes.od
  | "base64" => some Bytes.base64
  | _ => none

def plentyOfLines : Nat := 8192

def yes (arguments : List ByteText) : Answer :=
  let line := if arguments.isEmpty then ['y'] else [' '].intercalate arguments
  ⟨ByteText.ofLines (List.replicate plentyOfLines line), 128 + 13, []⟩

def calculation? : String → Option (List ByteText → Answer)
  | "seq" => some Calculation.seq
  | "expr" => some Calculation.expr
  | "factor" => some Calculation.factor
  | "basename" => some Calculation.basename
  | "dirname" => some Calculation.dirname
  | "echo" => some Calculation.echo
  | "yes" => some yes
  | "whoami" => some fun _ => ⟨"root\n".toList, 0, []⟩
  | "uname" => some fun arguments =>
    match arguments with
    | [] | [['-', 's']] => ⟨"Linux\n".toList, 0, []⟩
    | [['-', 'm']] => ⟨"x86_64\n".toList, 0, []⟩
    | [['-', 'o']] => ⟨"GNU/Linux\n".toList, 0, []⟩
    | _ => ⟨[], 0, []⟩
  | "arch" => some fun _ => ⟨"x86_64\n".toList, 0, []⟩
  | "hostname" => some fun _ => ⟨"localhost\n".toList, 0, []⟩
  | "nproc" => some fun _ => ⟨"1\n".toList, 0, []⟩
  | "id" => some fun arguments =>
    ⟨(if arguments = [['-', 'u']] || arguments = [['-', 'g']] then "0\n"
      else if arguments = [['-', 'u', 'n']] || arguments = [['-', 'g', 'n']] then "root\n"
      else "uid=0(root) gid=0(root) groups=0(root)\n").toList, 0, []⟩
  | "tty" => some fun arguments => ⟨if arguments = [['-', 's']] then [] else "not a tty\n".toList, 1, []⟩
  | _ => none

def printVariables (arguments : List ByteText) : Run m Flow := do
  let environment := (← get).environment
  if arguments.isEmpty then
    say (ByteText.ofLines (environment.reverse.map fun (name, value) => ByteText.ofString (name ++ "=" ++ value))) 0
  else
    let values := arguments.map fun name => environment.value? (ByteText.name name)
    say (ByteText.ofLines (values.filterMap fun value => value.map ByteText.ofString))
      (isSuccess (values.all Option.isSome))

def isDuration (text : ByteText) : Bool :=
  let digits := text.takeWhile fun c => c.isDigit || c == '.'
  !digits.isEmpty && ["", "s", "m", "h", "d"].contains (ByteText.name (text.drop digits.length))

def fileTool? : String → Option (Action m)
  | "ls" => some Files.list
  | "rm" => some Files.remove
  | "mkdir" => some Files.makeDirectories
  | "rmdir" => some Files.removeDirectories
  | "touch" => some Files.touch
  | "cp" => some Files.copy
  | "mv" => some Files.rename
  | "tee" => some Files.splitOutput
  | "mktemp" => some Files.temporary
  | "realpath" | "readlink" => some Files.realPaths
  | "find" => some Files.find
  | "printenv" => some printVariables
  | "sleep" => some fun arguments =>
    finish (isSuccess (!arguments.isEmpty && arguments.all isDuration))
  | "chmod" | "sync" => some (simply 0)
  | _ => none

def sharedNames : List String := ["true", "false", "printf", "test", "[", "pwd", "kill"]

def program? (name : String) : Option (Action m) :=
  match textTool? name, calculation? name with
  | some plan, _ => some fun arguments =>
    match plan arguments with
    | some held => runPlan name held
    | none => do
      report (name ++ ": invalid usage")
      finish (misuseStatus name)
  | none, some answer => some fun arguments =>
    let held := answer arguments
    say held.shown held.status
  | none, none => if sharedNames.contains name then builtin? name else fileTool? name

def runnerNames : List String :=
  ["sh", "dash", "bash", "env", "xargs", "timeout", "nice", "nohup", "stdbuf", "which"]

def otherNames : List String :=
  ["chown", "cksum", "cmp", "cp", "csplit", "date", "dd", "df", "diff", "du", "fmt", "getent",
    "gzip", "hostid", "install", "link", "ln", "logname", "md5sum", "mkfifo", "mknod",
    "more", "numfmt", "pathchk", "perl", "pr", "ptx", "sha1sum", "sha256sum", "sha512sum", "shred",
    "shuf", "split", "stat", "stty", "sum", "tar", "truncate", "tsort", "unlink", "users", "who"]

end CompletionRules.Shell
