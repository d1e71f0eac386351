import CompletionRules.Command.Reading
import CompletionRules.Files.Path

-- What the command is asked to do: one task with its own options, and the options that every task has.

namespace CompletionRules.Command

def defaultRulesPath : String := "comptree.yaml"

def defaultScriptPath : String := "comptree.bash"

def standardPath : String := "-"

inductive Task where
  | generate (rules : String) (output functionName wrapper : Option String)
  | preview (rules : String) (functionName : Option String)
  | validate (rules : String)
  | test (line rules : String)
  | init (rules : String) (force : Bool)
  | install (program script : String) (force dry : Bool)
  | uninstall (program : String) (dry : Bool)
  deriving Repr, DecidableEq

def outputPath (rules : String) (output : Option String) : String :=
  match output with
  | some path => path
  | none => if rules = standardPath then standardPath else Path.withExtension rules "bash"

structure Invocation where
  task : Task
  topics : List Topic
  plain : Bool
  settings : Option String
  noSettings : Bool
  deriving Repr, DecidableEq

def Reading.rules (reading : Reading) (field : Field) : String :=
  (reading.value? field).getD defaultRulesPath

def TaskName.task (name : TaskName) (reading : Reading) : Task :=
  match name with
  | .generate =>
    .generate (reading.rules .rules) (reading.value? .output) (reading.value? .functionName)
      (reading.value? .wrapper)
  | .preview => .preview (reading.rules .rules) (reading.value? .functionName)
  | .validate => .validate (reading.rules .rules)
  | .test => .test ((reading.value? .line).getD "") (reading.rules .rules)
  | .init => .init (reading.rules .newRules) (reading.isGiven .force)
  | .install =>
    .install ((reading.value? .program).getD "")
      ((reading.value? .script).getD defaultScriptPath) (reading.isGiven .force)
      (reading.isGiven .dry)
  | .uninstall => .uninstall ((reading.value? .program).getD "") (reading.isGiven .dry)

-- An option given at both levels counts as it stands after the task's name.
def Reading.innermost (outer inner : Reading) (field : Field) : List String :=
  if inner.isGiven field then inner.values field else outer.values field

def Invocation.ofReadings (name : TaskName) (outer inner : Reading) : Invocation where
  task := name.task inner
  topics := (outer.innermost inner .topics).filterMap Topic.ofName?
  plain := outer.isGiven .plain || inner.isGiven .plain
  settings := (outer.innermost inner .settings).head?
  noSettings := outer.isGiven .noSettings || inner.isGiven .noSettings

def refuseHelp : List String → Refusal
  | [] => .help
  | [word] => if Reading.namesTask word then .help else .unknownTask
  | _ => .unknownTask

def withoutTask (outer : Reading) : Refusal :=
  if outer.given.isEmpty then .nothingGiven else .missingTask

def Invocation.ofWords (environment : List (String × String)) (words : List String) :
    Except Refusal Invocation := do
  let (outer, rest) ← (Reading.start topLevel).read topLevel words
  match rest with
  | none => do
    let settled ← outer.settle
    .error (withoutTask settled)
  | some (word, others) =>
    match TaskName.ofName? word with
    | none => .error (refuseHelp others)
    | some name => do
      let (inner, _) ← (Reading.start name.level).read name.level others
      let finished ← inner.finish environment name.level
      let outer ← outer.finish environment topLevel
      pure (.ofReadings name outer finished)

end CompletionRules.Command
