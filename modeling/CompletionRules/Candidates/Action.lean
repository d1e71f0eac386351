-- Actions ask the shell itself for candidates: file names, users, jobs and the like. A candidate
-- word stands for an action when it is the action's name in angle brackets.

namespace CompletionRules

inductive Action where
  | aliases | arrayVariables | bindings | builtins | commands | directories | disabled | enabled
  | exported | files | functions | groups | helpTopics | hostNames | jobs | keywords | running
  | services | setOptions | shellOptions | signals | stopped | users | shellVariables
  deriving Repr, DecidableEq

namespace Action

def label : Action → String
  | .aliases => "Alias"
  | .arrayVariables => "ArrayVar"
  | .bindings => "Binding"
  | .builtins => "Builtin"
  | .commands => "Command"
  | .directories => "Directory"
  | .disabled => "Disabled"
  | .enabled => "Enabled"
  | .exported => "Export"
  | .files => "File"
  | .functions => "Function"
  | .groups => "Group"
  | .helpTopics => "HelpTopic"
  | .hostNames => "HostName"
  | .jobs => "Job"
  | .keywords => "Keyword"
  | .running => "Running"
  | .services => "Service"
  | .setOptions => "SetOpt"
  | .shellOptions => "ShOpt"
  | .signals => "Signal"
  | .stopped => "Stopped"
  | .users => "User"
  | .shellVariables => "Variable"

def name (action : Action) : String := action.label.toLower

def all : List Action :=
  [.aliases, .arrayVariables, .bindings, .builtins, .commands, .directories, .disabled, .enabled,
    .exported, .files, .functions, .groups, .helpTopics, .hostNames, .jobs, .keywords, .running,
    .services, .setOptions, .shellOptions, .signals, .stopped, .users, .shellVariables]

theorem mem_all (action : Action) : action ∈ all := by cases action <;> simp [all]

def ofName? (name : String) : Option Action := all.find? fun action => action.name == name

end Action

inductive Candidate where
  | word (text : String)
  | action (action : Action)
  deriving Repr, DecidableEq

namespace Candidate

def bracketed? (word : List Char) : Option (List Char) :=
  match word with
  | '<' :: rest => if rest.getLast? = some '>' then some rest.dropLast else none
  | _ => none

def ofWord (word : String) : Candidate :=
  match (bracketed? word.toList).bind fun name => Action.ofName? (.ofList name) with
  | some meant => .action meant
  | none => .word word

end Candidate

-- Plain words keep their repetitions; an action is listed once, where it is first met.
structure Candidates where
  plain : List String
  actions : List Action
  deriving Repr, DecidableEq

namespace Candidates

def add (sorted : Candidates) (word : String) : Candidates :=
  match Candidate.ofWord word with
  | .word text => { sorted with plain := sorted.plain ++ [text] }
  | .action action =>
    if action ∈ sorted.actions then sorted else { sorted with actions := sorted.actions ++ [action] }

def ofWords (words : List String) : Candidates := words.foldl add ⟨[], []⟩

end Candidates

end CompletionRules
