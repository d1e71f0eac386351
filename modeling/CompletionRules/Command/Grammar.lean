import CompletionRules.Command.Topic

-- What the command line may hold: one level of options before the task's name and one after it. The
-- second level also takes operands, in a fixed order.

namespace CompletionRules.Command

inductive TaskName where
  | generate | preview | validate | test | init | install | uninstall
  deriving Repr, DecidableEq

namespace TaskName

def name : TaskName → String
  | .generate => "generate"
  | .preview => "preview"
  | .validate => "validate"
  | .test => "test"
  | .init => "init"
  | .install => "install"
  | .uninstall => "uninstall"

def all : List TaskName := [.generate, .preview, .validate, .test, .init, .install, .uninstall]

def ofName? (name : String) : Option TaskName := all.find? fun task => task.name == name

end TaskName

inductive Field where
  | help | version
  | topics | plain | settings | noSettings
  | rules | newRules | output | functionName | wrapper | line | force | dry | program | script
  deriving Repr, DecidableEq

def Field.accepts : Field → String → Bool
  | .topics, value => (Topic.ofName? value).isSome
  | .settings, value | .newRules, value => !value.isEmpty
  | _, _ => true

inductive Usage where
  | flag
  | once
  | repeated
  deriving Repr, DecidableEq

structure Switch where
  field : Field
  usage : Usage
  long : String
  short : Option Char
  deriving Repr, DecidableEq

structure Level where
  switches : List Switch
  operands : List Field
  required : List Field
  fallbacks : List (Field × String)
  takesTask : Bool
  deriving Repr, DecidableEq

def commonSwitches : List Switch :=
  [⟨.topics, .repeated, "debug", none⟩, ⟨.plain, .flag, "disable-color", none⟩,
    ⟨.settings, .once, "config-file", none⟩, ⟨.noSettings, .flag, "no-config", none⟩,
    ⟨.help, .flag, "help", some 'h'⟩]

def topLevel : Level where
  switches := commonSwitches ++ [⟨.version, .flag, "version", some 'V'⟩]
  operands := []
  required := []
  fallbacks := []
  takesTask := true

def functionSwitch : Switch := ⟨.functionName, .once, "function", some 'f'⟩

def drySwitch : Switch := ⟨.dry, .flag, "dry", some 'd'⟩

def rulesVariable : String := "COMPTREE_CONFIG_PATH"

def outputVariable : String := "COMPTREE_OUTPUT_PATH"

def taskLevel (own : List Switch) (operands required : List Field)
    (fallbacks : List (Field × String)) : Level :=
  ⟨own ++ commonSwitches, operands, required, fallbacks, false⟩

def TaskName.level : TaskName → Level
  | .generate =>
    taskLevel [functionSwitch, ⟨.wrapper, .once, "wrap", some 'w'⟩] [.rules, .output] []
      [(.rules, rulesVariable), (.output, outputVariable)]
  | .preview => taskLevel [functionSwitch] [.rules] [] [(.rules, rulesVariable)]
  | .validate => taskLevel [] [.rules] [] [(.rules, rulesVariable)]
  | .test =>
    taskLevel [⟨.rules, .once, "config", some 'c'⟩] [.line] [.line] [(.rules, rulesVariable)]
  | .init => taskLevel [⟨.force, .flag, "force", none⟩] [.newRules] [] [(.newRules, rulesVariable)]
  | .install =>
    taskLevel [⟨.force, .flag, "force", some 'f'⟩, drySwitch] [.program, .script] [.program] []
  | .uninstall => taskLevel [drySwitch] [.program] [.program] []

def Level.long? (level : Level) (name : String) : Option Switch :=
  level.switches.find? fun switch => switch.long == name

def Level.short? (level : Level) (letter : Char) : Option Switch :=
  level.switches.find? fun switch => switch.short == some letter

end CompletionRules.Command
