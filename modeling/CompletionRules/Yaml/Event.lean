import CompletionRules.Yaml.Token

namespace CompletionRules.Yaml

structure Properties where
  anchor : Option String
  tag : Option (List UInt8)
  deriving Repr, DecidableEq

def Properties.none : Properties := ⟨.none, .none⟩

inductive EventKind where
  | documentStart
  | documentEnd
  | streamEnd
  | alias (name : String)
  | scalar (properties : Properties) (text : String) (plain : Bool)
  | sequenceStart (properties : Properties)
  | sequenceEnd
  | mappingStart (properties : Properties)
  | mappingEnd
  deriving Repr, DecidableEq

structure Event where
  kind : EventKind
  mark : Mark
  deriving Repr, DecidableEq

end CompletionRules.Yaml
