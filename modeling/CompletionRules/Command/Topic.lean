-- Topics of the journal that a run of the command keeps on its work, each of which can be switched on.

namespace CompletionRules

inductive Topic where
  | load | flatten | validate | emit | simulate | install
  deriving Repr, DecidableEq

namespace Topic

def name : Topic → String
  | .load => "load"
  | .flatten => "flatten"
  | .validate => "validate"
  | .emit => "emit"
  | .simulate => "simulate"
  | .install => "install"

def all : List Topic := [.load, .flatten, .validate, .emit, .simulate, .install]

def ofName? (name : String) : Option Topic := all.find? fun topic => topic.name == name

end Topic

structure Journal where
  enabled : List Topic
  isOpen : Bool
  deriving Repr, DecidableEq

namespace Journal

def closed : Journal := ⟨[], false⟩

inductive EnableError where
  | notOpen
  deriving Repr, DecidableEq

def EnableError.message : EnableError → String
  | .notOpen => "tracing not initialized"

-- A topic that is on already needs no change. A new one is noted even when the journal is closed,
-- so that only the first attempt fails.
def enable (journal : Journal) (topic : Topic) : Journal × Option EnableError :=
  if topic ∈ journal.enabled then (journal, none)
  else
    ({ journal with enabled := journal.enabled ++ [topic] },
      if journal.isOpen then none else some .notOpen)

end Journal

end CompletionRules
