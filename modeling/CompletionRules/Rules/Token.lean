import CompletionRules.Text.Blank

-- A pattern is a list of tokens; each asks for one word of the command line.

namespace CompletionRules

inductive Token where
  | word (text : String)
  | any
  deriving Repr, DecidableEq

namespace Token

def ofWord (text : String) : Token := if text = "*" then .any else .word text

def isAny : Token → Bool
  | .any => true
  | .word _ => false

def accepts (typed : String) : Token → Bool
  | .any => true
  | .word text => text == typed

def text : Token → String
  | .any => "*"
  | .word text => text

end Token

abbrev Pattern := List Token

namespace Pattern

def text (pattern : Pattern) : String := Text.joined " " (pattern.map Token.text)

def accepts : Pattern → List String → Bool
  | [], [] => true
  | token :: tokens, typed :: rest => token.accepts typed && accepts tokens rest
  | _, _ => false

end Pattern

structure Key where
  raw : String
  holdsWord : Text.words raw ≠ []
  deriving DecidableEq

namespace Key

def ofText? (raw : String) : Option Key :=
  if holdsWord : Text.words raw ≠ [] then some ⟨raw, holdsWord⟩ else none

def tokens (key : Key) : Pattern := (Text.words key.raw).map Token.ofWord

def startsWithAny (key : Key) : Bool := (key.tokens.head?.map Token.isAny).getD false

theorem tokens_ne_nil (key : Key) : key.tokens ≠ [] := by simp [tokens, key.holdsWord]

end Key

abbrev KeyPath := List String

namespace KeyPath

def text : KeyPath → String
  | [] => "<root>"
  | keys => Text.joined " > " keys

end KeyPath

end CompletionRules
