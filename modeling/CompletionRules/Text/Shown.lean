import CompletionRules.Text.Unseen

-- Texts as they are shown in messages, with escapes for what a reader could not see.

namespace CompletionRules.Text

def hexDigits (value : Nat) : String := .ofList (Nat.toDigits 16 value)

def shownChar (c : Char) : String :=
  if c == '\x00' then "\\0"
  else if c == '\t' then "\\t"
  else if c == '\n' then "\\n"
  else if c == '\r' then "\\r"
  else if c == '"' then "\\\""
  else if c == '\\' then "\\\\"
  else if isUnseen c then "\\u\x7b" ++ hexDigits c.toNat ++ "\x7d"
  else String.singleton c

def shown (text : String) : String :=
  "\"" ++ String.join (text.toList.map shownChar) ++ "\""

end CompletionRules.Text
