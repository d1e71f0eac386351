import CompletionRules.Toml.Moment
import CompletionRules.Toml.Number

-- What scalars say: strings, truth values, numbers, dates and times. Every bare text that is none of
-- these is refused for what it comes closest to.

namespace CompletionRules.Toml.Scalar

open Quoted (refuse refuseAt)

def notQuoted {α : Type} (written : Written) : Except Fault α :=
  match ["'''", "\"\"\"", "'", "\""].find? fun quotes => quotes.toList.isSuffixOf written.text with
  | some quotes => refuse written 0 0 (.notOpened quotes)
  | none => .error ⟨written.span, .notQuoted⟩

def word (written : Written) (kind expected : String) (value : Value) : Except Fault Value :=
  if String.ofList written.text = expected then .ok value
  else if written.text.contains ' ' then notQuoted written
  else .error ⟨written.span, .badWord kind expected⟩

def signedWord (written : Written) (text : List Char) (expected : String) (value : Value) :
    Except Fault Value :=
  if String.ofList text = expected then .ok value else refuseAt written text [] (.badWord "float" expected)

def moment (written : Written) : Except Fault Value :=
  match Moment.check written.text with
  | .ok _ => .ok .dateTime
  | .error cause => .error ⟨written.span, cause⟩

def digits (written : Written) (value : List Char) : Except Fault Value :=
  match value.dropWhile Char.isDigit with
  | [] => do
    Number.checkNoLeadingZero written value
    Number.whole written Number.decimal written.text
  | c :: rest =>
    if c == '-' || c == ':' then moment written
    else if (c :: rest).contains ' ' then notQuoted written
    else if Number.looksReal (c :: rest) then Number.real written value
    else if c == '_' then do
      Number.checkNoLeadingZero written value
      Number.whole written Number.decimal written.text
    else notQuoted written

def afterZero (written : Written) (signed : Bool) (value : List Char) : Except Fault Value :=
  match value.drop 1 with
  | [] => Number.whole written Number.decimal written.text
  | 'x' :: _ | 'X' :: _ => Number.based written signed value Number.hexadecimal 'x'
  | 'o' :: _ | 'O' :: _ => Number.based written signed value Number.octal 'o'
  | 'b' :: _ | 'B' :: _ => Number.based written signed value Number.binary 'b'
  | 'd' :: rest | 'D' :: rest =>
    if signed then refuse written 0 1 .baseWithSign else refuseAt written value rest .decimalBase
  | _ => digits written value

def signed (written : Written) : List Char → Except Fault Value
  | [] => notQuoted written
  | c :: rest =>
    let value := c :: rest
    if c == '+' || c == '-' then refuseAt written value rest .secondSign
    else if c == '0' then afterZero written true value
    else if c.isDigit || c == '_' then digits written value
    else if c == '.' then Number.real written value
    else if c == 'i' || c == 'I' then
      signedWord written value "inf" (.real (.infinite (written.text.head? == some '-')))
    else if c == 'n' || c == 'N' then signedWord written value "nan" (.real .notANumber)
    else notQuoted written

def bare (written : Written) : Except Fault Value :=
  match written.text with
  | [] => notQuoted written
  | c :: rest =>
    if c == '+' || c == '-' then signed written rest
    else if c == '0' then afterZero written false written.text
    else if c.isDigit || c == '_' then digits written written.text
    else if c == '.' then Number.real written written.text
    else if c == 't' || c == 'T' then word written "boolean" "true" (.boolean true)
    else if c == 'f' || c == 'F' then word written "boolean" "false" (.boolean false)
    else if c == 'i' || c == 'I' then word written "float" "inf" (.real (.infinite false))
    else if c == 'n' || c == 'N' then word written "float" "nan" (.real .notANumber)
    else notQuoted written

def value (written : Written) : Except Fault Value :=
  match written.quoting with
  | .bare => bare written
  | _ => Value.string <$> Quoted.string written

end CompletionRules.Toml.Scalar
