import CompletionRules.Numeral.Shortest
import CompletionRules.Toml.Fault

namespace CompletionRules.Toml

-- How a table came to be. A header can open an implicit table later, and dotted keys can extend one
-- that dotted keys made; an inline table is complete.
inductive Form where
  | explicit
  | implicit
  | dotted
  | inline
  deriving Repr, DecidableEq

structure Key where
  name : String
  span : Span
  deriving Repr, DecidableEq

inductive Value where
  | string (text : String)
  | integer (value : Int)
  | unreadable
  | real (value : Binary64)
  | tooLarge
  | boolean (value : Bool)
  | dateTime
  | array (ofTables : Bool) (items : List (Span × Value))
  | table (form : Form) (entries : List (Key × Span × Value))

abbrev Entries := List (Key × Span × Value)

namespace Value

def kind : Value → String
  | .string _ => "string"
  | .integer _ | .unreadable => "integer"
  | .real _ | .tooLarge => "float"
  | .boolean _ => "boolean"
  | .dateTime => "datetime"
  | .array _ _ => "array"
  | .table .inline _ => "inline table"
  | .table _ _ => "table"

end Value

end CompletionRules.Toml
