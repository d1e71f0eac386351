import CompletionRules.Text.Blank

-- The program, the words completed after it and the word under the cursor, which may be empty.

namespace CompletionRules

structure Request where
  program : String
  typed : List String
  current : String
  deriving Repr, DecidableEq

namespace Request

def endsBlank (line : String) : Bool := (line.toList.getLast?.map Text.isBlank).getD false

-- A line that ends in a blank has its cursor on a new, empty word. There is nothing to complete
-- while the cursor is still on the program.
def ofLine? (line : String) : Option Request :=
  match Text.words line with
  | [] => none
  | program :: rest =>
    if endsBlank line then some ⟨program, rest, ""⟩
    else match rest.getLast? with
      | none => none
      | some current => some ⟨program, rest.dropLast, current⟩

end Request

end CompletionRules
