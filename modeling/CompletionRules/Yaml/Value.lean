import CompletionRules.Numeral.Shortest

-- Values are what a text means once its scalars are resolved and its aliases expanded. A mapping holds no two
-- equal keys; its reader sees to that, the type does not say it.

namespace CompletionRules.Yaml

inductive Number where
  | integer (value : Int)
  | real (value : Binary64)
  deriving Repr, DecidableEq

def Number.text : Number → String
  | .integer value => toString value
  | .real value => value.text

def Number.same : Number → Number → Bool
  | .integer left, .integer right => left == right
  | .real left, .real right => left.same right
  | _, _ => false

mutual

inductive Value where
  | null
  | boolean (value : Bool)
  | number (value : Number)
  | string (value : String)
  | list (items : Items)
  | mapping (pairs : Pairs)
  | tagged (tag : String) (value : Value)

inductive Items where
  | nil
  | cons (value : Value) (rest : Items)

inductive Pairs where
  | nil
  | cons (key value : Value) (rest : Pairs)

end

instance : Inhabited Value := ⟨.null⟩

namespace Items

def ofList : List Value → Items
  | [] => .nil
  | value :: rest => .cons value (ofList rest)

def toList : Items → List Value
  | .nil => []
  | .cons value rest => value :: rest.toList

end Items

namespace Pairs

def ofList : List (Value × Value) → Pairs
  | [] => .nil
  | (key, value) :: rest => .cons key value (ofList rest)

def toList : Pairs → List (Value × Value)
  | .nil => []
  | .cons key value rest => (key, value) :: rest.toList

@[simp] theorem toList_ofList (pairs : List (Value × Value)) : (ofList pairs).toList = pairs := by
  induction pairs with
  | nil => rfl
  | cons pair rest ih => simp [ofList, toList, ih]

end Pairs

mutual

def Value.same : Value → Value → Bool
  | .null, .null => true
  | .boolean left, .boolean right => left == right
  | .number left, .number right => left.same right
  | .string left, .string right => left == right
  | .list left, .list right => left.same right.toList
  | .mapping left, .mapping right =>
    left.toList.length == right.toList.length && left.within right.toList
  | .tagged leftTag left, .tagged rightTag right => leftTag == rightTag && left.same right
  | _, _ => false

def Items.same : Items → List Value → Bool
  | .nil, [] => true
  | .cons value rest, other :: others => value.same other && rest.same others
  | _, _ => false

def Pairs.within : Pairs → List (Value × Value) → Bool
  | .nil, _ => true
  | .cons key value rest, others =>
    (others.any fun other => key.same other.1 && value.same other.2) && rest.within others

end

end CompletionRules.Yaml
