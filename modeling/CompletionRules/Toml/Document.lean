import CompletionRules.Toml.Scalar

-- Tables out of statements. A header opens a table and may do so once; dotted keys make tables on
-- their way, and may extend only those that dotted keys made.

namespace CompletionRules.Toml

namespace Entries

def named? (name : String) (entries : Entries) : Option (Key × Span × Value) :=
  List.find? (fun entry => entry.1.name == name) entries

def replace (name : String) (value : Value) (entries : Entries) : Entries :=
  entries.map fun (key, span, old) => if key.name == name then (key, span, value) else (key, span, old)

inductive Following where
  | header
  | dotted
  | inline
  deriving Repr, DecidableEq

def closedTo? (following : Following) (form : Form) : Option Cause :=
  match following, form with
  | .header, .inline | .dotted, .inline => some (.notExtensible "inline table")
  | .dotted, .explicit | .inline, .explicit | .inline, .inline => some .duplicateKey
  | _, _ => none

-- Changes the table that a path leads to, and gives what the change gives besides. Tables on the way
-- that do not exist are made; of an array of tables the last one is meant.
def within {α : Type} (following : Following) (change : Form → Entries → Except Fault (α × Entries)) :
    List Key → Form → Entries → Except Fault (α × Entries)
  | [], form, entries => change form entries
  | key :: rest, _, entries =>
    let made := if following = .header then Form.implicit else Form.dotted
    match named? key.name entries with
    | none => do
      let (given, inner) ← within following change rest made []
      pure (given, entries ++ [(key, key.span, .table made inner)])
    | some (_, _, .table form inner) =>
      match closedTo? following form with
      | some cause => .error ⟨key.span, cause⟩
      | none => do
        let (given, changed) ← within following change rest form inner
        pure (given, replace key.name (.table form changed) entries)
    | some (_, _, .array true items) =>
      match items.getLast? with
      | some (span, .table form inner) => do
        let (given, changed) ← within following change rest form inner
        let others := items.dropLast
        pure (given, replace key.name (.array true (others ++ [(span, .table form changed)])) entries)
      | _ => .error ⟨key.span, .notExtensible "array"⟩
    | some (_, _, value) => .error ⟨key.span, .notExtensible value.kind⟩

def insert (following : Following) (path : List Key) (key : Key) (span : Span) (value : Value)
    (entries : Entries) : Except Fault Entries :=
  Prod.snd <$> within following (fun form inner =>
    if !path.isEmpty && form ≠ .dotted then .error ⟨key.span, .duplicateKey⟩
    else if (named? key.name inner).isSome then .error ⟨key.span, .duplicateKey⟩
    else .ok ((), inner ++ [(key, span, value)])) path .explicit entries

def remove (name : String) (entries : Entries) : Entries :=
  entries.filter fun entry => entry.1.name ≠ name

end Entries

def splitKeys (keys : List Key) : Option (List Key × Key) := keys.getLast?.map fun last => (keys.dropLast, last)

def longestPath : Nat := 79

def keysOf (written : List Written) : Except Fault (List Key) := do
  let keys ← written.mapM Quoted.key
  if keys.length > longestPath + 1 then throw ⟨⟨0, 0⟩, .tooManyKeys⟩
  pure keys

def assign (following : Entries.Following) (keys : List Written) (held : Except Fault (Span × Value))
    (entries : Entries) : Except Fault Entries := do
  let read ← keysOf keys
  let (span, value) ← held
  match splitKeys read with
  | some (path, key) => entries.insert following path key span value
  | none => pure entries

mutual

def WrittenValue.value : WrittenValue → Except Fault (Span × Value)
  | .scalar written => (Scalar.value written).map fun value => (written.span, value)
  | .array items span => do
    let held ← WrittenValue.values items
    pure (span, .array false held)
  | .table written span => do
    let held ← WrittenValue.entries [] written
    pure (span, .table .inline held)

def WrittenValue.values : List WrittenValue → Except Fault (List (Span × Value))
  | [] => .ok []
  | item :: rest => do
    let first ← item.value
    let others ← WrittenValue.values rest
    pure (first :: others)

def WrittenValue.entries : Entries → List (List Written × WrittenValue) → Except Fault Entries
  | entries, [] => .ok entries
  | entries, (keys, held) :: rest => do
    let next ← assign .inline keys held.value entries
    WrittenValue.entries next rest

end

structure Header where
  isArray : Bool
  path : List Key
  key : Key
  span : Span
  deriving Repr, DecidableEq

-- The tables so far, and the one that is open apart from them: it joins them when it ends. At first
-- that is the outermost table.
structure Building where
  root : Entries
  header : Option Header
  table : Entries

namespace Building

def start : Building := ⟨[], none, []⟩

def joinArray (header : Header) (table : Entries) (entries : Entries) : Except Fault Entries :=
  let next : Span × Value := (header.span, .table .explicit table)
  match entries.named? header.key.name with
  | none => .ok (entries ++ [(header.key, header.span, .array true [next])])
  | some (_, _, .array true items) =>
    .ok (entries.replace header.key.name (.array true (items ++ [next])))
  | some _ => .error ⟨header.key.span, .duplicateKey⟩

def finished (building : Building) : Except Fault Entries :=
  match building.header with
  | none => .ok building.table
  | some header =>
    Prod.snd <$> Entries.within .header (fun _ entries => do
      let joined ← if header.isArray then joinArray header building.table entries
        else .ok (entries ++ [(header.key, header.span, .table .explicit building.table)])
      pure ((), joined)) header.path .explicit building.root

-- A table may be opened that other headers led through, once; it is taken out while it is open.
def begun (header : Header) (root : Entries) : Except Fault Building :=
  if header.isArray then .ok ⟨root, some header, []⟩
  else do
    let name := header.key.name
    let (held, rest) ← Entries.within .header (fun _ entries =>
      match entries.named? name with
      | none => .ok ([], entries)
      | some (_, _, .table .implicit inner) => .ok (inner, entries.remove name)
      | some _ => .error ⟨header.key.span, .duplicateKey⟩) header.path .explicit root
    pure ⟨rest, some header, held⟩

def add (building : Building) : Statement → Except Fault Building
  | .header isArray written span => do
    let root ← building.finished
    let keys ← keysOf written
    match splitKeys keys with
    | none => pure ⟨root, none, []⟩
    | some (path, key) => begun ⟨isArray, path, key, span⟩ root
  | .assign written held => do
    let table ← assign .dotted written held.value building.table
    pure { building with table := table }

end Building

def Entries.ofText (text : String) : Except Fault Entries := do
  let statements ← Statement.ofText text.toList
  let building ← statements.foldlM Building.add .start
  building.finished

end CompletionRules.Toml
