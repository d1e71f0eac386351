import CompletionRules.Shell.Tool.Record.Value

-- Running a program on the records of its texts. Every step takes one from a depth that bounds how long
-- a program may go on.

namespace CompletionRules.Shell.Record

structure World where
  scalars : List (ByteText × Value)
  arrays : List (ByteText × List (ByteText × Value))
  record : ByteText
  fields : List ByteText
  shown : ByteText
  written : List (ByteText × ByteText)
  opened : List Nat
  status : Nat

inductive Leaving where
  | loop
  | turn
  | record
  | program
  | fault
  deriving Repr, DecidableEq

abbrev Steps := ExceptT Leaving (StateM World)

namespace World

def firstScalars : List (ByteText × Value) :=
  [("FS".toList, .text [' ']), ("OFS".toList, .text [' ']), ("ORS".toList, .text ['\n']),
    ("RS".toList, .text ['\n']), ("CONVFMT".toList, .text "%.6g".toList),
    ("OFMT".toList, .text "%.6g".toList), ("SUBSEP".toList, .text ['\x1c']), ("NR".toList, Value.ofNat 0),
    ("FNR".toList, Value.ofNat 0), ("RSTART".toList, Value.ofNat 0),
    ("RLENGTH".toList, .number (Binary64.ofInt (-1)))]

def start (environment : List (ByteText × ByteText)) : World :=
  { scalars := firstScalars
    arrays := [("ENVIRON".toList, environment.map fun (name, value) => (name, .read value))]
    record := []
    fields := []
    shown := []
    written := []
    opened := []
    status := 0 }

def value (world : World) (name : ByteText) : Value :=
  if name = "NF".toList then Value.ofNat world.fields.length
  else (Pairs.find? name world.scalars).getD .absent

def form (world : World) : ByteText := (world.value "CONVFMT".toList).toText []

def text (world : World) (name : String) : ByteText := (world.value name.toList).toText world.form

def parting (world : World) : Parting := Parting.ofText (world.text "FS")

def setRecord (world : World) (text : ByteText) : World :=
  { world with record := text, fields := world.parting.fields text }

def setFields (world : World) (fields : List ByteText) : World :=
  { world with fields := fields, record := (world.text "OFS").intercalate fields }

def setField (world : World) (place : Nat) (text : ByteText) : World :=
  if place = 0 then world.setRecord text
  else
    let fields := world.fields ++ List.replicate (place - world.fields.length) []
    world.setFields (fields.set (place - 1) text)

def setValue (world : World) (name : ByteText) (value : Value) : World :=
  if name = "NF".toList then
    let count := (value.toNumber.truncated.whole?.getD 0).toNat
    world.setFields (world.fields.take count ++ List.replicate (count - world.fields.length) [])
  else { world with scalars := (name, value) :: Pairs.erase name world.scalars }

def elements (world : World) (array : ByteText) : List (ByteText × Value) :=
  (Pairs.find? array world.arrays).getD []

def setElements (world : World) (array : ByteText) (held : List (ByteText × Value)) : World :=
  { world with arrays := (array, held) :: Pairs.erase array world.arrays }

def setElement (world : World) (array key : ByteText) (value : Value) : World :=
  world.setElements array ((key, value) :: Pairs.erase key (world.elements array))

def keys (world : World) (array : ByteText) : List ByteText :=
  ((world.elements array).map Prod.fst).mergeSort fun left right => slot left ≤ slot right

def print (world : World) (text : ByteText) : Option ByteText → World
  | none => { world with shown := world.shown ++ text }
  | some path =>
    if path = "/dev/stdout".toList || path = ['-'] then { world with shown := world.shown ++ text }
    else
      let before := (Pairs.find? path world.written).getD []
      { world with written := Pairs.erase path world.written ++ [(path, before ++ text)] }

end World

def leave {α : Type} (why : Leaving) : Steps α := throw why

inductive Target where
  | variable (name : ByteText)
  | element (array key : ByteText)
  | field (place : Nat)

def Target.value (world : World) : Target → Value
  | .variable name => world.value name
  | .element array key => (Pairs.find? key (world.elements array)).getD .absent
  | .field 0 => .read world.record
  | .field (place + 1) => (world.fields[place]?.map Value.read).getD .absent

def Target.set (world : World) (value : Value) : Target → World
  | .variable name => world.setValue name value
  | .element array key => world.setElement array key value
  | .field place => world.setField place (value.toText world.form)

def asText (value : Value) : Steps ByteText := do pure (value.toText (← get).form)

def fieldPlace (value : Value) : Steps Nat := do
  match value.toNumber.truncated.whole? with
  | some (.ofNat place) => if place ≤ 32767 then pure place else leave .fault
  | _ => leave .fault

def touch (target : Target) : Steps Unit := do
  match target with
  | .element array key =>
    modify fun world =>
      if (Pairs.find? key (world.elements array)).isSome then world else world.setElement array key .absent
  | _ => pure ()

def searchOf (expression : Expression) (value : Value) : Steps Search := do
  match expression with
  | .search held => pure held
  | _ =>
    match Reader.search? (← asText value) with
    | some held => pure held
    | none => leave .fault

mutual

def target : Nat → Expression → Steps Target
  | 0, _ => leave .fault
  | depth + 1, expression => do
    match expression with
    | .variable name => pure (.variable name)
    | .element array keys => do pure (.element array (← key depth keys))
    | .field place => do pure (.field (← fieldPlace (← value depth place)))
    | _ => leave .fault

def key : Nat → List Expression → Steps ByteText
  | 0, _ => leave .fault
  | depth + 1, keys => do
    let texts ← values depth keys
    let world ← get
    pure ((world.text "SUBSEP").intercalate (texts.map fun value => value.toText world.form))

def values : Nat → List Expression → Steps (List Value)
  | 0, _ => leave .fault
  | _, [] => pure []
  | depth + 1, first :: rest => do
    let held ← value depth first
    let others ← values depth rest
    pure (held :: others)

def value : Nat → Expression → Steps Value
  | 0, _ => leave .fault
  | depth + 1, expression => do
    match expression with
    | .number held => pure (.number held)
    | .text held => pure (.text held)
    | .search held => do
      let world ← get
      pure (Value.ofBool (Search.findFrom held Parting.plainly (.start world.record)).isSome)
    | .variable _ | .element .. | .field _ => do
      let held ← target depth expression
      touch held
      pure (held.value (← get))
    | .assign place operator given => do
      let held ← value depth given
      let goal ← target depth place
      let after ← match operator with
        | none => pure held
        | some sign => do
          let before := (goal.value (← get)).toNumber
          pure (.number (calculated sign before held.toNumber))
      modify fun world => goal.set world after
      pure after
    | .step up before place => do
      let goal ← target depth place
      let old := (goal.value (← get)).toNumber
      let new := old.add (Binary64.ofInt (if up then 1 else -1))
      modify fun world => goal.set world (.number new)
      pure (.number (if before then old else new))
    | .calculate operator left right => do
      let first ← value depth left
      let second ← value depth right
      pure (.number (calculated operator first.toNumber second.toNumber))
    | .both left right => do
      if (← value depth left).isTrue then pure (Value.ofBool (← value depth right).isTrue)
      else pure (Value.ofBool false)
    | .either left right => do
      if (← value depth left).isTrue then pure (Value.ofBool true)
      else pure (Value.ofBool (← value depth right).isTrue)
    | .negated body => do pure (Value.ofBool (!(← value depth body).isTrue))
    | .minus body => do pure (.number (← value depth body).toNumber.negate)
    | .plus body => do pure (.number (← value depth body).toNumber)
    | .compare comparison left right => do
      let first ← value depth left
      let second ← value depth right
      pure (Value.ofBool (Value.compare (← get).form comparison first second))
    | .found wanted subject pattern => do
      let text ← asText (← value depth subject)
      let held ← searchFor depth pattern
      pure (Value.ofBool ((Search.findFrom held Parting.plainly (.start text)).isSome == wanted))
    | .joined left right => do
      let first ← asText (← value depth left)
      let second ← asText (← value depth right)
      pure (.text (first ++ second))
    | .choose condition consequence alternative => do
      if (← value depth condition).isTrue then value depth consequence else value depth alternative
    | .isIn keys array => do
      let held ← key depth keys
      pure (Value.ofBool (Pairs.find? held ((← get).elements array)).isSome)
    | .several held => do pure (.text (← key depth held))
    | .call function arguments => call depth function arguments

def searchFor : Nat → Expression → Steps Search
  | 0, _ => leave .fault
  | depth + 1, expression => do
    match expression with
    | .search held => pure held
    | _ => do searchOf expression (← value depth expression)

def call : Nat → Function → List Expression → Steps Value
  | 0, _, _ => leave .fault
  | depth + 1, function, arguments => do
    let text := fun (place : Nat) => do
      match arguments[place]? with
      | some held => do asText (← value depth held)
      | none => pure (← get).record
    match function, arguments with
    | .length, [.variable name] => do
      match Pairs.find? name (← get).arrays with
      | some held => pure (Value.ofNat held.length)
      | none => pure (Value.ofNat (← text 0).length)
    | .length, _ => do pure (Value.ofNat (← text 0).length)
    | .part, _ :: start :: rest => do
      let held ← text 0
      let first ← value depth start
      match rest with
      | [] => pure (.text (part held first.toNumber none))
      | length :: _ => do
        let count ← value depth length
        pure (.text (part held first.toNumber (some count.toNumber)))
    | .place, [_, _] => do
      let held ← text 0
      let wanted ← text 1
      pure (Value.ofNat (placeOf wanted held 1))
    | .split, _ :: .variable array :: rest => do
      let held ← text 0
      let parting ← match rest with
        | [] => pure (← get).parting
        | .search search :: _ => pure (.found search)
        | other :: _ => do pure (Parting.ofText (← asText (← value depth other)))
      let fields := parting.fields held
      modify fun world => world.setElements array
        (fields.zipIdx.map fun (field, index) => (ByteText.ofNat (index + 1), Value.read field))
      pure (Value.ofNat fields.length)
    | .replaceOne, pattern :: _ :: rest | .replaceAll, pattern :: _ :: rest => do
      let search ← searchFor depth pattern
      let given ← text 1
      let goal ← match rest with
        | [] => pure (Target.field 0)
        | place :: _ => target depth place
      let before ← asText (goal.value (← get))
      let (after, count) := replaced search given (function = .replaceAll) (before.length + 2) false (.start before)
      if count > 0 then modify fun world => goal.set world (.text after)
      pure (Value.ofNat count)
    | .find, [_, pattern] => do
      let held ← text 0
      let search ← searchFor depth pattern
      let (start, length) : Nat × Int :=
        match Search.findFrom search Parting.plainly (.start held) with
        | some (first, last) => (first.passed.length + 1, first.ahead.length - last.ahead.length)
        | none => (0, -1)
      modify fun world =>
        (world.setValue "RSTART".toList (Value.ofNat start)).setValue "RLENGTH".toList (.number (Binary64.ofInt length))
      pure (Value.ofNat start)
    | .format, form :: rest => do
      let held ← asText (← value depth form)
      let given ← values depth rest
      let (shown, complete) := formatted (← get).form (held.length + 1) held given
      if complete then pure (.text shown) else leave .fault
    | .lower, [_] => do pure (.text ((← text 0).map Char.toLower))
    | .upper, [_] => do pure (.text ((← text 0).map Char.toUpper))
    | .whole, [held] => do pure (.number (← value depth held).toNumber.truncated)
    | .close, _ => pure (Value.ofNat 0)
    | _, _ => leave .fault

end

def turn (body : Steps Unit) : Steps Bool := do
  try
    body
    pure true
  catch why =>
    match why with
    | .loop => pure false
    | .turn => pure true
    | other => leave other

def evaluated (depth : Nat) (path : Option Expression) : Steps (Option ByteText) := do
  match path with
  | none => pure none
  | some held => do pure (some (← asText (← value depth held)))

mutual

def carryOut : Nat → Statement → Steps Unit
  | 0, _ => leave .fault
  | depth + 1, statement => do
    match statement with
    | .value expression => do
      let _ ← value depth expression
    | .print given path => do
      let held ← values depth given
      let goal ← evaluated depth path
      modify fun world =>
        let shown := if given.isEmpty then [world.record]
          else held.map fun value => value.toText (world.text "OFMT")
        world.print ((world.text "OFS").intercalate shown ++ world.text "ORS") goal
    | .printFormatted given path => do
      let held ← values depth given
      let goal ← evaluated depth path
      let world ← get
      let form := (held.head?.getD .absent).toText world.form
      let (shown, complete) := formatted world.form (form.length + 1) form (held.drop 1)
      set (world.print shown goal)
      if complete then pure () else leave .fault
    | .block body => carryOutAll depth body
    | .branch condition consequence alternative => do
      if (← value depth condition).isTrue then carryOut depth consequence else carryOut depth alternative
    | .loop condition body => do
      if (← value depth condition).isTrue then
        if ← turn (carryOut depth body) then carryOut depth (.loop condition body)
    | .loopAfter body condition => do
      if ← turn (carryOut depth body) then
        if (← value depth condition).isTrue then carryOut depth (.loopAfter body condition)
    | .count first condition step body => do
      carryOut depth first
      if (← value depth condition).isTrue then
        if ← turn (carryOut depth body) then
          carryOut depth (.count step condition step body)
    | .each name array body => do
      carryOutEach depth name ((← get).keys array) body
    | .leaveLoop => leave .loop
    | .nextTurn => leave .turn
    | .nextRecord => leave .record
    | .exit status => do
      match status with
      | none => pure ()
      | some held => do
        let given := (← value depth held).toNumber.truncated.whole?.getD 0
        modify fun world => { world with status := (given % 256).toNat }
      leave .program
    | .erase array keys => do
      if keys.isEmpty then modify fun world => world.setElements array []
      else do
        let held ← key depth keys
        modify fun world => world.setElements array (Pairs.erase held (world.elements array))

def carryOutAll : Nat → List Statement → Steps Unit
  | 0, _ => leave .fault
  | _, [] => pure ()
  | depth + 1, first :: rest => do
    carryOut depth first
    carryOutAll depth rest

def carryOutEach : Nat → ByteText → List ByteText → Statement → Steps Unit
  | 0, _, _, _ => leave .fault
  | _, _, [], _ => pure ()
  | depth + 1, name, first :: rest, body => do
    modify fun world => world.setValue name (.read first)
    if ← turn (carryOut depth body) then carryOutEach depth name rest body

end

def runDepth : Nat := 100000

def picks (index : Nat) : Pattern → Steps Bool
  | .atStart | .atEnd => pure false
  | .always => pure true
  | .when condition => do pure (← value runDepth condition).isTrue
  | .between first last => do
    let starts ← if (← get).opened.contains index then pure true
      else do pure (← value runDepth first).isTrue
    if starts then do
      let ends := (← value runDepth last).isTrue
      modify fun world =>
        let others := world.opened.filter (· ≠ index)
        { world with opened := if ends then others else index :: others }
      pure true
    else pure false

def rulesOn (program : List (Rule × Nat)) : Steps Unit :=
  match program with
  | [] => pure ()
  | (rule, index) :: rest => do
    if ← picks index rule.pattern then carryOut runDepth rule.body
    rulesOn rest

def countUp (name : String) (world : World) : World :=
  world.setValue name.toList (.number ((world.value name.toList).toNumber.add (Binary64.ofInt 1)))

def onRecords (program : Program) : List ByteText → Steps Unit
  | [] => pure ()
  | record :: rest => do
    modify fun world => (countUp "NR" (countUp "FNR" world)).setRecord record
    try rulesOn program.zipIdx
    catch why => if why = .record then pure () else leave why
    onRecords program rest

-- The records of a text: lines, what stands between other signs, or, for an empty separator, stretches
-- of lines that empty lines part.
def recordsOf (separator text : ByteText) : List ByteText :=
  let cut := fun (pieces : List ByteText) => if pieces.getLast? = some [] then pieces.dropLast else pieces
  match separator with
  | [] =>
    let groups := (ByteText.lines text).foldr (fun line (groups : List (List ByteText)) =>
      if line.isEmpty then [] :: groups
      else match groups with
        | group :: others => (line :: group) :: others
        | [] => [[line]]) []
    (groups.filter fun group => !group.isEmpty).map fun group => ['\n'].intercalate group
  | [c] => cut (Text.pieces (· == c) text)
  | _ =>
    match Reader.search? separator with
    | some search => cut (Parting.fields (.found search) text)
    | none => [text]

def onSources (program : Program) : List InputText → Steps Unit
  | [] => pure ()
  | source :: rest => do
    modify fun world =>
      (world.setValue "FNR".toList (Value.ofNat 0)).setValue "FILENAME".toList (.text source.name)
    onRecords program (recordsOf ((← get).text "RS") source.text)
    onSources program rest

def bodies (program : Program) (atStart : Bool) : List Statement :=
  program.filterMap fun rule =>
    match rule.pattern, atStart with
    | .atStart, true | .atEnd, false => some rule.body
    | _, _ => none

def readsRecords (program : Program) : Bool :=
  program.any fun rule =>
    match rule.pattern with
    | .atStart => false
    | _ => true

def whole (program : Program) (sources : List InputText) : Steps Unit := do
  try
    carryOutAll runDepth (bodies program true)
    if readsRecords program then onSources program sources
  catch why => if why = .program then pure () else leave why
  carryOutAll runDepth (bodies program false)

def answer (program : Program) (world : World) (sources : List InputText) : Answer :=
  let (outcome, after) := (whole program sources).run.run world
  let status := match outcome with
    | .ok _ | .error .program => after.status
    | .error _ => 2
  ⟨after.shown, status, after.written⟩

def assignmentOf? (word : ByteText) : Option (ByteText × ByteText) :=
  let name := word.takeWhile (· ≠ '=')
  if ByteText.isName name && name.length < word.length then some (name, word.drop (name.length + 1))
  else none

def given (text : ByteText) : Value :=
  match Reader.quotedText (text.length + 2) (text.flatMap (fun c => if c = '"' then ['\\', '"'] else [c]) ++ ['"']) with
  | some (held, _) => .read held
  | none => .read text

def table : OptionTable := ⟨[], ['F', 'v', 'f'], [("field-separator", 'F'), ("assign", 'v')]⟩

def awk (arguments : List ByteText) : Option Plan := do
  let options ← Options.readLeading table arguments
  let (text, operands) ← match options.operands with
    | [] => none
    | text :: operands => if (options.value? 'f').isSome then none else some (text, operands)
  let program ← program? text
  let assigned := (options.valuesOf 'v' ++ operands).filterMap assignmentOf?
  let separated := (options.value? 'F').map fun held => ("FS".toList, held)
  let words := "awk".toList :: operands
  let first := ((World.start []).setValue "ARGC".toList (Value.ofNat words.length)).setElements "ARGV".toList
    (words.zipIdx.map fun (word, index) => (ByteText.ofNat index, Value.read word))
  let world := (separated.toList ++ assigned).foldl (fun world (name, held) => world.setValue name (given held)) first
  let paths := operands.filter fun word => (assignmentOf? word).isNone
  if !readsRecords program then pure ⟨["/dev/null".toList], fun _ => answer program world []⟩
  else pure ⟨paths, answer program world⟩

end CompletionRules.Shell.Record
