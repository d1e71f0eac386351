import CompletionRules.Shell.Tool.LineEdit

namespace CompletionRules.Shell.LineEdit

abbrev Script.Reader := StateT ByteText Option

namespace Script

def refuse {α : Type} : Reader α := fun _ => none

def isBlank (c : Char) : Bool := c == ' ' || c == '\t' || c == '\r' || c == '\x0b' || c == '\x0c'

def isGap (c : Char) : Bool := isBlank c || c == '\n' || c == ';'

def skip (dropped : Char → Bool) : Reader Unit := modify (List.dropWhile dropped)

def takeWhile (kept : Char → Bool) : Reader ByteText := do
  let text ← get
  set (text.dropWhile kept)
  pure (text.takeWhile kept)

def takeLine : Reader ByteText := do
  let line ← takeWhile (· ≠ '\n')
  modify (List.drop 1)
  pure line

def takeChar : Reader Char := do
  match ← get with
  | [] => refuse
  | c :: rest => do
    set rest
    pure c

def takeNumber : Reader Nat := do
  match number? (← takeWhile Char.isDigit) with
  | some value => pure value
  | none => refuse

def namedChar (text : ByteText) : Option (Char × ByteText) :=
  let coded := fun (base most : Nat) (digits : ByteText) (rest : ByteText) =>
    let held := (digits.take most).takeWhile fun c =>
      let c := c.toLower
      (c.isDigit && c.toNat - 48 < base) || (base = 16 && 'a' ≤ c && c ≤ 'f')
    if held.isEmpty then none
    else
      let value := held.foldl (fun value c =>
        value * base + (if c.isDigit then c.toNat - 48 else c.toLower.toNat - 87)) 0
      some (Char.ofNat (value % 256), rest.drop held.length)
  match text with
  | 'a' :: rest => some ('\x07', rest)
  | 'f' :: rest => some ('\x0c', rest)
  | 'n' :: rest => some ('\n', rest)
  | 'r' :: rest => some ('\r', rest)
  | 't' :: rest => some ('\t', rest)
  | 'v' :: rest => some ('\x0b', rest)
  | 'd' :: rest => coded 10 3 rest rest
  | 'o' :: rest => coded 8 3 rest rest
  | 'x' :: rest => coded 16 2 rest rest
  | 'c' :: '\\' :: '\\' :: rest => some ('\x1c', rest)
  | 'c' :: sign :: rest =>
    if sign.toNat < 128 && sign ≠ '\\' then some (Char.ofNat (sign.toUpper.toNat ^^^ 64), rest) else none
  | _ => none

def upToWithin : Nat → Char → ByteText → Option (ByteText × ByteText)
  | 0, _, _ => none
  | _, _, [] => none
  | room + 1, sign, '\\' :: c :: rest =>
    (upToWithin room sign rest).map fun (held, after) =>
      (if c = sign then c :: held else '\\' :: c :: held, after)
  | room + 1, sign, c :: rest =>
    if c = sign then some ([], rest)
    else (upToWithin room sign rest).map fun (held, after) => (c :: held, after)

def upTo (sign : Char) : Reader ByteText := do
  let text ← get
  match upToWithin (text.length + 1) sign text with
  | none => refuse
  | some (held, after) => do
    set after
    pure held

def named : Nat → ByteText → ByteText
  | 0, text => text
  | _, [] => []
  | room + 1, '\\' :: rest =>
    match namedChar rest with
    | some (c, after) =>
      (if ['*', '.', '[', ']', '^', '$', '\\'].contains c then ['\\', c] else [c]) ++ named room after
    | none =>
      match rest with
      | [] => ['\\']
      | c :: after => '\\' :: c :: named room after
  | room + 1, c :: rest => c :: named room rest

def search (extended : Bool) (text : ByteText) : Reader (Option (Search × Nat)) := do
  if text.isEmpty then pure none
  else
    match Search.read? ⟨extended, true, true⟩ (named (text.length + 1) text) with
    | none => refuse
    | some held => pure (some held)

def manner (flags : ByteText) : Manner := ⟨flags.contains 'I' || flags.contains 'i', flags.contains 'M' || flags.contains 'm'⟩

def address (extended : Bool) : Reader (Option Address) := do
  match ← get with
  | '$' :: rest => do
    set rest
    pure (some .last)
  | '/' :: rest => do
    set rest
    let text ← upTo '/'
    let flags ← takeWhile fun c => c == 'I' || c == 'M'
    pure (some (.found ((← search extended text).map Prod.fst) (manner flags)))
  | '\\' :: sign :: rest => do
    set rest
    let text ← upTo sign
    let flags ← takeWhile fun c => c == 'I' || c == 'M'
    pure (some (.found ((← search extended text).map Prod.fst) (manner flags)))
  | c :: _ =>
    if c.isDigit then do
      let number ← takeNumber
      skip isBlank
      match ← get with
      | '~' :: rest => do
        set rest
        skip isBlank
        let step := (number? (← takeWhile Char.isDigit)).getD 0
        pure (some (.every number step))
      | _ => pure (some (.line number))
    else pure none
  | [] => pure none

def extension (extended : Bool) : Reader Extension := do
  skip isBlank
  match ← get with
  | '+' :: rest => do
    set rest
    pure (.lines (← takeNumber))
  | '~' :: rest => do
    set rest
    pure (.multiple (← takeNumber))
  | _ =>
    match ← address extended with
    | some held => pure (.upTo held)
    | none => refuse

def replacementWithin (groups : Nat) : Nat → ByteText → Option (List Replacement)
  | 0, _ => none
  | _, [] => some []
  | room + 1, '&' :: rest => (replacementWithin groups room rest).map fun others => .group 0 :: others
  | room + 1, '\\' :: c :: rest => do
    if c.isDigit then
      let number := c.toNat - 48
      if number > groups then none
      else do
        let others ← replacementWithin groups room rest
        pure (.group number :: others)
    else
      let change : Option Replacement := match c with
        | 'U' => some (.letters .upper)
        | 'L' => some (.letters .lower)
        | 'E' => some (.letters .unchanged)
        | 'u' => some (.nextLetter .upper)
        | 'l' => some (.nextLetter .lower)
        | _ => none
      match change with
      | some held => do
        let others ← replacementWithin groups room rest
        pure (held :: others)
      | none => do
        let (meant, after) := (namedChar (c :: rest)).getD (c, rest)
        let others ← replacementWithin groups room after
        pure (.text [meant] :: others)
  | room + 1, c :: rest => do
    let others ← replacementWithin groups room rest
    pure (.text [c] :: others)

def finish : Reader Unit := do
  skip isBlank
  match ← get with
  | [] => pure ()
  | c :: rest =>
    if c == ';' || c == '\n' then set rest
    else if c == '\x7d' || c == '#' then pure ()
    else refuse

def isFlag (c : Char) : Bool := c.isDigit || ['g', 'p', 'i', 'I', 'm', 'M', 'e'].contains c

def substitution (extended : Bool) : Reader Action := do
  let sign ← takeChar
  if sign = '\n' || sign = '\\' then refuse
  else do
    let held ← search extended (← upTo sign)
    let text ← upTo sign
    match replacementWithin (match held with
      | some (_, groups) => groups
      | none => 9) (text.length + 1) text with
    | none => refuse
    | some parts => do
      let flags ← takeWhile isFlag
      let digits := flags.filter Char.isDigit
      let path ← match ← get with
        | 'w' :: rest => do
          set (rest.dropWhile isBlank)
          pure (some (← takeLine))
        | _ => do
          finish
          pure none
      let first := (number? digits).getD 1
      if first = 0 then refuse
      else pure (.substitute ⟨held.map Prod.fst, manner flags, parts, flags.contains 'g', first,
        flags.contains 'p', path⟩)

def translated : Nat → ByteText → Option (List Char)
  | 0, _ => none
  | _, [] => some []
  | room + 1, '\\' :: '\\' :: rest => (translated room rest).map fun others => '\\' :: others
  | room + 1, '\\' :: rest =>
    match namedChar rest with
    | some (c, after) => (translated room after).map fun others => c :: others
    | none => none
  | room + 1, c :: rest => (translated room rest).map fun others => c :: others

def translation : Reader Action := do
  let sign ← takeChar
  let first ← upTo sign
  let second ← upTo sign
  finish
  match translated (first.length + 1) first, translated (second.length + 1) second with
  | some lefts, some rights =>
    if lefts.length = rights.length then pure (.translate (lefts.zip rights)) else refuse
  | _, _ => refuse

def textLines : Nat → ByteText → ByteText × ByteText
  | 0, text => (text, [])
  | _, [] | _, ['\\'] => (['\n'], [])
  | _, '\n' :: rest => (['\n'], rest)
  | room + 1, '\\' :: c :: rest =>
    let (meant, left) := (namedChar (c :: rest)).getD (c, rest)
    let (held, after) := textLines room left
    (meant :: held, after)
  | room + 1, c :: rest =>
    let (held, after) := textLines room rest
    (c :: held, after)

def lines : Reader ByteText := do
  skip isBlank
  let text ← get
  let body := match text with
    | '\\' :: '\n' :: rest | '\\' :: rest => rest
    | _ => text
  match text with
  | [] => refuse
  | ['\\'] | '\n' :: _ => do
    set (text.drop 1)
    pure []
  | _ => do
    let (held, after) := textLines (body.length + 1) body
    set after
    pure held

def labelName : Reader ByteText := do
  skip isBlank
  let name ← takeWhile fun c => !isGap c
  pure name

def action (extended : Bool) : Reader Action := do
  let simply := fun (held : Action) => do
    finish
    pure held
  match ← takeChar with
  | '\x7b' => pure .enter
  | '\x7d' => simply .leave
  | ':' => do
    let name ← labelName
    if name.isEmpty then refuse else pure (.label name)
  | 'b' => pure (.jump (← labelName))
  | 't' => pure (.jumpIf true (← labelName))
  | 'T' => pure (.jumpIf false (← labelName))
  | 's' => substitution extended
  | 'y' => translation
  | 'a' => pure (.append (← lines))
  | 'i' => pure (.insert (← lines))
  | 'c' => pure (.change (← lines))
  | 'd' => simply .delete
  | 'D' => simply .deleteFirst
  | 'p' => simply .print
  | 'P' => simply .printFirst
  | 'n' => simply .next
  | 'N' => simply .join
  | 'h' => simply (.keep false)
  | 'H' => simply (.keep true)
  | 'g' => simply (.fetch false)
  | 'G' => simply (.fetch true)
  | 'x' => simply .exchange
  | '=' => simply .number
  | 'F' => simply .source
  | 'l' => simply .spell
  | 'z' => simply .empty
  | 'q' => do
    skip isBlank
    simply (.quit ((number? (← takeWhile Char.isDigit)).getD 0) false)
  | 'Q' => do
    skip isBlank
    simply (.quit ((number? (← takeWhile Char.isDigit)).getD 0) true)
  | 'w' => do
    skip isBlank
    pure (.write (← takeLine))
  | _ => refuse

def instruction (extended : Bool) : Reader Instruction := do
  let first ← address extended
  skip isBlank
  let last ← match first, ← get with
    | some _, ',' :: rest => do
      set rest
      pure (some (← extension extended))
    | _, _ => pure none
  skip isBlank
  let negations ← takeWhile fun c => c == '!' || isBlank c
  let held ← action extended
  let isPlain := match held with
    | .leave | .label _ => first.isNone
    | .quit _ _ => last.isNone
    | _ => true
  let startsAtZero := match first, last with
    | some (.line 0), some (.upTo (.found _ _)) => true
    | some (.line 0), _ => false
    | _, _ => true
  if isPlain && startsAtZero then pure ⟨first, last, negations.contains '!', held⟩ else refuse

def instructions (extended : Bool) : Nat → Reader (List Instruction)
  | 0 => refuse
  | room + 1 => do
    skip isGap
    match ← get with
    | [] => pure []
    | '#' :: _ => do
      let _ ← takeLine
      instructions extended room
    | _ => do
      let held ← instruction extended
      let others ← instructions extended room
      pure (held :: others)

def depthAfter (instructions : List Instruction) : Option Nat :=
  instructions.foldl (fun depth instruction => depth.bind fun held =>
    match instruction.action, held with
    | .enter, _ => some (held + 1)
    | .leave, 0 => none
    | .leave, lower + 1 => some lower
    | _, _ => some held) (some 0)

def jumpsTo (instructions : List Instruction) (instruction : Instruction) : Bool :=
  match instruction.action with
  | .jump name | .jumpIf _ name =>
    name.isEmpty || instructions.any fun other => other.action = .label name
  | _ => true

def program? (extended silent : Bool) (text : ByteText) : Option Program := do
  let (held, _) ← (instructions extended (text.length + 2)).run text
  if depthAfter held = some 0 && held.all (jumpsTo held) then
    some ⟨held.toArray, silent || "#n\n".toList.isPrefixOf text || text = "#n".toList⟩
  else none

end Script

def table : OptionTable :=
  ⟨['E', 'n', 'r', 's', 'u', 'i', 'z'], ['e', 'l'],
    [("regexp-extended", 'E'), ("quiet", 'n'), ("silent", 'n'), ("separate", 's'), ("unbuffered", 'u'),
      ("in-place", 'i'), ("expression", 'e')]⟩

def sed (arguments : List ByteText) : Option Plan := do
  let options ← Options.read table arguments
  let (scripts, operands) ← match options.valuesOf 'e', options.operands with
    | [], [] => none
    | [], text :: operands => some ([text], operands)
    | held, operands => some (held, operands)
  let program ← Script.program? (options.has 'E' || options.has 'r') (options.has 'n')
    (['\n'].intercalate scripts)
  let edited := fun (name text : ByteText) =>
    let done := program.edit name text
    (done.shown, if done.failed then 1 else done.status, done.written)
  pure ⟨operands, fun sources =>
    if options.has 'i' then
      let results := sources.map fun source => (source.name, edited source.name source.text)
      ⟨[], 0, results.flatMap fun (name, text, _, written) => written ++ [(name, text)]⟩
    else
      let (text, status, written) := edited ((sources.head?.map InputText.name).getD ['-']) (sources.flatMap fun source =>
        if source.text.isEmpty || source.text.getLast? = some '\n' || sources.getLast? = some source then
          source.text else source.text ++ ['\n'])
      ⟨text, status, written⟩⟩

end CompletionRules.Shell.LineEdit
