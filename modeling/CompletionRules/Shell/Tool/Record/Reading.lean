import CompletionRules.Shell.Search.Reading
import CompletionRules.Shell.Tool.Record

-- How rules are written. A slash where a value is due starts a search; two values in a row are joined.
-- Every reader takes a depth that bounds how far it may go.

namespace CompletionRules.Shell.Record

abbrev Reader := StateT ByteText Option

namespace Reader

def refuse {α : Type} : Reader α := fun _ => none

def dropBlanks : ByteText → ByteText
  | ' ' :: text | '\t' :: text | '\r' :: text => dropBlanks text
  | '\\' :: '\n' :: text => dropBlanks text
  | '#' :: text => text.dropWhile (· ≠ '\n')
  | text => text

def dropGap : Nat → Bool → ByteText → ByteText
  | 0, _, text => text
  | room + 1, semicolons, text =>
    match dropBlanks text with
    | '\n' :: rest => dropGap room semicolons rest
    | ';' :: rest => if semicolons then dropGap room semicolons rest else ';' :: rest
    | rest => rest

def skipBlanks : Reader Unit := modify dropBlanks

def skipGap : Reader Unit := modify fun text => dropGap (text.length + 1) false text

def skipEnds : Reader Unit := modify fun text => dropGap (text.length + 1) true text

def accept (sign : String) : Reader Bool := do
  skipBlanks
  let text ← get
  if sign.toList.isPrefixOf text then do
    set (text.drop sign.length)
    pure true
  else pure false

def expect (sign : String) : Reader Unit := do
  if ← accept sign then pure () else refuse

def nameAt (text : ByteText) : ByteText :=
  if text.head?.any ByteText.isNameStart then text.takeWhile ByteText.isNameChar else []

def acceptWord (word : String) : Reader Bool := do
  skipBlanks
  let text ← get
  if nameAt text = word.toList then do
    set (text.drop word.length)
    pure true
  else pure false

def name : Reader ByteText := do
  skipBlanks
  let text ← get
  let held := nameAt text
  if held.isEmpty then refuse
  else do
    set (text.drop held.length)
    pure held

def startsSign (sign : Char) (text : ByteText) : Bool :=
  match text with
  | c :: next :: _ => c == sign && next != '=' && !(next == sign && (sign == '+' || sign == '-'))
  | [c] => c == sign
  | [] => false

def acceptAny {α : Type} (signs : List (Char × α)) : Reader (Option α) := do
  skipBlanks
  let text ← get
  match signs.find? fun entry => startsSign entry.1 text with
  | some (_, held) => do
    set (text.drop 1)
    pure (some held)
  | none => pure none

def sums : List (Char × Operator) := [('+', .add), ('-', .subtract)]

def products : List (Char × Operator) := [('*', .multiply), ('/', .divide), ('%', .remainder)]

def comparisons : List (String × Comparison) :=
  [("<=", .atMost), ("==", .equal), ("!=", .unequal), (">=", .atLeast), ("<", .below), (">", .above)]

def comparison (printing : Bool) : Reader (Option Comparison) := do
  skipBlanks
  let text ← get
  match comparisons.find? fun entry => entry.1.toList.isPrefixOf text with
  | none => pure none
  | some (sign, held) =>
    if printing && sign = ">" then pure none
    else do
      set (text.drop sign.length)
      pure (some held)

def assignments : List (String × Option Operator) :=
  [("+=", some .add), ("-=", some .subtract), ("*=", some .multiply), ("/=", some .divide),
    ("%=", some .remainder), ("^=", some .power)]

def assignment : Reader (Option (Option Operator)) := do
  skipBlanks
  let text ← get
  match text with
  | '=' :: '=' :: _ => pure none
  | '=' :: rest => do
    set rest
    pure (some none)
  | _ =>
    match assignments.find? fun entry => entry.1.toList.isPrefixOf text with
    | some (sign, held) => do
      set (text.drop sign.length)
      pure (some held)
    | none => pure none

def keywords : List String :=
  ["BEGIN", "END", "break", "continue", "delete", "do", "else", "exit", "for", "function", "getline", "if",
    "in", "next", "nextfile", "print", "printf", "return", "while"]

def functions : List (String × Function) :=
  [("length", .length), ("substr", .part), ("index", .place), ("split", .split), ("sub", .replaceOne),
    ("gsub", .replaceAll), ("match", .find), ("sprintf", .format), ("tolower", .lower),
    ("toupper", .upper), ("int", .whole), ("close", .close), ("fflush", .close)]

def startsValue (text : ByteText) : Bool :=
  match text with
  | '+' :: '+' :: _ | '-' :: '-' :: _ => true
  | c :: next =>
    c.isDigit || c == '"' || c == '$' || c == '(' || (c == '.' && next.head?.any Char.isDigit) ||
      (!(nameAt text).isEmpty && !keywords.contains (ByteText.name (nameAt text))) || c == '!' &&
        next.head?.all fun other => other ≠ '=' && other ≠ '~'
  | [] => false

def quotedText : Nat → ByteText → Option (ByteText × ByteText)
  | 0, _ => none
  | _, [] | _, '\n' :: _ => none
  | _, '"' :: rest => some ([], rest)
  | room + 1, '\\' :: '\n' :: rest => quotedText room rest
  | room + 1, '\\' :: c :: rest =>
    let digits := ((c :: rest).take 3).takeWhile fun digit => '0' ≤ digit && digit ≤ '7'
    let (meant, after) := if digits.isEmpty then
        (match c with
          | '"' => ['"']
          | '\\' => ['\\']
          | 'a' => ['\x07']
          | 'b' => ['\x08']
          | 'f' => ['\x0c']
          | 'n' => ['\n']
          | 'r' => ['\r']
          | 't' => ['\t']
          | 'v' => ['\x0b']
          | _ => ['\\', c], rest)
      else ([Char.ofNat (digits.foldl (fun value digit => value * 8 + (digit.toNat - 48)) 0 % 256)],
        (c :: rest).drop digits.length)
    (quotedText room after).map fun (held, left) => (meant ++ held, left)
  | room + 1, c :: rest => (quotedText room rest).map fun (held, left) => (c :: held, left)

def searchText : Nat → ByteText → Option (ByteText × ByteText)
  | 0, _ => none
  | _, [] | _, '\n' :: _ => none
  | _, '/' :: rest => some ([], rest)
  | room + 1, '\\' :: '/' :: rest => (searchText room rest).map fun (held, left) => ('/' :: held, left)
  | room + 1, '\\' :: c :: rest => (searchText room rest).map fun (held, left) => ('\\' :: c :: held, left)
  | room + 1, c :: rest => (searchText room rest).map fun (held, left) => (c :: held, left)

def search? (text : ByteText) : Option Search := (Search.read? ⟨true, true, false⟩ text).map Prod.fst

def numberAt (text : ByteText) : Option (Binary64 × ByteText) :=
  let whole := text.takeWhile Char.isDigit
  let fraction := match text.drop whole.length with
    | '.' :: rest => '.' :: rest.takeWhile Char.isDigit
    | _ => []
  let rest := text.drop (whole.length + fraction.length)
  let exponent := match rest with
    | letter :: more =>
      let sign := (more.take 1).takeWhile fun c => c == '-' || c == '+'
      let digits := (more.drop sign.length).takeWhile Char.isDigit
      if (letter == 'e' || letter == 'E') && !digits.isEmpty then letter :: sign ++ digits else []
    | [] => []
  (Decimal.ofText? (whole ++ fraction ++ exponent)).map fun held =>
    (Binary64.ofDecimal held, rest.drop exponent.length)

mutual

def expression : Nat → Bool → Reader Expression
  | 0, _ => refuse
  | depth + 1, printing => do
    let left ← choice depth printing
    if left.isTarget then
      match ← assignment with
      | some operator => do
        skipGap
        let value ← expression depth printing
        pure (.assign left operator value)
      | none => pure left
    else pure left

def choice : Nat → Bool → Reader Expression
  | 0, _ => refuse
  | depth + 1, printing => do
    let condition ← disjunction depth printing
    if ← accept "?" then do
      skipGap
      let consequence ← expression depth printing
      skipGap
      expect ":"
      skipGap
      let alternative ← expression depth printing
      pure (.choose condition consequence alternative)
    else pure condition

def disjunction : Nat → Bool → Reader Expression
  | 0, _ => refuse
  | depth + 1, printing => do
    let left ← conjunction depth printing
    if ← accept "||" then do
      skipGap
      let right ← disjunction depth printing
      pure (.either left right)
    else pure left

def conjunction : Nat → Bool → Reader Expression
  | 0, _ => refuse
  | depth + 1, printing => do
    let left ← membership depth printing
    if ← accept "&&" then do
      skipGap
      let right ← conjunction depth printing
      pure (.both left right)
    else pure left

def membership : Nat → Bool → Reader Expression
  | 0, _ => refuse
  | depth + 1, printing => do
    let keys ← finding depth printing
    if ← acceptWord "in" then do
      let array ← name
      pure (.isIn (match keys with
        | .several values => values
        | only => [only]) array)
    else pure keys

def finding : Nat → Bool → Reader Expression
  | 0, _ => refuse
  | depth + 1, printing => do
    let left ← comparing depth printing
    moreFinding depth printing left

def moreFinding : Nat → Bool → Expression → Reader Expression
  | 0, _, _ => refuse
  | depth + 1, printing, left => do
    if ← accept "!~" then do
      let right ← comparing depth printing
      moreFinding depth printing (.found false left right)
    else if ← accept "~" then do
      let right ← comparing depth printing
      moreFinding depth printing (.found true left right)
    else pure left

def comparing : Nat → Bool → Reader Expression
  | 0, _ => refuse
  | depth + 1, printing => do
    let left ← joining depth
    match ← comparison printing with
    | some held => do
      let right ← joining depth
      pure (.compare held left right)
    | none => pure left

def joining : Nat → Reader Expression
  | 0 => refuse
  | depth + 1 => do
    let left ← sum depth
    moreJoining depth left

def moreJoining : Nat → Expression → Reader Expression
  | 0, _ => refuse
  | depth + 1, left => do
    skipBlanks
    if startsValue (← get) then do
      let right ← sum depth
      moreJoining depth (.joined left right)
    else pure left

def sum : Nat → Reader Expression
  | 0 => refuse
  | depth + 1 => do
    let left ← product depth
    moreSum depth left

def moreSum : Nat → Expression → Reader Expression
  | 0, _ => refuse
  | depth + 1, left => do
    match ← acceptAny sums with
    | some operator => do
      let right ← product depth
      moreSum depth (.calculate operator left right)
    | none => pure left

def product : Nat → Reader Expression
  | 0 => refuse
  | depth + 1 => do
    let left ← signed depth
    moreProduct depth left

def moreProduct : Nat → Expression → Reader Expression
  | 0, _ => refuse
  | depth + 1, left => do
    match ← acceptAny products with
    | some operator => do
      let right ← signed depth
      moreProduct depth (.calculate operator left right)
    | none => pure left

def signed : Nat → Reader Expression
  | 0 => refuse
  | depth + 1 => do
    skipBlanks
    match ← get with
    | '+' :: '+' :: _ | '-' :: '-' :: _ => raised depth
    | '!' :: rest => do
      set rest
      let body ← signed depth
      pure (.negated body)
    | '-' :: rest => do
      set rest
      let body ← signed depth
      pure (.minus body)
    | '+' :: rest => do
      set rest
      let body ← signed depth
      pure (.plus body)
    | _ => raised depth

def raised : Nat → Reader Expression
  | 0 => refuse
  | depth + 1 => do
    let base ← stepped depth
    skipBlanks
    match ← get with
    | '^' :: '=' :: _ => pure base
    | '^' :: rest => do
      set rest
      let times ← signed depth
      pure (.calculate .power base times)
    | _ => pure base

def stepped : Nat → Reader Expression
  | 0 => refuse
  | depth + 1 => do
    let target ← single depth
    if !target.isTarget then pure target
    else if ← accept "++" then pure (.step true true target)
    else if ← accept "--" then pure (.step false true target)
    else pure target

def single : Nat → Reader Expression
  | 0 => refuse
  | depth + 1 => do
    skipBlanks
    let text ← get
    match text with
    | '"' :: rest =>
      match quotedText (rest.length + 1) rest with
      | none => refuse
      | some (held, after) => do
        set after
        pure (.text held)
    | '/' :: rest =>
      match searchText (rest.length + 1) rest with
      | none => refuse
      | some (held, after) => do
        set after
        match search? held with
        | some meant => pure (.search meant)
        | none => refuse
    | '(' :: rest => do
      set rest
      let values ← valueList depth false
      expect ")"
      match values with
      | [] => refuse
      | [only] => pure only
      | _ => pure (.several values)
    | '$' :: rest => do
      set rest
      skipBlanks
      let place ← match ← get with
        | '-' :: '-' :: _ | '+' :: '+' :: _ => single depth
        | '-' :: rest => do
          set rest
          pure (.minus (← single depth))
        | _ => single depth
      pure (.field place)
    | '+' :: '+' :: rest => do
      set rest
      let target ← single depth
      if target.isTarget then pure (.step true false target) else refuse
    | '-' :: '-' :: rest => do
      set rest
      let target ← single depth
      if target.isTarget then pure (.step false false target) else refuse
    | _ =>
      match numberAt text with
      | some (value, after) => do
        set after
        pure (.number value)
      | none => named depth

def named : Nat → Reader Expression
  | 0 => refuse
  | depth + 1 => do
    let held ← name
    if keywords.contains (ByteText.name held) then refuse
    else match functions.find? fun entry => entry.1 == ByteText.name held with
      | some (_, function) => do
        if ← accept "(" then do
          let arguments ← valueList depth false
          expect ")"
          pure (.call function arguments)
        else if function = .length then pure (.call .length [])
        else refuse
      | none => do
        match ← get with
        | '(' :: _ => refuse
        | _ =>
          if ← accept "[" then do
            let keys ← valueList depth false
            expect "]"
            if keys.isEmpty then refuse else pure (.element held keys)
          else pure (.variable held)

def valueList : Nat → Bool → Reader (List Expression)
  | 0, _ => refuse
  | depth + 1, printing => do
    skipGap
    match ← get with
    | [] | ')' :: _ | ']' :: _ | '\x7d' :: _ | ';' :: _ | '>' :: _ => pure []
    | _ => do
      let first ← expression depth printing
      moreValues depth printing first

def moreValues : Nat → Bool → Expression → Reader (List Expression)
  | 0, _, _ => refuse
  | depth + 1, printing, first => do
    if !printing then skipGap
    if ← accept "," then do
      skipGap
      let next ← expression depth printing
      let others ← moreValues depth printing next
      pure (first :: others)
    else pure [first]

end

def endStatement : Reader Unit := do
  skipBlanks
  match ← get with
  | ';' :: rest | '\n' :: rest => set rest
  | '\x7d' :: _ | [] => pure ()
  | _ => refuse

def nothing : Statement := .block []

def printed (depth : Nat) : Reader (List Expression × Option Expression) := do
  skipBlanks
  let values ← match ← get with
    | '\n' :: _ => pure []
    | _ => valueList depth true
  let values := match values with
    | [.several held] => held
    | held => held
  let isMore ← accept ">>"
  let isFile ← if isMore then pure true else accept ">"
  if isFile then do
    let path ← joining depth
    pure (values, some path)
  else pure (values, none)

def eachHead : Reader (Option (ByteText × ByteText)) := do
  let before ← get
  let reading : Reader (ByteText × ByteText) := do
    let held ← name
    if ← acceptWord "in" then do
      let array ← name
      expect ")"
      pure (held, array)
    else refuse
  match reading.run before with
  | some (found, after) => do
    set after
    pure (some found)
  | none => pure none

mutual

def statement : Nat → Reader Statement
  | 0 => refuse
  | depth + 1 => do
    skipBlanks
    match ← get with
    | '\x7b' :: rest => do
      set rest
      block depth
    | ';' :: rest => do
      set rest
      pure nothing
    | _ =>
      if ← acceptWord "if" then do
        expect "("
        let condition ← expression depth false
        skipGap
        expect ")"
        skipGap
        let consequence ← statement depth
        let after ← get
        skipEnds
        if ← acceptWord "else" then do
          skipGap
          let alternative ← statement depth
          pure (.branch condition consequence alternative)
        else do
          set after
          pure (.branch condition consequence nothing)
      else if ← acceptWord "while" then do
        expect "("
        let condition ← expression depth false
        skipGap
        expect ")"
        skipGap
        let body ← statement depth
        pure (.loop condition body)
      else if ← acceptWord "do" then do
        skipGap
        let body ← statement depth
        skipEnds
        if ← acceptWord "while" then do
          expect "("
          let condition ← expression depth false
          expect ")"
          endStatement
          pure (.loopAfter body condition)
        else refuse
      else if ← acceptWord "for" then do
        expect "("
        skipGap
        match ← eachHead with
        | some (held, array) => do
          skipGap
          let body ← statement depth
          pure (.each held array body)
        | none => do
          let first ← part depth
          expect ";"
          skipGap
          skipBlanks
          let condition ← match ← get with
            | ';' :: _ => pure (.number (Binary64.ofInt 1))
            | _ => expression depth false
          skipBlanks
          expect ";"
          skipGap
          let step ← part depth
          expect ")"
          skipGap
          let body ← statement depth
          pure (.count first condition step body)
      else do
        let held ← simple depth
        endStatement
        pure held

def part : Nat → Reader Statement
  | 0 => refuse
  | depth + 1 => do
    skipBlanks
    match ← get with
    | ';' :: _ | ')' :: _ => pure nothing
    | _ => simple depth

def simple : Nat → Reader Statement
  | 0 => refuse
  | depth + 1 => do
    if ← acceptWord "print" then do
      let (values, path) ← printed depth
      pure (.print values path)
    else if ← acceptWord "printf" then do
      let (values, path) ← printed depth
      if values.isEmpty then refuse else pure (.printFormatted values path)
    else if ← acceptWord "next" then pure .nextRecord
    else if ← acceptWord "break" then pure .leaveLoop
    else if ← acceptWord "continue" then pure .nextTurn
    else if ← acceptWord "exit" then do
      skipBlanks
      match ← get with
      | [] | ';' :: _ | '\n' :: _ | '\x7d' :: _ => pure (.exit none)
      | _ => pure (.exit (some (← expression depth false)))
    else if ← acceptWord "delete" then do
      let array ← name
      if ← accept "[" then do
        let keys ← valueList depth false
        expect "]"
        pure (.erase array keys)
      else pure (.erase array [])
    else pure (.value (← expression depth false))

def block : Nat → Reader Statement
  | 0 => refuse
  | depth + 1 => do
    let held ← statements depth
    pure (.block held)

def statements : Nat → Reader (List Statement)
  | 0 => refuse
  | depth + 1 => do
    skipEnds
    if ← accept "\x7d" then pure []
    else do
      let first ← statement depth
      let others ← statements depth
      pure (first :: others)

end

def body (depth : Nat) : Reader Statement := do
  if ← accept "\x7b" then block depth else pure (.print [] none)

def rule (depth : Nat) : Reader Rule := do
  skipBlanks
  if ← acceptWord "BEGIN" then do
    expect "\x7b"
    pure ⟨.atStart, ← block depth⟩
  else if ← acceptWord "END" then do
    expect "\x7b"
    pure ⟨.atEnd, ← block depth⟩
  else
    match ← get with
    | '\x7b' :: _ => pure ⟨.always, ← body depth⟩
    | _ => do
      let first ← expression depth false
      if ← accept "," then do
        skipGap
        let last ← expression depth false
        pure ⟨.between first last, ← body depth⟩
      else pure ⟨.when first, ← body depth⟩

def rules : Nat → Reader Program
  | 0 => refuse
  | depth + 1 => do
    skipEnds
    match ← get with
    | [] => pure []
    | _ => do
      let first ← rule depth
      let others ← rules depth
      pure (first :: others)

end Reader

def program? (text : ByteText) : Option Program :=
  ((Reader.rules (16 * text.length + 64)).run text).map Prod.fst

end CompletionRules.Shell.Record
