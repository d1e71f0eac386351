import CompletionRules.Shell.Script

-- Reading a shell script, a line at a time. Every reader takes a depth that bounds how far it may go; the
-- length of the text is enough, because each step down or along takes a character.

namespace CompletionRules.Shell

structure Awaited where
  number : Nat
  delimiter : ByteText
  stripTabs : Bool
  literal : Bool
  deriving Repr, DecidableEq

structure Reader where
  rest : ByteText
  lineFeeds : Nat
  aliases : List (String × ByteText)
  awaited : List Awaited
  documents : List (Nat × Word)
  count : Nat

abbrev Parser := StateT Reader Option

namespace Parser

def refuse {α : Type} : Parser α := fun _ => none

def rest : Parser ByteText := do pure (← get).rest

def continueAt (text : ByteText) : Parser Unit := modify fun reader => { reader with rest := text }

def countLineFeeds (text : ByteText) : Nat := text.foldl (fun count c => if c == '\n' then count + 1 else count) 0

def line : Parser Nat := do
  let reader ← get
  pure (reader.lineFeeds + 1 - countLineFeeds reader.rest)

def endsWord (c : Char) : Bool := [' ', '\t', '\n', ';', '&', '|', '(', ')', '<', '>'].contains c

def quotes (c : Char) : Bool := ['\'', '"', '\\', '$', '\x60'].contains c

def dropBlanks : ByteText → ByteText
  | ' ' :: text | '\t' :: text => dropBlanks text
  | '\\' :: '\n' :: text => dropBlanks text
  | '#' :: text => text.dropWhile (· ≠ '\n')
  | text => text

def skipBlanks : Parser Unit := modify fun reader => { reader with rest := dropBlanks reader.rest }

def bareWord? (text : ByteText) : Option String :=
  let word := text.takeWhile fun c => !endsWord c && !quotes c
  match text.dropWhile fun c => !endsWord c && !quotes c with
  | [] => if word = [] then none else some (.ofList word)
  | c :: _ => if endsWord c && word ≠ [] then some (.ofList word) else none

def closers : List String := ["then", "elif", "else", "fi", "do", "done", "esac", "\x7d"]

def endsList (text : ByteText) : Bool :=
  match text with
  | [] | ')' :: _ | ';' :: ';' :: _ => true
  | _ =>
    match bareWord? text with
    | some word => closers.contains word
    | none => false

def expectWord (word : String) : Parser Unit := do
  skipBlanks
  let text ← rest
  if bareWord? text = some word then continueAt (text.drop word.length) else refuse

def nextIsWord (word : String) : Parser Bool := do
  skipBlanks
  pure (bareWord? (← rest) = some word)

def expectChar (c : Char) : Parser Unit := do
  skipBlanks
  match ← rest with
  | found :: text => if found = c then continueAt text else refuse
  | [] => refuse

def delimiterWithin : Nat → ByteText → ByteText × Bool × ByteText
  | 0, text => ([], false, text)
  | _, [] => ([], false, [])
  | room + 1, c :: text =>
    if c = '\'' || c = '"' then
      let (held, _, after) := delimiterWithin room ((text.dropWhile (· ≠ c)).drop 1)
      (text.takeWhile (· ≠ c) ++ held, true, after)
    else if c = '\\' then
      let (held, _, after) := delimiterWithin room (text.drop 1)
      (text.take 1 ++ held, true, after)
    else if endsWord c then ([], false, c :: text)
    else
      let (held, literal, after) := delimiterWithin room text
      (c :: held, literal, after)

def delimiter (text : ByteText) : ByteText × Bool × ByteText := delimiterWithin (text.length + 1) text

def stripTabs (line : ByteText) : ByteText := line.dropWhile (· == '\t')

def goesOn (line : ByteText) : Bool := (line.reverse.takeWhile (· == '\\')).length % 2 = 1

-- The text of a here-document and what follows its last line. A line that goes on from the one before
-- is neither stripped nor the last one, unless nothing stands before it.
def documentText (awaited : Awaited) : Nat → Bool → ByteText → ByteText × ByteText
  | 0, _, text => ([], text)
  | depth + 1, continued, text =>
    if text = [] then ([], [])
    else
      let line := text.takeWhile (· ≠ '\n')
      let ended := (text.dropWhile (· ≠ '\n')).take 1
      let after := (text.dropWhile (· ≠ '\n')).drop 1
      let shown := if awaited.stripTabs && !continued then stripTabs line else line
      if !continued && shown = awaited.delimiter then ([], after)
      else
        let goesOn := !awaited.literal && goesOn line && (continued || line ≠ ['\\'])
        let (others, left) := documentText awaited depth goesOn after
        (shown ++ ended ++ others, left)

def await (delimiter : ByteText) (stripTabs literal : Bool) : Parser Nat := do
  let number := (← get).count
  let next : Awaited := ⟨number, delimiter, stripTabs, literal⟩
  modify fun reader => { reader with awaited := reader.awaited ++ [next], count := number + 1 }
  pure number

def keep (number : Nat) (word : Word) : Parser Unit :=
  modify fun reader => { reader with documents := reader.documents ++ [(number, word)] }

def backquoted (inQuotes : Bool) : ByteText → Option (ByteText × ByteText)
  | [] => none
  | '\x60' :: text => some ([], text)
  | '\\' :: c :: text =>
    (backquoted inQuotes text).map fun (inner, left) =>
      if c == '\x60' || c == '\\' || c == '$' || (inQuotes && c == '"') then (c :: inner, left)
      else ('\\' :: c :: inner, left)
  | c :: text => (backquoted inQuotes text).map fun (inner, left) => (c :: inner, left)

def specialNames : List Char := ['?', '$', '#', '@', '*', '!', '-']

def parameterName : ByteText → Option (String × ByteText)
  | [] => none
  | c :: text =>
    if ByteText.isNameStart c then
      some (.ofList (c :: text.takeWhile ByteText.isNameChar), text.dropWhile ByteText.isNameChar)
    else if c.isDigit || specialNames.contains c then some (.singleton c, text)
    else none

def bracedName (text : ByteText) : Option (String × ByteText) :=
  match text.takeWhile Char.isDigit with
  | [] => parameterName text
  | digits => some (.ofList digits, text.dropWhile Char.isDigit)

def useOf : ByteText → Option (Use × ByteText)
  | ':' :: '-' :: text => some (.orElse true, text)
  | '-' :: text => some (.orElse false, text)
  | ':' :: '=' :: text => some (.orAssign true, text)
  | '=' :: text => some (.orAssign false, text)
  | ':' :: '?' :: text => some (.orFail true, text)
  | '?' :: text => some (.orFail false, text)
  | ':' :: '+' :: text => some (.ifSet true, text)
  | '+' :: text => some (.ifSet false, text)
  | '#' :: '#' :: text => some (.withoutStart true, text)
  | '#' :: text => some (.withoutStart false, text)
  | '%' :: '%' :: text => some (.withoutEnd true, text)
  | '%' :: text => some (.withoutEnd false, text)
  | '\x7d' :: text => some (.value, '\x7d' :: text)
  | [] => none
  | text => some (.unreadable, text)

def takesPattern : Use → Bool
  | .withoutStart _ | .withoutEnd _ => true
  | _ => false

def isArguments : Word → Bool
  | [.parameter "@" .value [] true] => true
  | _ => false

def isRedirection (c : Char) : Bool := c == '<' || c == '>'

def isDescriptor : ByteText → Bool
  | digit :: sign :: _ => digit.isDigit && isRedirection sign
  | _ => false

def descriptorOf (text : ByteText) : Option (Nat × ByteText) :=
  match text with
  | '<' :: _ => some (0, text)
  | '>' :: _ => some (1, text)
  | digit :: rest => if isDescriptor text then some (digit.toNat - 48, rest) else none
  | [] => none

def awaitDocument (descriptor : Nat) (stripTabs : Bool) (text : ByteText) : Parser Redirect := do
  let start := dropBlanks text
  if isDescriptor start || (start.head?.map endsWord).getD true then refuse
  else do
    let (name, literal, after) := delimiter start
    continueAt after
    pure (.document descriptor (← await name stripTabs literal))

def variableName (text : ByteText) : Option (String × ByteText) :=
  if (text.head?.map ByteText.isNameStart).getD false then
    some (.ofList (text.takeWhile ByteText.isNameChar), text.dropWhile ByteText.isNameChar)
  else none

def assignmentOf (text : ByteText) : Option (String × ByteText) :=
  match variableName text with
  | some (name, '=' :: value) => some (name, value)
  | _ => none

def homeStart (ends : Char → Bool) (text : ByteText) : Option (Part × ByteText) :=
  match text with
  | '~' :: rest =>
    let isEnd := fun (c : Char) => endsWord c || c == '/' || ends c
    let name := rest.takeWhile fun c => !isEnd c && !quotes c
    let after := rest.drop name.length
    if !(after.head?.all isEnd) then none
    else match name with
      | [] => some (.parameter "HOME" (.orElse false) [.text ['~'] true] true, after)
      | _ => if name = "root".toList then some (.text "/root".toList true, after) else none
  | _ => none

-- The text with the alias at its start replaced. Where the value ends in a blank, the next word may be
-- an alias too.
def withAlias (aliases : List (String × ByteText)) : Nat → ByteText → ByteText
  | 0, text => text
  | room + 1, text =>
    match (bareWord? text).bind fun name => aliases.find? fun entry => entry.1 == name with
    | none => text
    | some (name, value) =>
      let after := text.drop name.length
      let isBlank := fun (c : Char) => c == ' ' || c == '\t'
      if value.getLast?.any isBlank then
        value ++ after.takeWhile isBlank ++ withAlias aliases room (after.dropWhile isBlank)
      else value ++ after

mutual

def wholeWord : Nat → Parser Word
  | 0 => refuse
  | depth + 1 => do
    match homeStart (fun _ => false) (← rest) with
    | some (home, after) => do
      continueAt after
      let others ← word depth
      pure (home :: others)
    | none => word depth

def assignedWord : Nat → Parser Word
  | 0 => refuse
  | depth + 1 => do
    match homeStart (· == ':') (← rest) with
    | some (home, after) => do
      continueAt after
      let others ← assignedRest depth
      pure (home :: others)
    | none => assignedRest depth

def assignedRest : Nat → Parser Word
  | 0 => refuse
  | depth + 1 => do
    match ← rest with
    | [] => pure []
    | ':' :: text => do
      continueAt text
      let others ← assignedWord depth
      pure (.text [':'] false :: others)
    | c :: _ =>
      if endsWord c then pure []
      else do
        let first ← bare depth
        let others ← assignedRest depth
        pure (first ++ others)

def word : Nat → Parser Word
  | 0 => refuse
  | depth + 1 => do
    match ← rest with
    | [] => pure []
    | c :: _ =>
      if endsWord c then pure []
      else do
        let first ← bare depth
        let others ← word depth
        pure (first ++ others)

def bare : Nat → Parser Word
  | 0 => refuse
  | depth + 1 => do
    match ← rest with
    | [] => pure []
    | '\\' :: '\n' :: text => do continueAt text; pure []
    | ['\\'] => do continueAt []; pure [.text ['\\'] true]
    | '\\' :: c :: text => do continueAt text; pure [.text [c] true]
    | '\'' :: text =>
      match text.dropWhile (· ≠ '\'') with
      | [] => refuse
      | _ :: after => do continueAt after; pure [.text (text.takeWhile (· ≠ '\'')) true]
    | '"' :: text => do
      continueAt text
      let held ← quoted depth true
      pure (if isArguments held then held else .text [] true :: held)
    | '$' :: text => do continueAt text; dollar depth false
    | '\x60' :: text => do continueAt text; backquote depth false
    | c :: text => do continueAt text; pure [.text [c] false]

def quoted : Nat → Bool → Parser Word
  | 0, _ => refuse
  | depth + 1, closed => do
    match ← rest with
    | [] => if closed then refuse else pure []
    | '"' :: text =>
      if closed then do continueAt text; pure []
      else do
        continueAt text
        let others ← quoted depth closed
        pure (.text ['"'] true :: others)
    | _ => do
      let first ← quotedPart depth closed false
      let others ← quoted depth closed
      pure (first ++ others)

def quotedPart : Nat → Bool → Bool → Parser Word
  | 0, _, _ => refuse
  | depth + 1, closed, inside => do
    match ← rest with
    | [] => pure []
    | '\\' :: '\n' :: text => do continueAt text; pure []
    | '\\' :: c :: text =>
      if c == '$' || c == '\x60' || c == '\\' || ((closed || inside) && c == '"') ||
          (inside && c == '\x7d') then do
        continueAt text
        pure [.text [c] true]
      else do continueAt text; pure [.text ['\\', c] true]
    | '$' :: text => do continueAt text; dollar depth true
    | '\x60' :: text => do continueAt text; backquote depth true
    | c :: text => do continueAt text; pure [.text [c] true]

def backquote : Nat → Bool → Parser Word
  | 0, _ => refuse
  | depth + 1, inQuotes => do
    let start ← line
    match backquoted inQuotes (← rest) with
    | none => refuse
    | some (inner, after) => do
      let lineFeeds := (← get).lineFeeds
      modify fun reader =>
        { reader with rest := inner, lineFeeds := start + countLineFeeds inner - 1 }
      let body ← list depth
      if (← rest) = [] then do
        modify fun reader => { reader with rest := after, lineFeeds := lineFeeds }
        pure [.output body inQuotes]
      else refuse

def dollar : Nat → Bool → Parser Word
  | 0, _ => refuse
  | depth + 1, inQuotes => do
    let text ← rest
    match text with
    | '(' :: '(' :: after => do
      continueAt after
      let expression ← arithmetic depth 0
      pure [.number expression inQuotes]
    | '(' :: after => do
      continueAt after
      let body ← list depth
      expectChar ')'
      pure [.output body inQuotes]
    | '\x7b' :: '#' :: after =>
      match bracedName after with
      | some (name, '\x7d' :: left) => do
        continueAt left
        pure [.parameter name .length [] inQuotes]
      | _ => inBraces depth inQuotes ('#' :: after)
    | '\x7b' :: after => inBraces depth inQuotes after
    | _ =>
      match parameterName text with
      | some (name, after) => do
        continueAt after
        pure [.parameter name .value [] inQuotes]
      | none => pure [.text ['$'] inQuotes]

def inBraces : Nat → Bool → ByteText → Parser Word
  | 0, _, _ => refuse
  | depth + 1, inQuotes, text =>
    match match bracedName text with
      | none => if text.isEmpty then none else some ("", .unreadable, text)
      | some (name, after) => (useOf after).map fun (use, left) => (name, use, left) with
    | none => refuse
    | some (name, use, after) => do
      let asQuoted := inQuotes && !takesPattern use
      let home := if asQuoted then none else homeStart (· == '\x7d') after
      continueAt ((home.map Prod.snd).getD after)
      let argument ← upToBrace depth asQuoted false
      pure [.parameter name use ((home.map Prod.fst).toList ++ argument) inQuotes]

def upToBrace : Nat → Bool → Bool → Parser Word
  | 0, _, _ => refuse
  | depth + 1, inQuotes, inner => do
    match ← rest with
    | [] => refuse
    | '\x7d' :: text =>
      if inner then do
        continueAt text
        let others ← upToBrace depth inQuotes inner
        pure (.text ['\x7d'] true :: others)
      else do
        continueAt text
        pure []
    | '"' :: text =>
      if inQuotes then do
        continueAt text
        upToBrace depth inQuotes (!inner)
      else do
        let first ← bare depth
        let others ← upToBrace depth inQuotes inner
        pure (first ++ others)
    | _ => do
      let first ← if inQuotes then quotedPart depth true true else bare depth
      let others ← upToBrace depth inQuotes inner
      pure (first ++ others)

def arithmetic : Nat → Nat → Parser Word
  | 0, _ => refuse
  | depth + 1, level => do
    match ← rest with
    | [] => refuse
    | '(' :: text => do
      continueAt text
      let others ← arithmetic depth (level + 1)
      pure (.text ['('] true :: others)
    | ')' :: text =>
      match level, text with
      | 0, ')' :: after => do continueAt after; pure []
      | 0, _ => refuse
      | lower + 1, _ => do
        continueAt text
        let others ← arithmetic depth lower
        pure (.text [')'] true :: others)
    | _ => do
      let first ← quotedPart depth true false
      let others ← arithmetic depth level
      pure (first ++ others)

def documents : Nat → List Awaited → Parser Unit
  | 0, _ => refuse
  | _, [] => pure ()
  | depth + 1, awaited :: others => do
    let text ← rest
    let (body, after) := documentText awaited text.length false text
    if awaited.literal then keep awaited.number [.text body true]
    else do
      continueAt body
      let parts ← quoted depth false
      keep awaited.number parts
    continueAt after
    documents depth others

def lineEnd : Nat → Parser Unit
  | 0 => refuse
  | depth + 1 => do
    let awaited := (← get).awaited
    modify fun reader => { reader with rest := reader.rest.drop 1, awaited := [] }
    documents depth awaited

def gap : Nat → Parser Unit
  | 0 => refuse
  | depth + 1 => do
    skipBlanks
    match ← rest with
    | '\n' :: _ => do lineEnd depth; gap depth
    | _ => pure ()

def list : Nat → Parser Command
  | 0 => refuse
  | depth + 1 => do
    gap depth
    if endsList (← rest) then pure .nothing
    else do
      let first ← chain depth
      skipBlanks
      match ← rest with
      | ';' :: ';' :: _ => pure first
      | ';' :: text => do
        continueAt text
        let others ← list depth
        pure (.sequence first others)
      | '&' :: text => do
        continueAt text
        let others ← list depth
        pure (.sequence (.background first) others)
      | '\n' :: _ => do
        let others ← list depth
        pure (.sequence first others)
      | _ => pure first

def body : Nat → Parser Command
  | 0 => refuse
  | depth + 1 => do
    match ← list depth with
    | .nothing => refuse
    | held => pure held

def chain : Nat → Parser Command
  | 0 => refuse
  | depth + 1 => do
    let first ← pipeline depth
    moreChain depth first

def moreChain : Nat → Command → Parser Command
  | 0, _ => refuse
  | depth + 1, left => do
    skipBlanks
    match ← rest with
    | '&' :: '&' :: text => do
      continueAt text
      gap depth
      let right ← pipeline depth
      moreChain depth (.both left right)
    | '|' :: '|' :: text => do
      continueAt text
      gap depth
      let right ← pipeline depth
      moreChain depth (.either left right)
    | _ => pure left

def pipeline : Nat → Parser Command
  | 0 => refuse
  | depth + 1 => do
    if ← nextIsWord "!" then do
      expectWord "!"
      if ← nextIsWord "!" then refuse
      let held ← pipeline depth
      pure (.negated held)
    else do
      let first ← command depth
      morePipeline depth first

def morePipeline : Nat → Command → Parser Command
  | 0, _ => refuse
  | depth + 1, left => do
    skipBlanks
    match ← rest with
    | '|' :: '|' :: _ => pure left
    | '|' :: text => do
      continueAt text
      gap depth
      let right ← command depth
      morePipeline depth (.pipe left right)
    | _ => pure left

def useAlias : Nat → Parser Unit
  | 0 => pure ()
  | depth + 1 => do
    skipBlanks
    let reader ← get
    match bareWord? reader.rest with
    | none => pure ()
    | some name =>
      match reader.aliases.find? fun entry => entry.1 == name with
      | none => pure ()
      | some _ => do
        let text := withAlias reader.aliases (reader.aliases.length + 1) reader.rest
        set { reader with
          rest := text
          lineFeeds := reader.lineFeeds + countLineFeeds text - countLineFeeds reader.rest
          aliases := reader.aliases.filter fun entry => entry.1 != name }
        useAlias depth

def command : Nat → Parser Command
  | 0 => refuse
  | depth + 1 => do
    useAlias depth
    skipBlanks
    let text ← rest
    match text with
    | '(' :: after => do
      continueAt after
      let held ← body depth
      expectChar ')'
      withRedirects depth (.subshell held)
    | _ =>
      match bareWord? text with
      | some "\x7b" => do
        expectWord "\x7b"
        let held ← body depth
        expectWord "\x7d"
        withRedirects depth (.group held)
      | some "if" => do
        expectWord "if"
        let held ← conditional depth
        withRedirects depth held
      | some "while" => do
        expectWord "while"
        let held ← loop depth false
        withRedirects depth held
      | some "until" => do
        expectWord "until"
        let held ← loop depth true
        withRedirects depth held
      | some "for" => do
        expectWord "for"
        let held ← each depth
        withRedirects depth held
      | some "case" => do
        expectWord "case"
        let held ← choice depth
        withRedirects depth held
      | some first =>
        if closers.contains first then refuse else simple depth (← line) [] [] []
      | none => simple depth (← line) [] [] []

def withRedirects : Nat → Command → Parser Command
  | 0, _ => refuse
  | depth + 1, held => do
    let redirects ← redirectList depth
    pure (if redirects.isEmpty then held else .redirected held redirects)

def redirectList : Nat → Parser (List Redirect)
  | 0 => refuse
  | depth + 1 => do
    skipBlanks
    match descriptorOf (← rest) with
    | none => pure []
    | some (descriptor, text) => do
      continueAt text
      let first ← redirect depth descriptor
      let others ← redirectList depth
      pure (first :: others)

def target : Nat → Parser Word
  | 0 => refuse
  | depth + 1 => do
    skipBlanks
    if isDescriptor (← rest) then refuse
    else do
      let held ← wholeWord depth
      if held.isEmpty then refuse else pure held

def redirect : Nat → Nat → Parser Redirect
  | 0, _ => refuse
  | depth + 1, descriptor => do
    match ← rest with
    | '<' :: '<' :: '-' :: text => do
      awaitDocument descriptor true text
    | '<' :: '<' :: text => do
      awaitDocument descriptor false text
    | '<' :: '>' :: text => do continueAt text; pure (.file descriptor .readWrite (← target depth))
    | '<' :: '&' :: text => do continueAt text; pure (.duplicate descriptor (← target depth))
    | '<' :: text => do continueAt text; pure (.file descriptor .read (← target depth))
    | '>' :: '>' :: text => do continueAt text; pure (.file descriptor .append (← target depth))
    | '>' :: '&' :: text => do continueAt text; pure (.duplicate descriptor (← target depth))
    | '>' :: '|' :: text => do continueAt text; pure (.file descriptor .overwrite (← target depth))
    | '>' :: text => do continueAt text; pure (.file descriptor .write (← target depth))
    | _ => refuse

def simple : Nat → Nat → List (String × Word) → List Word → List Redirect → Parser Command
  | 0, _, _, _, _ => refuse
  | depth + 1, start, assignments, words, redirects => do
    skipBlanks
    let text ← rest
    match descriptorOf text with
    | some (descriptor, after) => do
      continueAt after
      let next ← redirect depth descriptor
      simple depth start assignments words (redirects ++ [next])
    | none =>
      match if words.isEmpty then assignmentOf text else none with
      | some (name, after) => do
        continueAt after
        let value ← assignedWord depth
        simple depth start (assignments ++ [(name, value)]) words redirects
      | none => do
        let next ← wholeWord depth
        if next.isEmpty then
          if assignments.isEmpty && words.isEmpty && redirects.isEmpty then refuse
          else pure (.simple start assignments words redirects)
        else do
          skipBlanks
          match words, Word.literalName? next, ← rest with
          | [], some name, '(' :: after => do
            continueAt after
            expectChar ')'
            gap depth
            let held ← command depth
            pure (.function name held)
          | _, _, _ => simple depth start assignments (words ++ [next]) redirects

def conditional : Nat → Parser Command
  | 0 => refuse
  | depth + 1 => do
    let condition ← body depth
    expectWord "then"
    let consequence ← body depth
    if ← nextIsWord "elif" then do
      expectWord "elif"
      let alternative ← conditional depth
      pure (.branch condition consequence alternative)
    else if ← nextIsWord "else" then do
      expectWord "else"
      let alternative ← body depth
      expectWord "fi"
      pure (.branch condition consequence alternative)
    else do
      expectWord "fi"
      pure (.branch condition consequence .nothing)

def doneBody : Nat → Parser Command
  | 0 => refuse
  | depth + 1 => do
    expectWord "do"
    let held ← body depth
    expectWord "done"
    pure held

def loop : Nat → Bool → Parser Command
  | 0, _ => refuse
  | depth + 1, untilTrue => do
    let condition ← body depth
    let held ← doneBody depth
    pure (.loop untilTrue condition held)

def wordList : Nat → Parser (List Word)
  | 0 => refuse
  | depth + 1 => do
    skipBlanks
    let first ← wholeWord depth
    if first.isEmpty then pure []
    else do
      let others ← wordList depth
      pure (first :: others)

def each : Nat → Parser Command
  | 0 => refuse
  | depth + 1 => do
    skipBlanks
    match variableName (← rest) with
    | none => refuse
    | some (name, after) => do
      continueAt after
      gap depth
      let words ← if ← nextIsWord "in" then do
          expectWord "in"
          let held ← wordList depth
          pure (some held)
        else pure none
      skipBlanks
      match ← rest with
      | ';' :: text => continueAt text
      | _ => pure ()
      gap depth
      let held ← doneBody depth
      pure (.each name words held)

def choice : Nat → Parser Command
  | 0 => refuse
  | depth + 1 => do
    let subject ← target depth
    gap depth
    expectWord "in"
    let held ← arms depth
    pure (.choice subject held)

def arms : Nat → Parser (List (List Word × Command))
  | 0 => refuse
  | depth + 1 => do
    gap depth
    if ← nextIsWord "esac" then do
      expectWord "esac"
      pure []
    else do
      match ← rest with
      | '(' :: text => continueAt text
      | _ => pure ()
      let alternatives ← patterns depth
      let held ← list depth
      match ← rest with
      | ';' :: ';' :: text => do
        continueAt text
        let others ← arms depth
        pure ((alternatives, held) :: others)
      | _ => do
        expectWord "esac"
        pure [(alternatives, held)]

def patterns : Nat → Parser (List Word)
  | 0 => refuse
  | depth + 1 => do
    let first ← target depth
    skipBlanks
    match ← rest with
    | '|' :: text => do
      continueAt text
      let others ← patterns depth
      pure (first :: others)
    | ')' :: text => do continueAt text; pure [first]
    | _ => refuse

end

def closeDocuments : Parser Unit :=
  modify fun reader =>
    { reader with
      documents := reader.documents ++ reader.awaited.map fun awaited => (awaited.number, [])
      awaited := [] }

def fullLine : Nat → Parser Command
  | 0 => refuse
  | depth + 1 => do
    skipBlanks
    match ← rest with
    | [] => pure .nothing
    | '\n' :: _ => do lineEnd depth; pure .nothing
    | _ => do
      let first ← chain depth
      skipBlanks
      match ← rest with
      | [] => pure first
      | '\n' :: _ => do lineEnd depth; pure first
      | ';' :: ';' :: _ => refuse
      | ';' :: text => do
        continueAt text
        let others ← fullLine depth
        pure (.sequence first others)
      | '&' :: text => do
        continueAt text
        let others ← fullLine depth
        pure (.sequence (.background first) others)
      | _ => refuse

end Parser

inductive NextLine where
  | finished
  | broken
  | command (held : Command) (after : Reader)

namespace Reader

def ofText (text : ByteText) (count : Nat) : Reader := ⟨text, Parser.countLineFeeds text, [], [], [], count⟩

-- Each character can ask for several steps down.
def next (reader : Reader) (aliases : List (String × ByteText)) : NextLine :=
  if reader.rest.isEmpty then .finished
  else
    let room := 16 * (reader.rest.length + (aliases.map fun entry => entry.2.length).foldl (· + ·) 0) + 64
    let reading := do
      let held ← Parser.fullLine room
      Parser.closeDocuments
      pure held
    match StateT.run reading { reader with aliases := aliases, documents := [] } with
    | none => .broken
    | some (held, after) => .command held after

end Reader

end CompletionRules.Shell
