import CompletionRules.Shell.Search.Reading
import CompletionRules.Shell.Tool.Plan

-- Editing a text line by line by a list of instructions. Each line is put into a work space, the
-- instructions whose address it meets are carried out on it, and the space is printed at the end.

namespace CompletionRules.Shell.LineEdit

inductive Address where
  | line (number : Nat)
  | last
  | every (first step : Nat)
  | found (search : Option Search) (manner : Manner)
  deriving Repr, DecidableEq

inductive Extension where
  | upTo (address : Address)
  | lines (count : Nat)
  | multiple (count : Nat)
  deriving Repr, DecidableEq

inductive Letters where
  | unchanged
  | upper
  | lower
  deriving Repr, DecidableEq

inductive Replacement where
  | text (held : ByteText)
  | group (number : Nat)
  | letters (wanted : Letters)
  | nextLetter (wanted : Letters)
  deriving Repr, DecidableEq

structure Substitution where
  search : Option Search
  manner : Manner
  parts : List Replacement
  every : Bool
  first : Nat
  printed : Bool
  path : Option ByteText
  deriving Repr, DecidableEq

inductive Action where
  | enter
  | leave
  | label (name : ByteText)
  | jump (name : ByteText)
  | jumpIf (substituted : Bool) (name : ByteText)
  | substitute (held : Substitution)
  | translate (pairs : List (Char × Char))
  | append (text : ByteText)
  | insert (text : ByteText)
  | change (text : ByteText)
  | delete
  | deleteFirst
  | print
  | printFirst
  | next
  | join
  | keep (added : Bool)
  | fetch (added : Bool)
  | exchange
  | number
  | source
  | spell
  | quit (status : Nat) (silently : Bool)
  | write (path : ByteText)
  | empty
  | nothing
  deriving Repr, DecidableEq

structure Instruction where
  first : Option Address
  last : Option Extension
  negated : Bool
  action : Action
  deriving Repr, DecidableEq

inductive Stretch where
  | under (last : Option Nat)
  | over
  deriving Repr, DecidableEq

-- `source` is the name of the file that the text is from; `failed` tells that an empty search came
-- before any other.
structure Editing where
  source : ByteText
  failed : Bool
  space : ByteText
  kept : ByteText
  ahead : List ByteText
  isLastUnended : Bool
  number : Nat
  shown : ByteText
  unended : Bool
  queue : List ByteText
  substituted : Bool
  stretches : List (Nat × Stretch)
  search : Option Search
  status : Nat
  written : List (ByteText × ByteText)

namespace Editing

def start (source text : ByteText) : Editing where
  source := source
  failed := false
  space := []
  kept := []
  ahead := ByteText.lines text
  isLastUnended := !text.isEmpty && text.getLast? ≠ some '\n'
  number := 0
  shown := []
  unended := false
  queue := []
  substituted := false
  stretches := []
  search := none
  status := 0
  written := []

def isAtEnd (editing : Editing) : Bool := editing.ahead.isEmpty

def put (text : ByteText) (editing : Editing) : Editing :=
  { editing with
    shown := editing.shown ++ (if editing.unended then ['\n'] else []) ++ text
    unended := false }

def putLine (line : ByteText) (editing : Editing) : Editing :=
  if editing.isAtEnd && editing.isLastUnended then { editing.put line with unended := true }
  else editing.put (line ++ ['\n'])

def writeTo (path line : ByteText) (editing : Editing) : Editing :=
  if path = "/dev/stdout".toList then editing.putLine line
  else if path = "/dev/stderr".toList then editing
  else
    let held := ((editing.written.find? fun entry => entry.1 == path).map Prod.snd).getD []
    { editing with
      written := (editing.written.filter fun entry => entry.1 != path) ++ [(path, held ++ line ++ ['\n'])] }

def flushed (editing : Editing) : Editing :=
  { editing.queue.foldl (fun editing text => editing.put text) editing with queue := [] }

def advance (editing : Editing) : Option Editing :=
  match editing.ahead with
  | [] => none
  | line :: rest => some { editing with space := line, ahead := rest, number := editing.number + 1 }

def searchFor (search : Option Search) (editing : Editing) : Option Search × Editing :=
  match search with
  | none => (editing.search, { editing with failed := editing.search.isNone })
  | some held => (some held, { editing with search := some held })

def meets (address : Address) (editing : Editing) : Bool × Editing :=
  match address with
  | .line number => (editing.number == number, editing)
  | .last => (editing.isAtEnd, editing)
  | .every first step =>
    (if step = 0 then editing.number == first
      else first ≤ editing.number && (editing.number - first) % step == 0, editing)
  | .found search manner =>
    let (search, editing) := editing.searchFor search
    (search.any fun held => (held.findFrom manner (.start editing.space)).isSome, editing)

def stretch? (place : Nat) (editing : Editing) : Option Stretch :=
  (editing.stretches.find? fun entry => entry.1 == place).map Prod.snd

def setStretch (place : Nat) (stretch : Option Stretch) (editing : Editing) : Editing :=
  { editing with
    stretches := (editing.stretches.filter fun entry => entry.1 != place) ++
      (stretch.map fun held => (place, held)).toList }

def endLine (extension : Extension) (editing : Editing) : Option Nat :=
  match extension with
  | .upTo (.line number) => some number
  | .upTo .last => if editing.isAtEnd then some editing.number else none
  | .upTo _ => none
  | .lines count => some (editing.number + count)
  | .multiple 0 => some editing.number
  | .multiple count => some ((editing.number + count - 1) / count * count)

def begin (place : Nat) (extension : Extension) (editing : Editing) : Editing :=
  match editing.endLine extension with
  | some number =>
    editing.setStretch place (if number ≤ editing.number then none else some (.under (some number)))
  | none => editing.setStretch place (some (.under none))

-- A stretch from a numbered line begins once, at that line or at the first one after it that gets here.
def beginFrom (place start : Nat) (extension : Extension) (editing : Editing) : Bool × Editing :=
  if editing.number < start then (false, editing)
  else match editing.endLine extension with
    | some number =>
      if number ≤ editing.number then
        (editing.number == start || editing.number ≤ number, editing.setStretch place (some .over))
      else (true, editing.setStretch place (some (.under (some number))))
    | none => (true, editing.setStretch place (some (.under none)))

def isNumbered : Address → Bool
  | .line _ => true
  | _ => false

def goesOn (place : Nat) (first : Address) (extension : Extension) (last : Option Nat)
    (editing : Editing) : Bool × Editing :=
  let ended := if isNumbered first then some Stretch.over else none
  match last, extension with
  | some number, .upTo _ =>
    (editing.number ≤ number,
      if number ≤ editing.number then editing.setStretch place ended else editing)
  | some number, _ =>
    (true, if number ≤ editing.number then editing.setStretch place ended else editing)
  | none, .upTo address =>
    let (met, editing) := editing.meets address
    (true, if met then editing.setStretch place ended else editing)
  | none, _ => (true, editing)

def selects (place : Nat) (instruction : Instruction) (editing : Editing) : Bool × Editing :=
  let (held, editing) := match instruction.first, instruction.last with
    | none, _ => (true, editing)
    | some first, none => editing.meets first
    | some first, some extension =>
      match editing.stretch? place with
      | some (.under last) => editing.goesOn place first extension last
      | some .over => (false, editing)
      | none =>
        match first with
        | .line 0 => (editing.setStretch place (some (.under none))).goesOn place first extension none
        | .line number => editing.beginFrom place number extension
        | _ =>
          let (met, editing) := editing.meets first
          (met, if met then editing.begin place extension else editing)
  (held != instruction.negated, editing)

end Editing

namespace Replacement

def changeLetters (wanted : Letters) (text : ByteText) : ByteText :=
  match wanted with
  | .unchanged => text
  | .upper => text.map Char.toUpper
  | .lower => text.map Char.toLower

structure Spelling where
  shown : ByteText
  all : Letters
  one : Letters

def Spelling.add (text : ByteText) (spelling : Spelling) : Spelling :=
  match text with
  | [] => spelling
  | c :: rest =>
    let first := if spelling.one = .unchanged then changeLetters spelling.all [c]
      else changeLetters spelling.one [c]
    { spelling with
      shown := spelling.shown ++ first ++ changeLetters spelling.all rest
      one := .unchanged }

def filled (parts : List Replacement) (first last : Place) : ByteText :=
  (parts.foldl (fun spelling part =>
    match part with
    | .text held => spelling.add held
    | .group 0 => spelling.add (first.between last)
    | .group number => spelling.add ((last.group? number).getD [])
    | .letters wanted => { spelling with all := wanted, one := .unchanged }
    | .nextLetter wanted => { spelling with one := wanted })
    (⟨[], .unchanged, .unchanged⟩ : Spelling)).shown

end Replacement

-- The text after its occurrences from a number on were replaced, all of them or one, and whether any
-- was. Nothing empty is replaced right after an occurrence.
def replaced (search : Search) (held : Substitution) : Nat → Nat → Bool → Place → ByteText × Bool
  | 0, _, _, place => (place.ahead, false)
  | room + 1, number, afterOne, place =>
    match search.findFrom held.manner { place with held := [] } with
    | none => (place.ahead, false)
    | some (first, last) =>
      let before := place.between first
      let isEmpty := first.ahead.length == last.ahead.length
      if isEmpty && afterOne && before.isEmpty then
        match first.ahead with
        | [] => ([], false)
        | c :: _ =>
          let (rest, done) := replaced search held room number false (first.advance 1)
          (c :: rest, done)
      else
        let counts := number ≥ held.first
        let shown := if counts then Replacement.filled held.parts first last else first.between last
        let (passed, next) := if isEmpty then (first.ahead.take 1, last.advance 1) else ([], last)
        if counts && !held.every then (before ++ shown ++ last.ahead, true)
        else if isEmpty && first.ahead.isEmpty then (before ++ shown, counts)
        else
          let (rest, done) := replaced search held room (number + 1) (!isEmpty) next
          (before ++ shown ++ passed ++ rest, counts || done)

def octal (value : Nat) : ByteText :=
  [Nat.digitChar (value / 64 % 8), Nat.digitChar (value / 8 % 8), Nat.digitChar (value % 8)]

def spelled (c : Char) : ByteText :=
  match c with
  | '\\' => ['\\', '\\']
  | '\x07' => ['\\', 'a']
  | '\x08' => ['\\', 'b']
  | '\x0c' => ['\\', 'f']
  | '\n' => ['\\', 'n']
  | '\r' => ['\\', 'r']
  | '\t' => ['\\', 't']
  | '\x0b' => ['\\', 'v']
  | _ => if 32 ≤ c.toNat && c.toNat < 127 then [c] else '\\' :: octal c.toNat

def wrapped (width : Nat) : ByteText → List ByteText → ByteText
  | line, [] => line ++ ['$', '\n']
  | line, piece :: rest =>
    if line.length + piece.length > width then line ++ ['\\', '\n'] ++ wrapped width piece rest
    else wrapped width (line ++ piece) rest

structure Program where
  instructions : Array Instruction
  silent : Bool

inductive Step where
  | goTo (place : Nat)
  | endCycle
  | again
  | stop
  deriving Repr, DecidableEq

namespace Program

def placeOf (program : Program) (name : ByteText) : Nat :=
  if name.isEmpty then program.instructions.size
  else (program.instructions.toList.findIdx fun instruction => instruction.action = .label name)

def afterBlock : Nat → Nat → List Instruction → Nat
  | place, _, [] => place
  | place, depth, instruction :: rest =>
    match instruction.action, depth with
    | .enter, _ => afterBlock (place + 1) (depth + 1) rest
    | .leave, 0 | .leave, 1 => place + 1
    | .leave, lower + 1 => afterBlock (place + 1) lower rest
    | _, _ => afterBlock (place + 1) depth rest

def closed (program : Program) (editing : Editing) : Editing :=
  (if program.silent then editing else editing.putLine editing.space).flushed

def act (program : Program) (place : Nat) (instruction : Instruction) (editing : Editing) :
    Step × Editing :=
  let on := Step.goTo (place + 1)
  match instruction.action with
  | .enter | .leave | .label _ | .nothing => (on, editing)
  | .jump name => (.goTo (program.placeOf name), editing)
  | .jumpIf wanted name =>
    (if editing.substituted == wanted then .goTo (program.placeOf name) else on,
      { editing with substituted := false })
  | .substitute held =>
    let (search, editing) := editing.searchFor held.search
    match search with
    | none => (.stop, editing)
    | some search =>
      let (text, done) := replaced search held (editing.space.length + 2) 1 false (.start editing.space)
      if !done then (on, editing)
      else
        let editing := { editing with space := text, substituted := true }
        let editing := if held.printed then editing.putLine text else editing
        (on, match held.path with
          | some path => editing.writeTo path text
          | none => editing)
  | .translate pairs =>
    (on, { editing with
      space := editing.space.map fun c => ((pairs.find? fun pair => pair.1 == c).map Prod.snd).getD c })
  | .append text => (on, { editing with queue := editing.queue ++ [text] })
  | .insert text => (on, editing.put text)
  | .change text =>
    let isWhole := instruction.last.isNone || instruction.negated || match editing.stretch? place with
      | some (.under _) => false
      | _ => true
    (.endCycle, { (if isWhole then editing.put text else editing) with space := [] })
  | .delete => (.endCycle, editing)
  | .deleteFirst =>
    match editing.space.dropWhile (· ≠ '\n') with
    | [] => (.endCycle, editing)
    | _ :: rest => (.again, { editing with space := rest })
  | .print => (on, editing.putLine editing.space)
  | .printFirst => (on, editing.putLine (editing.space.takeWhile (· ≠ '\n')))
  | .next =>
    if editing.isAtEnd then (.stop, program.closed editing)
    else (on, (program.closed editing).advance.getD editing)
  | .join =>
    let before := editing.space
    match editing.flushed.advance with
    | none => (.stop, program.closed editing)
    | some next => (on, { next with space := before ++ ['\n'] ++ next.space })
  | .keep added =>
    (on, { editing with kept := if added then editing.kept ++ ['\n'] ++ editing.space else editing.space })
  | .fetch added =>
    (on, { editing with space := if added then editing.space ++ ['\n'] ++ editing.kept else editing.kept })
  | .exchange => (on, { editing with space := editing.kept, kept := editing.space })
  | .number => (on, editing.put (ByteText.ofNat editing.number ++ ['\n']))
  | .source => (on, editing.put (editing.source ++ ['\n']))
  | .spell => (on, editing.put (wrapped 69 [] (editing.space.map spelled)))
  | .quit status silently =>
    (.stop, { (if silently then editing else program.closed editing) with status := status })
  | .write path => (on, editing.writeTo path editing.space)
  | .empty => (on, { editing with space := [] })

-- Every instruction takes one from a bound on how long the work may go on.
def run (program : Program) : Nat → Nat → Editing → Editing
  | 0, _, editing => editing
  | room + 1, place, editing =>
    let nextCycle := fun (editing : Editing) =>
      match editing.advance with
      | none => editing
      | some next => run program room 0 { next with substituted := false }
    match program.instructions[place]? with
    | none => nextCycle (program.closed editing)
    | some instruction =>
      let (selected, editing) := editing.selects place instruction
      if editing.failed then editing
      else if !selected then
        run program room (if instruction.action = .enter then
          afterBlock place 0 (program.instructions.toList.drop place) else place + 1) editing
      else
        match program.act place instruction editing with
        | (.goTo next, editing) => run program room next editing
        | (.endCycle, editing) => nextCycle editing.flushed
        | (.again, editing) => run program room 0 editing.flushed
        | (.stop, editing) => editing

def patience : Nat := 400000

def edit (program : Program) (source text : ByteText) : Editing :=
  match (Editing.start source text).advance with
  | none => .start source text
  | some editing => program.run patience 0 editing

end Program

end CompletionRules.Shell.LineEdit
