import CompletionRules.Shell.Arithmetic
import CompletionRules.Shell.Pattern
import CompletionRules.Shell.Session

-- Filling in the parts of a word. What comes out of an unquoted part is cut into fields at the
-- characters of the separator variable; literal and quoted text never is.

namespace CompletionRules.Shell

inductive Fragment where
  | fixed (text : ByteText) (quoted : Bool)
  | loose (text : ByteText)
  | cut
  deriving Repr, DecidableEq

namespace Fragment

def ofValue (value : ByteText) (quoted : Bool) : Fragment :=
  if quoted then .fixed value true else .loose value

def loosened (quoted : Bool) : Fragment → Fragment
  | .fixed text false => ofValue text quoted
  | fragment => fragment

def field (joint : ByteText) : Fragment → Field
  | .fixed text quoted => Field.ofText text quoted
  | .loose text => Field.ofText text false
  | .cut => Field.ofText joint true

def whole (joint : ByteText) (fragments : List Fragment) : Field := fragments.flatMap (field joint)

def isBlank (c : Char) : Bool := c == ' ' || c == '\t' || c == '\n'

structure Cutting where
  done : List Field
  current : Option Field
  spaced : Bool

namespace Cutting

def add (cutting : Cutting) (more : Field) : Cutting :=
  { cutting with current := some (cutting.current.getD [] ++ more), spaced := false }

def close (cutting : Cutting) : Cutting :=
  match cutting.current with
  | some field => { cutting with done := cutting.done ++ [field], current := none }
  | none => cutting

-- Blanks in a row separate once, and so do blanks with one other separator among them; any other
-- separator ends a field even if that is empty.
def addLoose (separators : ByteText) (cutting : Cutting) (c : Char) : Cutting :=
  if !separators.contains c then cutting.add [(c, false)]
  else if cutting.spaced then { cutting with spaced := isBlank c }
  else if isBlank c && cutting.current.isNone then cutting
  else { (cutting.add []).close with spaced := isBlank c }

def addFragment (separators : ByteText) (cutting : Cutting) : Fragment → Cutting
  | .fixed text quoted => cutting.add (Field.ofText text quoted)
  | .loose text => { text.foldl (addLoose separators) cutting with spaced := false }
  | .cut => { cutting.close with spaced := true }

end Cutting

def cutInto (separators : ByteText) (fragments : List Fragment) : List Field :=
  (fragments.foldl (Cutting.addFragment separators) ⟨[], none, false⟩).close.done

end Fragment

variable {m : Type → Type} [Monad m] [Disk m]

def separators (session : Session) : ByteText := (session.value? "IFS").getD [' ', '\t', '\n']

def joint (session : Session) : ByteText := (separators session).take 1

def optionLetters (session : Session) : ByteText :=
  "ubaCEVvxsnmiIfe".toList.filter session.options.contains

def parameter? (session : Session) (name : String) : Option ByteText :=
  match name with
  | "?" => some (ByteText.ofNat session.status)
  | "$" => some (ByteText.ofNat processNumber)
  | "#" => some (ByteText.ofNat session.arguments.length)
  | "@" | "*" =>
    if session.arguments.isEmpty then none else some ((joint session).intercalate session.arguments)
  | "0" => some session.name
  | "-" => some (optionLetters session)
  | "!" => session.beside.map fun _ => ByteText.ofNat besideNumber
  | _ =>
    match name.toNat? with
    | some (place + 1) => session.arguments[place]?
    | _ => session.value? name

def dropLineEnds (text : ByteText) : ByteText := (text.reverse.dropWhile (· == '\n')).reverse

def captured (run : Command → Run m Flow) (body : Command) : Run m ByteText := do
  let before ← get
  let (number, opened) := before.openPipe []
  set { opened.lead 1 (.pipe number) with guarded := false }
  let _ ← run (.subshell body)
  let after ← get
  set { (before.rejoin after).dropPipe number with
    status := before.status
    captured := some (before.rejoin after).status }
  pure (dropLineEnds ((after.pipeText number).filter (· ≠ '\x00')))

def failWith (message : String) : Run m (List Fragment) := do
  complain message
  setFailed
  pure []

def argumentFragments (quoted : Bool) (arguments : List ByteText) : List Fragment :=
  (arguments.map fun argument => Fragment.ofValue argument quoted).intersperse .cut

def isUsable (strict : Bool) : Option ByteText → Bool
  | none => false
  | some value => !(strict && value.isEmpty)

def needsValue (name : String) : Use → Bool
  | .value | .length | .withoutStart _ | .withoutEnd _ => name != "@" && name != "*"
  | _ => false

def expand (run : Command → Run m Flow) : Nat → Word → Run m (List Fragment)
  | 0, _ => pure []
  | _, [] => pure []
  | depth + 1, part :: rest => do
    let first ← match part with
      | .text text quoted => pure [Fragment.fixed text quoted]
      | .output body quoted => do
        let value ← captured run body
        pure [Fragment.ofValue value quoted]
      | .number body quoted => do
        let fragments ← expand run depth body
        let text := Field.plain (Fragment.whole (joint (← get)) fragments)
        let known := (← get).values
        match (Arithmetic.read? text).bind fun held => (Arithmetic.evaluate held).run known with
        | some (value, values) => do
          modify fun session => { session with values := values }
          pure [Fragment.ofValue (ByteText.ofInt value) quoted]
        | none => failWith ("arithmetic expression: expecting primary: \"" ++ text.toText ++ "\"")
      | .parameter name use argument quoted => do
        let session ← get
        let held := parameter? session name
        let whole := Fragment.whole (joint session)
        let asIs : List Fragment :=
          if name = "@" || (name = "*" && !quoted) then argumentFragments quoted session.arguments
          else (held.map fun value => Fragment.ofValue value quoted).toList
        if session.isCareful && held.isNone && needsValue name use then
          failWith (name ++ ": parameter not set")
        else match use with
        | .value => pure asIs
        | .unreadable => failWith "Bad substitution"
        | .length => pure [Fragment.ofValue (ByteText.ofNat (held.getD []).length) quoted]
        | .orElse strict =>
          if isUsable strict held then pure asIs
          else pure ((← expand run depth argument).map (Fragment.loosened quoted))
        | .ifSet strict =>
          if isUsable strict held then
            pure ((← expand run depth argument).map (Fragment.loosened quoted))
          else pure []
        | .orAssign strict =>
          if isUsable strict held then pure asIs
          else do
            let fragments ← expand run depth argument
            let value := Field.plain (whole fragments)
            assignValue name value
            pure [Fragment.ofValue value quoted]
        | .orFail strict =>
          if isUsable strict held then pure asIs
          else do
            let fragments ← expand run depth argument
            let text := Field.plain (whole fragments)
            failWith (name ++ ": " ++ (if text.isEmpty then "parameter not set" else text.toText))
        | .withoutStart longest => do
          let fragments ← expand run depth argument
          let pattern := Pattern.ofField (whole fragments)
          pure [Fragment.ofValue (pattern.dropStart longest (held.getD [])) quoted]
        | .withoutEnd longest => do
          let fragments ← expand run depth argument
          let pattern := Pattern.ofField (whole fragments)
          pure [Fragment.ofValue (pattern.dropEnd longest (held.getD [])) quoted]
    let others ← expand run depth rest
    pure (first ++ others)

def wordDepth : Nat := 4096

def wholeOf (run : Command → Run m Flow) (word : Word) : Run m Field := do
  let fragments ← expand run wordDepth word
  pure (Fragment.whole (joint (← get)) fragments)

def textOf (run : Command → Run m Flow) (word : Word) : Run m ByteText := do
  pure (← wholeOf run word).plain

def acceptedNames (directory : ByteText) (field : Field) : Run m (List ByteText) := do
  let pattern := Pattern.ofField field
  let place := (← get).located (if directory.isEmpty then "." else directory.toText)
  match ← (Disk.list place : m (Except FileError (List String))) with
  | .error _ => pure []
  | .ok names =>
    pure ((names.map ByteText.ofString).filter fun name =>
      pattern.accepts name && (name.head? ≠ some '.' || field.plain.head? = some '.'))

def components : Field → List (Field × Bool)
  | [] => []
  | (c, quoted) :: rest =>
    if c = '/' then ([], true) :: components rest
    else match components rest with
      | (field, slash) :: others => ((c, quoted) :: field, slash) :: others
      | [] => [([(c, quoted)], false)]

def pathsFrom : List (Field × Bool) → ByteText → Run m (List ByteText)
  | [], path => do
    let place := (← get).located path.toText
    if ← (Disk.holds place : m Bool) then pure [path] else pure []
  | (field, slash) :: rest, path => do
    let goOn := fun (name : ByteText) => pathsFrom rest (path ++ name ++ if slash then ['/'] else [])
    if (Pattern.ofField field).isLiteral then goOn field.settled.plain
    else do
      let names ← acceptedNames path field
      let found ← names.mapM goOn
      pure found.flatten

def matchingPaths (field : Field) : Run m (List ByteText) := do
  let session ← get
  if (Pattern.ofField field).isLiteral || session.options.contains 'f' then pure [field.plain]
  else do
    let found ← pathsFrom (components field) []
    pure (if found.isEmpty then [field.plain] else ByteText.sorted found)

def fieldsOf (run : Command → Run m Flow) (word : Word) : Run m (List ByteText) := do
  let fragments ← expand run wordDepth word
  let paths ← (Fragment.cutInto (separators (← get)) fragments).mapM matchingPaths
  pure paths.flatten

def allFields (run : Command → Run m Flow) (words : List Word) : Run m (List ByteText) := do
  let fields ← words.mapM (fieldsOf run)
  pure fields.flatten

end CompletionRules.Shell
