import CompletionRules.Shell.ByteText

-- A word is a list of parts, each literal or to be filled in when the word is used.

namespace CompletionRules.Shell

-- What is done with the value of a parameter. `strict` counts an empty value as unset. A use that there
-- is none of fails when it is come to.
inductive Use where
  | value
  | length
  | orElse (strict : Bool)
  | orAssign (strict : Bool)
  | orFail (strict : Bool)
  | ifSet (strict : Bool)
  | withoutStart (longest : Bool)
  | withoutEnd (longest : Bool)
  | unreadable
  deriving Repr, DecidableEq

inductive Opening where
  | read
  | write
  | overwrite
  | append
  | readWrite
  deriving Repr, DecidableEq

mutual

inductive Part where
  | text (text : ByteText) (quoted : Bool)
  | parameter (name : String) (use : Use) (argument : List Part) (quoted : Bool)
  | output (body : Command) (quoted : Bool)
  | number (expression : List Part) (quoted : Bool)

inductive Redirect where
  | file (descriptor : Nat) (opening : Opening) (target : List Part)
  | duplicate (descriptor : Nat) (target : List Part)
  | document (descriptor : Nat) (number : Nat)

inductive Command where
  | nothing
  | simple (line : Nat) (assignments : List (String × List Part)) (words : List (List Part))
      (redirects : List Redirect)
  | redirected (body : Command) (redirects : List Redirect)
  | pipe (left right : Command)
  | negated (body : Command)
  | both (left right : Command)
  | either (left right : Command)
  | sequence (first second : Command)
  | background (body : Command)
  | group (body : Command)
  | subshell (body : Command)
  | branch (condition consequence alternative : Command)
  | loop (untilTrue : Bool) (condition body : Command)
  | each (name : String) (words : Option (List (List Part))) (body : Command)
  | choice (subject : List Part) (arms : List (List (List Part) × Command))
  | function (name : String) (body : Command)

end

abbrev Word := List Part

def Word.literalName? : Word → Option String
  | [] => some ""
  | .text chars false :: others => (literalName? others).map fun name => .ofList chars ++ name
  | _ => none

instance : Inhabited Command := ⟨.nothing⟩

end CompletionRules.Shell
