import CompletionRules.Text.Pieces

-- Nothing here looks at files: a path is joined, taken apart and renamed by its text alone.

namespace CompletionRules.Path

def isAbsolute (path : String) : Bool := path.toList.head? = some '/'

def endsInSlash (path : String) : Bool := path.toList.getLast? = some '/'

-- An absolute right side stands for itself. There is never a second slash at the seam, and nothing
-- on the right leaves the seam's slash at the end.
def join (left right : String) : String :=
  if isAbsolute right || left.isEmpty then right
  else if endsInSlash left then left ++ right
  else left ++ "/" ++ right

def components (path : String) : List String :=
  ((Text.pieces (· == '/') path.toList).filter fun piece => !piece.isEmpty).map String.ofList

def dropTrailing : List Char → List Char
  | '/' :: rest => dropTrailing rest
  | '.' :: '/' :: rest => dropTrailing rest
  | text => text

def stemReversed (name : List Char) : List Char :=
  match name.dropWhile (· ≠ '.') with
  | [] | [_] => name
  | _ :: stem => stem

def withExtension (path extension : String) : String :=
  let text := dropTrailing path.toList.reverse
  let name := text.takeWhile (· ≠ '/')
  if name = [] || name = ['.'] || name = ['.', '.'] then path
  else .ofList (text.dropWhile (· ≠ '/')).reverse ++ .ofList (stemReversed name).reverse ++ "." ++
    extension

def lastComponent (path : String) : String := (components path).getLast?.getD path

end CompletionRules.Path
