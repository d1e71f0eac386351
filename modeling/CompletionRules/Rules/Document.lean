import CompletionRules.Rules.Tree

-- A document is a rule tree with options for the script. A document that was read has a branch at
-- its root; one whose root is a leaf has no root keys and names no program.

namespace CompletionRules

structure Document where
  root : Tree
  options : List (String × String)
  root_distinct : root.KeysDistinct
  options_distinct : Pairs.Distinct options

namespace Document

def build (root : Tree) (options : List (String × String)) : Document :=
  ⟨root.merged, Pairs.merged options, root.merged_keysDistinct, Pairs.merged_distinct options⟩

def empty : Document := build (.branch .nil) []

def rootChildren (document : Document) : Children :=
  match document.root with
  | .leaf _ => .nil
  | .branch children => children

def roots (document : Document) : List (Key × Tree) := document.rootChildren.toList

def programs (document : Document) : List String :=
  (document.roots.filterMap fun (key, _) =>
    match key.tokens.head? with
    | some (.word text) => some text
    | _ => none).foldl (fun met program => if met.contains program then met else met ++ [program]) []

end Document

end CompletionRules
