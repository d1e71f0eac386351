import Mathlib.Data.List.Basic

-- Things listed in the order in which another list first names them. What that list names later
-- disturbs nothing, and what it has not named before goes to the end.

namespace CompletionRules.Text

variable {ι α : Type} [BEq α] [LawfulBEq α] {key : ι → α} {listed : List ι} {named : List α}

theorem inOrder_append (known : ∀ row ∈ listed, key row ∈ named)
    (inOrder : listed.Pairwise fun first second => named.idxOf (key first) < named.idxOf (key second)) (more : List α) :
    listed.Pairwise fun first second => (named ++ more).idxOf (key first) < (named ++ more).idxOf (key second) := by
  refine inOrder.imp_of_mem fun {first second} left right ordered => ?_
  rwa [List.idxOf_append_of_mem (known first left), List.idxOf_append_of_mem (known second right)]

theorem inOrder_concat {last : ι} (known : ∀ row ∈ listed, key row ∈ named)
    (inOrder : listed.Pairwise fun first second => named.idxOf (key first) < named.idxOf (key second))
    (fresh : key last ∉ named) : (listed ++ [last]).Pairwise fun first second =>
      (named ++ [key last]).idxOf (key first) < (named ++ [key last]).idxOf (key second) := by
  refine List.pairwise_append.mpr ⟨inOrder_append known inOrder _, List.pairwise_singleton _ _, ?_⟩
  intro first member second same
  have inside := List.idxOf_lt_length_of_mem (known first member)
  rw [List.mem_singleton.mp same, List.idxOf_append_of_mem (known first member), List.idxOf_append_of_notMem fresh]
  omega

end CompletionRules.Text
