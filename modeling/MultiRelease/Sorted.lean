/-!
# Sorted lists without repetition

Sets whose order shows are kept as sorted lists.  Of elements that count as the same, the one that
came last is kept: sorting leaves them in the order in which they came, and each gives way to the
next.
-/

set_option autoImplicit false

namespace MultiRelease

/-- Keeps the last of each run of elements that count as the same. -/
def dropRepeated {α : Type} (same : α → α → Bool) : List α → List α
  | [] => []
  | [a] => [a]
  | a :: b :: rest =>
    if same a b then dropRepeated same (b :: rest) else a :: dropRepeated same (b :: rest)

/-- The elements in ascending order, each once. -/
def sortedDistinct {α : Type} (precedes same : α → α → Bool) (elements : List α) : List α :=
  dropRepeated same (elements.mergeSort precedes)

/-- Texts in ascending order, each once. -/
def sortedTexts (texts : List String) : List String :=
  sortedDistinct (fun a b => decide (a ≤ b)) (fun a b => decide (a = b)) texts

end MultiRelease
