/-!
# Sorting

Insertion into a sorted list. An element goes in front of those it does not exceed, so equal
elements keep their order, and the result is computed by structural recursion alone.
-/

namespace Highlight

/-- The list with `x` in front of the first element that does not come strictly before it. -/
def insertBy (le : α → α → Bool) (x : α) : List α → List α
  | [] => [x]
  | y :: ys => if le x y then x :: y :: ys else y :: insertBy le x ys

/-- The list in the order of `le`, equal elements in the order they came in. -/
def sortBy (le : α → α → Bool) : List α → List α
  | [] => []
  | x :: xs => insertBy le x (sortBy le xs)

end Highlight
