import Highlight.Order
import Mathlib.Data.List.Sort

/-!
# Sorted lists

`insertBy` and `sortBy` are insertion and insertion sort as the library has them
(`insertBy_eq_orderedInsert`, `sortBy_eq_insertionSort`). So `sortBy` sorts: for a total and
transitive order its result is in order (`sortBy_pairwise`), and among lists with the same elements
there is one in order only, unless two elements come before each other (`sortBy_filter` is the use of
it: sorting a selection is selecting from what is sorted).
-/

namespace Highlight

variable {α : Type} {le : α → α → Bool}

/-- An order in which any two elements are comparable, and which chains. -/
structure IsTotalOrder (le : α → α → Bool) : Prop where
  trans : ∀ {a b c : α}, le a b = true → le b c = true → le a c = true
  total : ∀ a b : α, le a b = true ∨ le b a = true

theorem insertBy_eq_orderedInsert (le : α → α → Bool) (x : α) (xs : List α) :
    insertBy le x xs = xs.orderedInsert (fun a b => le a b = true) x := by
  induction xs with
  | nil => rfl
  | cons y ys ih => rw [insertBy, List.orderedInsert, ih]

theorem sortBy_eq_insertionSort (le : α → α → Bool) (xs : List α) :
    sortBy le xs = xs.insertionSort fun a b => le a b = true := by
  induction xs with
  | nil => rfl
  | cons x xs ih => rw [sortBy, List.insertionSort_cons, ih, insertBy_eq_orderedInsert]

theorem sortBy_perm (le : α → α → Bool) (xs : List α) : (sortBy le xs).Perm xs := by
  rw [sortBy_eq_insertionSort]
  exact List.perm_insertionSort _ xs

/-- An element inserted into a list in order leaves it in order. -/
theorem insertBy_pairwise (order : IsTotalOrder le) (x : α) {xs : List α}
    (sorted : xs.Pairwise fun a b => le a b = true) :
    (insertBy le x xs).Pairwise fun a b => le a b = true := by
  have : Std.Total fun a b => le a b = true := ⟨order.total⟩
  have : IsTrans α fun a b => le a b = true := ⟨fun _ _ _ => order.trans⟩
  rw [insertBy_eq_orderedInsert]
  exact sorted.orderedInsert x xs

/-- Sorting brings a list in order. -/
theorem sortBy_pairwise (order : IsTotalOrder le) (xs : List α) :
    (sortBy le xs).Pairwise fun a b => le a b = true := by
  have : Std.Total fun a b => le a b = true := ⟨order.total⟩
  have : IsTrans α fun a b => le a b = true := ⟨fun _ _ _ => order.trans⟩
  rw [sortBy_eq_insertionSort]
  exact List.pairwise_insertionSort _ xs

/-- Several insertions leave a list in order. -/
theorem foldl_insertBy_pairwise (order : IsTotalOrder le) (news : List α) {xs : List α}
    (sorted : xs.Pairwise fun a b => le a b = true) :
    (news.foldl (fun sofar x => insertBy le x sofar) xs).Pairwise fun a b => le a b = true := by
  induction news generalizing xs with
  | nil => exact sorted
  | cons x news ih => exact ih (insertBy_pairwise order x sorted)

/-- Several insertions add the elements, and nothing else changes. -/
theorem foldl_insertBy_perm (news xs : List α) :
    (news.foldl (fun sofar x => insertBy le x sofar) xs).Perm (xs ++ news) := by
  induction news generalizing xs with
  | nil => rw [List.foldl_nil, List.append_nil]
  | cons x news ih =>
    rw [List.foldl_cons]
    refine (ih (insertBy le x xs)).trans ?_
    rw [insertBy_eq_orderedInsert]
    exact ((List.perm_orderedInsert _ x xs).append_right news).trans List.perm_middle.symm

/-- **The order a list comes in does not matter** for what it is sorted to, where no two elements
come before each other. -/
theorem sortBy_eq_of_perm (order : IsTotalOrder le) {xs ys : List α} (perm : ys.Perm xs)
    (distinct : ∀ a ∈ xs, ∀ b ∈ xs, le a b = true → le b a = true → a = b) :
    sortBy le ys = sortBy le xs := by
  refine List.Perm.eq_of_pairwise ?_ (sortBy_pairwise order ys) (sortBy_pairwise order xs) ?_
  · intro a b ha hb
    have ha := perm.mem_iff.mp ((sortBy_perm le ys).mem_iff.mp ha)
    have hb := (sortBy_perm le xs).mem_iff.mp hb
    exact distinct a ha b hb
  · exact (sortBy_perm le ys).trans (perm.trans (sortBy_perm le xs).symm)

/-- **Selecting and sorting commute**, where no two elements come before each other. -/
theorem sortBy_filter (order : IsTotalOrder le) {xs : List α}
    (distinct : ∀ a ∈ xs, ∀ b ∈ xs, le a b = true → le b a = true → a = b) (keep : α → Bool) :
    (sortBy le xs).filter keep = sortBy le (xs.filter keep) := by
  refine List.Perm.eq_of_pairwise ?_ ((sortBy_pairwise order xs).filter keep)
    (sortBy_pairwise order (xs.filter keep)) ?_
  · intro a b ha hb
    have ha := (sortBy_perm le xs).mem_iff.mp (List.mem_filter.mp ha).1
    have hb := (List.mem_filter.mp ((sortBy_perm le (xs.filter keep)).mem_iff.mp hb)).1
    exact distinct a ha b hb
  · exact ((sortBy_perm le xs).filter keep).trans (sortBy_perm le (xs.filter keep)).symm

end Highlight
