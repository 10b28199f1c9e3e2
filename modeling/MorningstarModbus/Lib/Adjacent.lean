import Mathlib.Algebra.BigOperators.Group.List.Basic
import Mathlib.Algebra.Order.Ring.Unbundled.Rat
import Mathlib.Data.Rat.Lemmas
import Mathlib.Tactic.Ring

/-!
# Adjacent

The adjacent pairs of a list, as `zip(xs, xs[1:])` gives them.

* `adjacent_append` — the pairs of a list, from those of two parts that share an element;
* `sum_adjacent_sub` — the steps of a measure add up to its change over the list.
-/

namespace Adjacent

variable {α : Type*}

/-- `zip(xs, xs[1:], strict=False)` -/
def adjacent (xs : List α) : List (α × α) := xs.zip xs.tail

@[simp] theorem adjacent_nil : adjacent ([] : List α) = [] := rfl

@[simp] theorem adjacent_singleton (a : α) : adjacent [a] = [] := rfl

@[simp] theorem adjacent_cons_cons (a b : α) (xs : List α) :
    adjacent (a :: b :: xs) = (a, b) :: adjacent (b :: xs) := rfl

/-- The pairs of a list are those of two parts that share an element. -/
theorem adjacent_append (xs : List α) (a : α) (ys : List α) :
    adjacent (xs ++ a :: ys) = adjacent (xs ++ [a]) ++ adjacent (a :: ys) := by
  induction xs with
  | nil => rfl
  | cons x xs ih =>
      cases xs with
      | nil => rfl
      | cons y xs =>
          simp only [List.cons_append, adjacent_cons_cons] at ih ⊢
          rw [ih]

/-- A relation of all pairs holds of adjacent ones. -/
theorem of_mem_adjacent {R : α → α → Prop} {xs : List α} (h : xs.Pairwise R) {p : α × α}
    (hp : p ∈ adjacent xs) : R p.1 p.2 := by
  induction xs with
  | nil => cases hp
  | cons a xs ih =>
      cases xs with
      | nil => cases hp
      | cons b xs =>
          rw [adjacent_cons_cons, List.mem_cons] at hp
          cases hp with
          | inl hfirst => exact hfirst ▸ (List.pairwise_cons.mp h).1 b List.mem_cons_self
          | inr hrest => exact ih (List.pairwise_cons.mp h).2 hrest

theorem mem_of_mem_adjacent {xs : List α} {p : α × α} (hp : p ∈ adjacent xs) :
    p.1 ∈ xs ∧ p.2 ∈ xs :=
  ⟨(List.of_mem_zip hp).1, List.mem_of_mem_tail (List.of_mem_zip hp).2⟩

/-- The steps of a measure add up to its change. -/
theorem sum_adjacent_sub (f : α → ℚ) (a : α) (xs : List α) :
    ((adjacent (a :: xs)).map fun p => f p.2 - f p.1).sum =
      f ((a :: xs).getLast (List.cons_ne_nil a xs)) - f a := by
  induction xs generalizing a with
  | nil => simp
  | cons b xs ih =>
      rw [adjacent_cons_cons, List.map_cons, List.sum_cons, ih,
        List.getLast_cons (List.cons_ne_nil b xs)]
      ring

end Adjacent
