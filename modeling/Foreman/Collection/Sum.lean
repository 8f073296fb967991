/-!
# `Foreman.Collection.Sum` — sums over lists

## Contents
- `sumOf`: the sum of a measure over the elements of a list.
- `sumOf_append`, `sumOf_perm`: it depends on neither the order nor the grouping.
- `sumOf_map`: measuring what a function makes of the elements.
- `sumOf_mul`: measuring in another unit.
- `sumOf_le_of_sublist`: a part measures no more than the whole.
- `sumOf_le_sumOf`, `sumOf_congr`: two measures compared element by element.
- `sumOf_eq_zero`: elements that measure nothing.
-/

namespace Foreman

variable {α : Type}

/-- The sum of a measure over the elements of a list. -/
@[simp] def sumOf (measure : α → Nat) : List α → Nat
  | [] => 0
  | x :: xs => measure x + sumOf measure xs

theorem sumOf_append (measure : α → Nat) (xs ys : List α) :
    sumOf measure (xs ++ ys) = sumOf measure xs + sumOf measure ys := by
  induction xs with
  | nil => simp
  | cons x xs ih => simp only [List.cons_append, sumOf, ih, Nat.add_assoc]

theorem sumOf_perm (measure : α → Nat) {xs ys : List α} (h : xs.Perm ys) :
    sumOf measure xs = sumOf measure ys := by
  induction h with
  | nil => rfl
  | cons x _ ih => simp only [sumOf, ih]
  | swap x y _ => simp only [sumOf]; omega
  | trans _ _ ih₁ ih₂ => exact ih₁.trans ih₂

theorem sumOf_map {β : Type} (measure : β → Nat) (f : α → β) (xs : List α) :
    sumOf measure (xs.map f) = sumOf (fun x => measure (f x)) xs := by
  induction xs with
  | nil => rfl
  | cons x xs ih => simp only [List.map_cons, sumOf, ih]

theorem sumOf_mul (measure : α → Nat) (unit : Nat) (xs : List α) :
    sumOf (fun x => measure x * unit) xs = sumOf measure xs * unit := by
  induction xs with
  | nil => simp
  | cons x xs ih => simp only [sumOf, ih, Nat.add_mul]

/-- What is left of a list measures no more than the list. -/
theorem sumOf_le_of_sublist (measure : α → Nat) {xs ys : List α} (h : xs.Sublist ys) :
    sumOf measure xs ≤ sumOf measure ys := by
  induction h with
  | slnil => exact Nat.le_refl _
  | cons y _ ih => exact Nat.le_trans ih (Nat.le_add_left _ _)
  | cons_cons y _ ih => exact Nat.add_le_add_left ih _

/-- If every element measures no more by one measure than by another, so does the list. -/
theorem sumOf_le_sumOf {measure measure' : α → Nat} {xs : List α}
    (h : ∀ x ∈ xs, measure x ≤ measure' x) : sumOf measure xs ≤ sumOf measure' xs := by
  induction xs with
  | nil => exact Nat.le_refl _
  | cons x xs ih =>
    have hxs := List.forall_mem_cons.mp h
    exact Nat.add_le_add hxs.1 (ih hxs.2)

theorem sumOf_congr {measure measure' : α → Nat} {xs : List α}
    (h : ∀ x ∈ xs, measure x = measure' x) : sumOf measure xs = sumOf measure' xs :=
  Nat.le_antisymm (sumOf_le_sumOf fun x hx => Nat.le_of_eq (h x hx))
    (sumOf_le_sumOf fun x hx => Nat.le_of_eq (h x hx).symm)

theorem sumOf_eq_zero {measure : α → Nat} {xs : List α} (h : ∀ x ∈ xs, measure x = 0) :
    sumOf measure xs = 0 := by
  induction xs with
  | nil => rfl
  | cons x xs ih =>
    have hxs := List.forall_mem_cons.mp h
    rw [sumOf, hxs.1, ih hxs.2]

end Foreman
