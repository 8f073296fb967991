/-!
# `Foreman.Collection.Sorting` — stable sorting by a numeric key

## Contents
- `sortBy`: ascending by a key, elements with equal keys staying in their order.
- `mem_sortBy`, `sortBy_perm`, `sortBy_ascending`, `sortBy_stable`.
- `sortBy_map`: sorting what a function makes of the elements.
-/

namespace Foreman

variable {α : Type}

/-- Puts an element in front of the first one whose key is not smaller. -/
def insertBy (key : α → Nat) (x : α) : List α → List α
  | [] => [x]
  | y :: ys => if key x ≤ key y then x :: y :: ys else y :: insertBy key x ys

/-- The list in ascending order of a key; elements with equal keys stay in their order. -/
def sortBy (key : α → Nat) (xs : List α) : List α := xs.foldr (insertBy key) []

theorem insertBy_perm (key : α → Nat) (x : α) (ys : List α) :
    (insertBy key x ys).Perm (x :: ys) := by
  induction ys with
  | nil => exact List.Perm.refl _
  | cons y ys ih =>
    simp only [insertBy]
    split
    · exact List.Perm.refl _
    · exact (ih.cons y).trans (List.Perm.swap x y ys)

theorem sortBy_perm (key : α → Nat) (xs : List α) : (sortBy key xs).Perm xs := by
  induction xs with
  | nil => exact List.Perm.refl _
  | cons x xs ih => exact (insertBy_perm key x _).trans (ih.cons x)

@[simp] theorem mem_sortBy {key : α → Nat} {xs : List α} {a : α} :
    a ∈ sortBy key xs ↔ a ∈ xs := (sortBy_perm key xs).mem_iff

theorem insertBy_ascending {key : α → Nat} {x : α} {ys : List α}
    (h : ys.Pairwise (key · ≤ key ·)) : (insertBy key x ys).Pairwise (key · ≤ key ·) := by
  induction ys with
  | nil => simp [insertBy]
  | cons y ys ih =>
    have hy := List.pairwise_cons.mp h
    simp only [insertBy]
    split
    · next hle =>
      refine List.pairwise_cons.mpr ⟨fun a ha => ?_, h⟩
      rcases List.mem_cons.mp ha with rfl | ha
      · exact hle
      · exact Nat.le_trans hle (hy.1 a ha)
    · next hle =>
      refine List.pairwise_cons.mpr ⟨fun a ha => ?_, ih hy.2⟩
      rcases List.mem_cons.mp ((insertBy_perm key x ys).mem_iff.mp ha) with rfl | ha
      · exact Nat.le_of_lt (Nat.lt_of_not_le hle)
      · exact hy.1 a ha

theorem sortBy_ascending (key : α → Nat) (xs : List α) :
    (sortBy key xs).Pairwise (key · ≤ key ·) := by
  induction xs with
  | nil => exact List.Pairwise.nil
  | cons x xs ih => exact insertBy_ascending ih

theorem insertBy_stable {key : α → Nat} {R : α → α → Prop} {x : α} {ys : List α}
    (hx : ∀ y ∈ ys, R x y) (h : ys.Pairwise fun a b => key a < key b ∨ R a b) :
    (insertBy key x ys).Pairwise fun a b => key a < key b ∨ R a b := by
  induction ys with
  | nil => simp [insertBy]
  | cons y ys ih =>
    have hy := List.pairwise_cons.mp h
    have hx' := List.forall_mem_cons.mp hx
    simp only [insertBy]
    split
    · exact List.pairwise_cons.mpr ⟨fun a ha => .inr (hx a ha), h⟩
    · next hle =>
      refine List.pairwise_cons.mpr ⟨fun a ha => ?_, ih hx'.2 hy.2⟩
      rcases List.mem_cons.mp ((insertBy_perm key x ys).mem_iff.mp ha) with rfl | ha
      · exact .inl (Nat.lt_of_not_le hle)
      · exact hy.1 a ha

/-- Two elements of the sorted list stand as their keys say, or as they stood before. -/
theorem sortBy_stable (key : α → Nat) {R : α → α → Prop} {xs : List α} (h : xs.Pairwise R) :
    (sortBy key xs).Pairwise fun a b => key a < key b ∨ R a b := by
  induction xs with
  | nil => exact List.Pairwise.nil
  | cons x xs ih =>
    obtain ⟨hx, hxs⟩ := List.pairwise_cons.mp h
    exact insertBy_stable (fun y hy => hx y (mem_sortBy.mp hy)) (ih hxs)

theorem insertBy_map {β : Type} (key : β → Nat) (f : α → β) (x : α) (ys : List α) :
    insertBy key (f x) (ys.map f) = (insertBy (fun a => key (f a)) x ys).map f := by
  induction ys with
  | nil => rfl
  | cons y ys ih =>
    rw [List.map_cons, insertBy, insertBy, ih]
    split <;> rfl

/-- Sorting what a function makes of the elements. -/
theorem sortBy_map {β : Type} (key : β → Nat) (f : α → β) (xs : List α) :
    sortBy key (xs.map f) = (sortBy (fun a => key (f a)) xs).map f := by
  induction xs with
  | nil => rfl
  | cons x xs ih =>
    have hsorted : sortBy key (f x :: xs.map f) = insertBy key (f x) (sortBy key (xs.map f)) := rfl
    rw [List.map_cons, hsorted, ih, insertBy_map]
    rfl

end Foreman
