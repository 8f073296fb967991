/-!
# `Foreman.Collection.NameSet` — finite sets of names

Capabilities, dependency sets and task assignments are sets of names. A `NameSet` is the strictly
ascending list of its members, so two sets with the same members are equal, and every traversal
visits names in the order in which reports print them.

## Contents
- **Ordered insertion** on plain lists: `insertName`, with membership and order lemmas.
- **`NameSet`**: `empty`, `insert`, `erase`, `ofList`, `union`, `subset`, membership.
- **Extensionality**: `NameSet.ext_mem`, and what insertion and removal do to each other.
- **Sizes**: `NameSet.size_insert`, `NameSet.size_erase`.
-/

namespace Foreman

/-! ## Ordered insertion -/

/-- Puts a name at its place in an ascending list; a name that is present stays as it is. -/
def insertName (x : String) : List String → List String
  | [] => [x]
  | y :: ys => if x < y then x :: y :: ys else if x = y then y :: ys else y :: insertName x ys

theorem mem_insertName {x y : String} {ys : List String} :
    y ∈ insertName x ys ↔ y = x ∨ y ∈ ys := by
  induction ys with
  | nil => simp [insertName]
  | cons z zs ih =>
    simp only [insertName]
    split
    · simp
    · split
      · next h => subst h; simp
      · simp only [List.mem_cons, ih]
        constructor
        · rintro (h | h | h) <;> simp [h]
        · rintro (h | h | h) <;> simp [h]

/-- Two names that are not in the order `x < y` and not equal are in the order `y < x`. -/
theorem lt_of_not_lt_of_ne {x y : String} (h : ¬ x < y) (hne : x ≠ y) : y < x := by
  rcases Std.le_iff_lt_or_eq.mp (Std.not_lt.mp h) with h' | h'
  · exact h'
  · exact absurd h'.symm hne

theorem insertName_ascending {x : String} {ys : List String} (h : ys.Pairwise (· < ·)) :
    (insertName x ys).Pairwise (· < ·) := by
  induction ys with
  | nil => simp [insertName]
  | cons z zs ih =>
    have hz := List.pairwise_cons.mp h
    simp only [insertName]
    split
    · next hlt =>
      refine List.pairwise_cons.mpr ⟨fun a ha => ?_, h⟩
      rcases List.mem_cons.mp ha with rfl | ha
      · exact hlt
      · exact String.lt_trans hlt (hz.1 a ha)
    · next hnlt =>
      split
      · exact h
      · next hne =>
        refine List.pairwise_cons.mpr ⟨fun a ha => ?_, ih hz.2⟩
        rcases mem_insertName.mp ha with rfl | ha
        · exact lt_of_not_lt_of_ne hnlt hne
        · exact hz.1 a ha

/-! ## Sets of names -/

/-- A finite set of names, held as its strictly ascending list of members. -/
structure NameSet where
  toList : List String
  ascending : toList.Pairwise (· < ·)
  deriving DecidableEq

namespace NameSet

instance : Membership String NameSet := ⟨fun s x => x ∈ s.toList⟩

theorem mem_def {s : NameSet} {x : String} : x ∈ s ↔ x ∈ s.toList := Iff.rfl

instance (x : String) (s : NameSet) : Decidable (x ∈ s) :=
  inferInstanceAs (Decidable (x ∈ s.toList))

/-- The set without members. -/
def empty : NameSet := ⟨[], List.Pairwise.nil⟩

instance : Inhabited NameSet := ⟨empty⟩

instance : EmptyCollection NameSet := ⟨empty⟩

/-- The set with one more member. -/
def insert (s : NameSet) (x : String) : NameSet :=
  ⟨insertName x s.toList, insertName_ascending s.ascending⟩

/-- The set without one member. -/
def erase (s : NameSet) (x : String) : NameSet :=
  ⟨s.toList.filter (· ≠ x), s.ascending.filter _⟩

/-- The members of a list, each once. -/
def ofList (xs : List String) : NameSet := xs.foldl insert empty

/-- The members of either set. -/
def union (s t : NameSet) : NameSet := t.toList.foldl insert s

/-- Number of members. -/
def size (s : NameSet) : Nat := s.toList.length

/-- Whether the set has no member. -/
def isEmpty (s : NameSet) : Bool := s.toList.isEmpty

/-- Whether a name is a member. -/
def contains (s : NameSet) (x : String) : Bool := decide (x ∈ s)

/-- Whether every member of `s` is one of `t`. -/
def subset (s t : NameSet) : Bool := s.toList.all t.contains

@[simp] theorem not_mem_empty {x : String} : ¬ x ∈ (empty : NameSet) := by
  simp [mem_def, empty]

@[simp] theorem mem_insert {s : NameSet} {x y : String} : y ∈ s.insert x ↔ y = x ∨ y ∈ s :=
  mem_insertName

@[simp] theorem mem_erase {s : NameSet} {x y : String} : y ∈ s.erase x ↔ y ∈ s ∧ y ≠ x := by
  simp [mem_def, erase]

@[simp] theorem contains_eq_true {s : NameSet} {x : String} : s.contains x = true ↔ x ∈ s := by
  simp [contains]

@[simp] theorem subset_eq_true {s t : NameSet} : s.subset t = true ↔ ∀ x ∈ s, x ∈ t := by
  simp [subset, mem_def]

@[simp] theorem isEmpty_eq_true {s : NameSet} : s.isEmpty = true ↔ s = empty := by
  cases s with
  | mk xs h => cases xs <;> simp [isEmpty, empty]

theorem mem_foldl_insert {xs : List String} {s : NameSet} {y : String} :
    y ∈ xs.foldl insert s ↔ y ∈ s ∨ y ∈ xs := by
  induction xs generalizing s with
  | nil => simp
  | cons x xs ih =>
    simp only [List.foldl_cons, ih, mem_insert, List.mem_cons]
    constructor
    · rintro ((h | h) | h) <;> simp [h]
    · rintro (h | h | h) <;> simp [h]

@[simp] theorem mem_ofList {xs : List String} {y : String} : y ∈ ofList xs ↔ y ∈ xs := by
  simp [ofList, mem_foldl_insert]

@[simp] theorem mem_union {s t : NameSet} {y : String} : y ∈ s.union t ↔ y ∈ s ∨ y ∈ t :=
  mem_foldl_insert

theorem nodup (s : NameSet) : s.toList.Nodup :=
  List.Pairwise.imp (fun h e => absurd (e ▸ h) (String.lt_irrefl _)) s.ascending

/-! ## Extensionality -/

/-- Strictly ascending lists with the same members are equal. -/
theorem eq_of_ascending {xs ys : List String} (hx : xs.Pairwise (· < ·))
    (hy : ys.Pairwise (· < ·)) (h : ∀ a, a ∈ xs ↔ a ∈ ys) : xs = ys := by
  induction xs generalizing ys with
  | nil =>
    cases ys with
    | nil => rfl
    | cons y ys => exact absurd ((h y).mpr (by simp)) (by simp)
  | cons x xs ih =>
    cases ys with
    | nil => exact absurd ((h x).mp (by simp)) (by simp)
    | cons y ys =>
      have hx' := List.pairwise_cons.mp hx
      have hy' := List.pairwise_cons.mp hy
      have hxy : x = y := by
        rcases List.mem_cons.mp ((h x).mp (by simp)) with e | e
        · exact e
        · rcases List.mem_cons.mp ((h y).mpr (by simp)) with e' | e'
          · exact e'.symm
          · exact absurd (String.lt_trans (hx'.1 y e') (hy'.1 x e)) (String.lt_irrefl _)
      subst hxy
      have hmem : ∀ a, a ∈ xs ↔ a ∈ ys := by
        intro a
        constructor
        · intro ha
          rcases List.mem_cons.mp ((h a).mp (List.mem_cons_of_mem _ ha)) with e | e
          · exact absurd (hx'.1 a ha) (e ▸ String.lt_irrefl _)
          · exact e
        · intro ha
          rcases List.mem_cons.mp ((h a).mpr (List.mem_cons_of_mem _ ha)) with e | e
          · exact absurd (hy'.1 a ha) (e ▸ String.lt_irrefl _)
          · exact e
      rw [ih hx'.2 hy'.2 hmem]

/-- Sets with the same members are equal. -/
theorem ext_mem {s t : NameSet} (h : ∀ x, x ∈ s ↔ x ∈ t) : s = t := by
  cases s with
  | mk xs hx =>
    cases t with
    | mk ys hy =>
      have := eq_of_ascending hx hy h
      subst this
      rfl

/-- Rebuilding a set from its members gives the set back. -/
@[simp] theorem ofList_toList (s : NameSet) : ofList s.toList = s :=
  ext_mem fun _ => mem_ofList

theorem insert_erase {s : NameSet} {x : String} (h : x ∈ s) : (s.erase x).insert x = s := by
  refine ext_mem fun y => ?_
  by_cases hy : y = x <;> simp [hy, h]

theorem erase_of_not_mem {s : NameSet} {x : String} (h : x ∉ s) : s.erase x = s := by
  refine ext_mem fun y => ⟨fun hy => (mem_erase.mp hy).1, fun hy => mem_erase.mpr ⟨hy, ?_⟩⟩
  rintro rfl
  exact h hy

/-! ## Sizes -/

theorem length_insertName {x : String} {ys : List String} (h : x ∉ ys) :
    (insertName x ys).length = ys.length + 1 := by
  induction ys with
  | nil => rfl
  | cons y ys ih =>
    have hxy := List.ne_and_not_mem_of_not_mem_cons h
    simp only [insertName]
    split
    · rfl
    · rw [if_neg hxy.1, List.length_cons, ih hxy.2, List.length_cons]

theorem size_insert {s : NameSet} {x : String} (h : x ∉ s) : (s.insert x).size = s.size + 1 :=
  length_insertName h

theorem size_erase {s : NameSet} {x : String} (h : x ∈ s) : (s.erase x).size + 1 = s.size := by
  have hout : x ∉ s.erase x := fun hx => (mem_erase.mp hx).2 rfl
  rw [← size_insert hout, insert_erase h]

end NameSet

end Foreman
