import Foreman.Collection.NameSet

/-!
# `Foreman.Collection.NameMap` — finite maps keyed by names

A `NameMap β` is the list of its entries with strictly ascending keys: traversal is in key order, and
two maps that answer every look-up alike are equal.

## Contents
- **Entries**: `lookupEntry`, `putEntry` on plain lists.
- **`NameMap`**: `find?`, `insert`, `erase`, `modify`, `ofList`, `keys`, `values`, `mapValues`.
- **Look-up laws**: one equation per operation through `find?`, and extensionality.
-/

namespace Foreman

variable {β γ : Type}

/-! ## Entries -/

/-- The value stored under a key. -/
def lookupEntry (k : String) : List (String × β) → Option β
  | [] => none
  | (k', v) :: rest => if k = k' then some v else lookupEntry k rest

/-- Stores a value under a key in an ascending list of entries, replacing an earlier one. -/
def putEntry (k : String) (v : β) : List (String × β) → List (String × β)
  | [] => [(k, v)]
  | (k', v') :: rest =>
    if k < k' then (k, v) :: (k', v') :: rest
    else if k = k' then (k, v) :: rest
    else (k', v') :: putEntry k v rest

/-- The keys of `putEntry` are those of the list and the new one. -/
theorem keys_putEntry (k : String) (v : β) (l : List (String × β)) :
    (putEntry k v l).map Prod.fst = insertName k (l.map Prod.fst) := by
  induction l with
  | nil => rfl
  | cons e rest ih =>
    obtain ⟨k', v'⟩ := e
    simp only [putEntry, insertName, List.map_cons]
    split
    · rfl
    · split
      · next h => simp [h]
      · simp [ih]

theorem lookupEntry_putEntry (k k' : String) (v : β) (l : List (String × β)) :
    lookupEntry k' (putEntry k v l) = if k' = k then some v else lookupEntry k' l := by
  induction l with
  | nil => simp [putEntry, lookupEntry]
  | cons e rest ih =>
    obtain ⟨k'', v''⟩ := e
    simp only [putEntry]
    split
    · simp [lookupEntry]
    · split
      · next h => subst h; by_cases hk : k' = k <;> simp [lookupEntry, hk]
      · next hne =>
        simp only [lookupEntry, ih]
        by_cases hk : k' = k''
        · subst hk; simp [Ne.symm hne]
        · simp [hk]

theorem lookupEntry_isSome_iff {k : String} {l : List (String × β)} :
    (lookupEntry k l).isSome = true ↔ k ∈ l.map Prod.fst := by
  induction l with
  | nil => simp [lookupEntry]
  | cons e rest ih =>
    obtain ⟨k', v⟩ := e
    simp only [lookupEntry, List.map_cons, List.mem_cons]
    split
    · next h => simp [h]
    · next h => simp [ih, h]

theorem lookupEntry_eq_none_iff {k : String} {l : List (String × β)} :
    lookupEntry k l = none ↔ k ∉ l.map Prod.fst := by
  rw [← lookupEntry_isSome_iff]
  cases lookupEntry k l <;> simp

theorem mem_of_lookupEntry {k : String} {v : β} {l : List (String × β)}
    (h : lookupEntry k l = some v) : (k, v) ∈ l := by
  induction l with
  | nil => simp [lookupEntry] at h
  | cons e rest ih =>
    obtain ⟨k', v'⟩ := e
    simp only [lookupEntry] at h
    split at h
    · next hk => cases h; subst hk; simp
    · exact List.mem_cons_of_mem _ (ih h)

theorem lookupEntry_of_mem {k : String} {v : β} {l : List (String × β)}
    (hs : (l.map Prod.fst).Pairwise (· < ·)) (h : (k, v) ∈ l) : lookupEntry k l = some v := by
  induction l with
  | nil => simp at h
  | cons e rest ih =>
    obtain ⟨k', v'⟩ := e
    have hs' := List.pairwise_cons.mp hs
    simp only [lookupEntry]
    rcases List.mem_cons.mp h with e | hm
    · cases e; simp
    · have hlt : k' < k := hs'.1 k (List.mem_map.mpr ⟨_, hm, rfl⟩)
      have hne : k ≠ k' := fun e => String.lt_irrefl _ (e ▸ hlt)
      simp [hne, ih hs'.2 hm]

/-! ## Maps -/

/-- A finite map from names, held as its entries in strictly ascending key order. -/
structure NameMap (β : Type) where
  entries : List (String × β)
  ascending : (entries.map Prod.fst).Pairwise (· < ·)
  deriving DecidableEq

namespace NameMap

private theorem ascending_nil : (([] : List (String × β)).map Prod.fst).Pairwise (· < ·) :=
  List.Pairwise.nil

/-- The map without entries. -/
def empty : NameMap β := ⟨[], ascending_nil⟩

instance : Inhabited (NameMap β) := ⟨empty⟩

instance : EmptyCollection (NameMap β) := ⟨empty⟩

/-- The value under a key. -/
def find? (m : NameMap β) (k : String) : Option β := lookupEntry k m.entries

/-- Whether a key has a value. -/
def contains (m : NameMap β) (k : String) : Bool := (m.find? k).isSome

/-- The map with a value stored under a key, replacing an earlier one. -/
def insert (m : NameMap β) (k : String) (v : β) : NameMap β :=
  ⟨putEntry k v m.entries, by
    rw [keys_putEntry]
    exact insertName_ascending m.ascending⟩

/-- The map without a key. -/
def erase (m : NameMap β) (k : String) : NameMap β :=
  ⟨m.entries.filter (·.1 ≠ k), by
    exact List.Pairwise.sublist ((List.filter_sublist).map _) m.ascending⟩

/-- The map with every value replaced by a function of its key and itself. -/
def mapWithKey (f : String → β → γ) (m : NameMap β) : NameMap γ :=
  ⟨m.entries.map fun e => (e.1, f e.1 e.2), by
    have h : (m.entries.map fun e => (e.1, f e.1 e.2)).map Prod.fst = m.entries.map Prod.fst := by
      simp
    rw [h]
    exact m.ascending⟩

/-- The map with every value replaced by a function of itself. -/
def mapValues (f : β → γ) (m : NameMap β) : NameMap γ := m.mapWithKey fun _ => f

/-- Applies a function to the value under one key, if there is one. -/
def modify (m : NameMap β) (k : String) (f : β → β) : NameMap β :=
  m.mapWithKey fun k' v => if k' = k then f v else v

/-- The map of a list of entries, later ones winning. -/
def ofList (l : List (String × β)) : NameMap β := l.foldl (fun m e => m.insert e.1 e.2) empty

/-- Keys in ascending order. -/
def keys (m : NameMap β) : List String := m.entries.map Prod.fst

/-- Values in key order. -/
def values (m : NameMap β) : List β := m.entries.map Prod.snd

/-- Number of entries. -/
def size (m : NameMap β) : Nat := m.entries.length

/-- Whether there is no entry. -/
def isEmpty (m : NameMap β) : Bool := m.entries.isEmpty

/-! ## Look-up laws -/

@[simp] theorem find?_empty (k : String) : (empty : NameMap β).find? k = none := rfl

@[simp] theorem find?_insert (m : NameMap β) (k k' : String) (v : β) :
    (m.insert k v).find? k' = if k' = k then some v else m.find? k' :=
  lookupEntry_putEntry k k' v m.entries

theorem find?_insert_self (m : NameMap β) (k : String) (v : β) :
    (m.insert k v).find? k = some v := by simp

@[simp] theorem find?_erase (m : NameMap β) (k k' : String) :
    (m.erase k).find? k' = if k' = k then none else m.find? k' := by
  simp only [find?, erase]
  induction m.entries with
  | nil => simp [lookupEntry]
  | cons e rest ih =>
    obtain ⟨k'', v⟩ := e
    by_cases hk : k'' = k
    · subst hk
      simp only [ne_eq, not_true_eq_false, decide_false, Bool.false_eq_true, not_false_eq_true,
        List.filter_cons_of_neg, ih, lookupEntry]
      by_cases h : k' = k'' <;> simp [h]
    · by_cases h : k' = k''
      · subst h; simp [hk, lookupEntry]
      · simpa [hk, lookupEntry, h] using ih

@[simp] theorem find?_mapWithKey (f : String → β → γ) (m : NameMap β) (k : String) :
    (m.mapWithKey f).find? k = (m.find? k).map (f k) := by
  simp only [find?, mapWithKey]
  induction m.entries with
  | nil => rfl
  | cons e rest ih =>
    obtain ⟨k', v⟩ := e
    by_cases h : k = k'
    · subst h; simp [lookupEntry]
    · simp [lookupEntry, h, ih]

@[simp] theorem find?_mapValues (f : β → γ) (m : NameMap β) (k : String) :
    (m.mapValues f).find? k = (m.find? k).map f := by simp [mapValues]

theorem find?_modify (m : NameMap β) (k k' : String) (f : β → β) :
    (m.modify k f).find? k' = if k' = k then (m.find? k').map f else m.find? k' := by
  by_cases h : k' = k
  · subst h; simp [modify]
  · simp [modify, h]

@[simp] theorem contains_eq_true {m : NameMap β} {k : String} :
    m.contains k = true ↔ k ∈ m.keys := lookupEntry_isSome_iff

theorem find?_eq_none_iff {m : NameMap β} {k : String} : m.find? k = none ↔ k ∉ m.keys :=
  lookupEntry_eq_none_iff

theorem mem_entries_iff {m : NameMap β} {k : String} {v : β} :
    (k, v) ∈ m.entries ↔ m.find? k = some v :=
  ⟨lookupEntry_of_mem m.ascending, mem_of_lookupEntry⟩

theorem mem_keys_iff {m : NameMap β} {k : String} : k ∈ m.keys ↔ ∃ v, m.find? k = some v := by
  rw [← contains_eq_true, contains, Option.isSome_iff_exists]

/-- Maps that answer every look-up alike are equal. -/
theorem ext_find? {m n : NameMap β} (h : ∀ k, m.find? k = n.find? k) : m = n := by
  have key : ∀ (xs ys : List (String × β)), (xs.map Prod.fst).Pairwise (· < ·) →
      (ys.map Prod.fst).Pairwise (· < ·) → (∀ k, lookupEntry k xs = lookupEntry k ys) →
      xs = ys := by
    intro xs
    induction xs with
    | nil =>
      intro ys _ _ h
      cases ys with
      | nil => rfl
      | cons e ys => exact absurd (h e.1) (by simp [lookupEntry])
    | cons e xs ih =>
      intro ys hx hy h
      have hkeys : (e :: xs).map Prod.fst = ys.map Prod.fst := by
        refine NameSet.eq_of_ascending hx hy fun a => ?_
        rw [← lookupEntry_isSome_iff, ← lookupEntry_isSome_iff, h a]
      cases ys with
      | nil => simp at hkeys
      | cons e' ys =>
        have hk : e.1 = e'.1 := by simpa using (List.cons.inj hkeys).1
        have he : e = e' := by
          have := h e.1
          simp only [lookupEntry, hk, if_true] at this
          exact Prod.ext hk (Option.some.inj this)
        subst he
        have hx' := List.pairwise_cons.mp hx
        have hy' := List.pairwise_cons.mp hy
        refine congrArg _ (ih ys hx'.2 hy'.2 fun k => ?_)
        by_cases hke : k = e.1
        · have h1 : k ∉ xs.map Prod.fst := fun hm =>
            String.lt_irrefl _ (hke ▸ hx'.1 k hm)
          have h2 : k ∉ ys.map Prod.fst := fun hm =>
            String.lt_irrefl _ (hke ▸ hy'.1 k hm)
          rw [lookupEntry_eq_none_iff.mpr h1, lookupEntry_eq_none_iff.mpr h2]
        · have := h k
          simpa [lookupEntry, hke] using this
  cases m with
  | mk xs hx =>
    cases n with
    | mk ys hy =>
      have := key xs ys hx hy h
      subst this
      rfl

end NameMap

end Foreman
