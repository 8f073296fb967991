import Foreman.Collection.NameMap
import Foreman.Collection.Sum
import Mathlib.Data.List.Induction
import Mathlib.Data.List.Nodup

/-!
# `Foreman.Proofs.Maps` — maps as collections of entries

A map holds each key once, so its entries are determined by the look-ups up to their order. Counts and
sums over a map do not depend on that order: they are read off from the entries that a map was made
from, and an update changes them by what it stores and what it replaces.

## Contents
- `find?_ofList_of_nodup`, `entries_ofList_perm`, `ofList_entries`: maps made from lists with different
  keys.
- `entries_perm_of_find?`: a map is any one of its entries, and the others.
- `values_mapValues`: the values after a change of each.
- `sumOf_values_insert`, `sumOf_values_erase`: sums over the values after an update.
-/

namespace Foreman
namespace NameMap

variable {β γ : Type} {m : NameMap β} {k : String} {v : β} {l : List (String × β)}

/-! ## Maps from lists -/

theorem find?_ofList_of_nodup (hnodup : (l.map Prod.fst).Nodup) :
    (ofList l).find? k = some v ↔ (k, v) ∈ l := by
  induction l using List.reverseRecOn with
  | nil => simp [ofList]
  | append_singleton l e ih =>
      rw [List.map_append, List.map_singleton, List.nodup_append] at hnodup
      have hsnoc : ofList (l ++ [e]) = (ofList l).insert e.1 e.2 := by simp [ofList]
      rw [hsnoc, find?_insert, List.mem_append, List.mem_singleton]
      by_cases hk : k = e.1
      · -- the key of the last entry is not among the keys before it
        have hfresh : (k, v) ∉ l := fun hmem =>
          hnodup.2.2 k (List.mem_map.mpr ⟨_, hmem, rfl⟩) e.1 (by simp) hk
        rw [if_pos hk, Option.some_inj]
        constructor
        · rintro rfl
          exact Or.inr (by rw [hk])
        · intro h
          rw [← h.resolve_left hfresh]
      · rw [if_neg hk, ih hnodup.1]
        exact ⟨Or.inl, fun h => h.resolve_right fun heq => hk (congrArg Prod.fst heq)⟩

theorem nodup_keys (m : NameMap β) : m.keys.Nodup := by
  refine List.Pairwise.imp (fun {a b} h => ?_) m.ascending
  rintro rfl
  exact String.lt_irrefl _ h

theorem nodup_entries (m : NameMap β) : m.entries.Nodup := List.Nodup.of_map Prod.fst m.nodup_keys

/-- A map made from a list with different keys holds just the entries of the list. -/
theorem entries_ofList_perm (hnodup : (l.map Prod.fst).Nodup) : (ofList l).entries.Perm l := by
  refine (List.perm_ext_iff_of_nodup (nodup_entries _) (List.Nodup.of_map Prod.fst hnodup)).mpr ?_
  exact fun e => mem_entries_iff.trans (find?_ofList_of_nodup hnodup)

theorem ofList_entries (m : NameMap β) : ofList m.entries = m := by
  refine ext_find? fun k => Option.ext fun v => ?_
  rw [find?_ofList_of_nodup m.nodup_keys, mem_entries_iff]

/-! ## Updates -/

/-- A map is any one of its entries, and the others. -/
theorem entries_perm_of_find? (h : m.find? k = some v) :
    m.entries.Perm ((k, v) :: (m.erase k).entries) := by
  have hfresh : (k, v) ∉ (m.erase k).entries := by
    rw [mem_entries_iff, find?_erase, if_pos rfl]
    exact nofun
  refine (List.perm_ext_iff_of_nodup (nodup_entries m)
    (List.nodup_cons.mpr ⟨hfresh, nodup_entries _⟩)).mpr fun ⟨k', v'⟩ => ?_
  rw [List.mem_cons, mem_entries_iff, mem_entries_iff, find?_erase, Prod.mk.injEq]
  by_cases hk : k' = k
  · subst hk
    rw [h, if_pos rfl]
    simp [eq_comm]
  · simp [hk]

theorem erase_insert (m : NameMap β) (k : String) (v : β) : (m.insert k v).erase k = m.erase k := by
  refine ext_find? fun k' => ?_
  by_cases hk : k' = k <;> simp [hk]

theorem erase_of_find?_eq_none (h : m.find? k = none) : m.erase k = m := by
  refine ext_find? fun k' => ?_
  rw [find?_erase]
  split
  · next hk => rw [hk, h]
  · rfl

/-- Storing the value that is there changes nothing. -/
theorem insert_of_find? (h : m.find? k = some v) : m.insert k v = m := by
  refine ext_find? fun k' => ?_
  rw [find?_insert]
  split
  · next hk => rw [hk, h]
  · rfl

theorem mapValues_insert (f : β → γ) (m : NameMap β) (k : String) (v : β) :
    (m.insert k v).mapValues f = (m.mapValues f).insert k (f v) := by
  refine ext_find? fun k' => ?_
  by_cases hk : k' = k <;> simp [hk]

theorem mapValues_erase (f : β → γ) (m : NameMap β) (k : String) :
    (m.erase k).mapValues f = (m.mapValues f).erase k := by
  refine ext_find? fun k' => ?_
  by_cases hk : k' = k <;> simp [hk]

theorem values_mapValues (f : β → γ) (m : NameMap β) : (m.mapValues f).values = m.values.map f := by
  simp [values, mapValues, mapWithKey, Function.comp_def]

/-- What a removal takes from a sum over the values. -/
theorem sumOf_values_erase (measure : β → Nat) (h : m.find? k = some v) :
    sumOf measure m.values = measure v + sumOf measure (m.erase k).values :=
  sumOf_perm measure ((entries_perm_of_find? h).map Prod.snd)

/-- What a new or replaced value adds to the sum over the others. -/
theorem sumOf_values_insert (measure : β → Nat) (m : NameMap β) (k : String) (v : β) :
    sumOf measure (m.insert k v).values = measure v + sumOf measure (m.erase k).values := by
  rw [sumOf_values_erase measure (find?_insert_self m k v), erase_insert]

end NameMap
end Foreman
