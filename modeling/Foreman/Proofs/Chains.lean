import Foreman.Collection.Sum
import Foreman.Graph.CriticalPath
import Foreman.Proofs.Waiting
import Mathlib.Data.List.Chain
import Mathlib.Data.List.Nodup

/-!
# `Foreman.Proofs.Chains` — chains of the known graph and their weights

A chain is a list of declared tasks each of which is a dependency of the next; its weight is the sum
of the durations. The quantities of a critical path are greatest weights of some chains, exponentially
many in general. `Heaviest` is such a quantity, and the whole recursion of the critical path is one
fact about it (`Heaviest.join`): what comes before a task and what comes after it can be chosen apart.

Without a cycle no task comes twice on a chain (`Chain.nodup`), so the weights are bounded by that of
all tasks together (`Chain.weight_le`).

Chains and their greatest weights depend on the known graph alone (`SameGraph`), and not on what else two
workflows say.
-/

namespace Foreman

open Relation

variable {w w' : Workflow} {durations durations' : NameMap Duration} {t u d : TaskId}
  {ts us before after : List TaskId} {m n k : Nat} {P Q A B : List TaskId → Prop}

/-! ## Chains -/

namespace Workflow

/-- **A chain**: declared tasks, each a dependency of the next. -/
structure Chain (w : Workflow) (ts : List TaskId) : Prop where
  declared : ∀ t ∈ ts, t ∈ w.taskIds
  linked : ts.IsChain fun d t => w.WaitsFor t d

/-- The list ends in something that `t` waits for. -/
def EndsBelow (w : Workflow) (t : TaskId) (ts : List TaskId) : Prop :=
  ∃ d, w.WaitsFor t d ∧ ts.getLast? = some d

/-- The list starts in something that waits for `t`. -/
def StartsAbove (w : Workflow) (t : TaskId) (ts : List TaskId) : Prop :=
  ∃ u, w.WaitsFor u t ∧ ts.head? = some u

namespace Chain

theorem nil (w : Workflow) : w.Chain [] := ⟨fun _ ht => absurd ht (by simp), List.isChain_nil⟩

theorem singleton (ht : t ∈ w.taskIds) : w.Chain [t] :=
  ⟨fun u hu => by rwa [List.mem_singleton.mp hu], List.isChain_singleton t⟩

theorem cons_cons_iff : w.Chain (d :: t :: ts) ↔ w.WaitsFor t d ∧ w.Chain (t :: ts) := by
  constructor
  · rintro ⟨hdecl, hlink⟩
    obtain ⟨hwaits, hlink⟩ := List.isChain_cons_cons.mp hlink
    exact ⟨hwaits, fun u hu => hdecl u (List.mem_cons_of_mem d hu), hlink⟩
  · rintro ⟨hwaits, hdecl, hlink⟩
    exact ⟨List.forall_mem_cons.mpr ⟨hwaits.2.1, hdecl⟩, List.isChain_cons_cons.mpr ⟨hwaits, hlink⟩⟩

/-- **A chain through a task** is a chain up to it and a chain from it on. -/
theorem through_iff (ht : t ∈ w.taskIds) : w.Chain (before ++ t :: after) ↔
    (w.Chain before ∧ (before = [] ∨ w.EndsBelow t before)) ∧
      (w.Chain after ∧ (after = [] ∨ w.StartsAbove t after)) := by
  have hbefore : (∀ d ∈ before.getLast?, w.WaitsFor t d) ↔ before = [] ∨ w.EndsBelow t before := by
    rcases List.eq_nil_or_concat' before with rfl | ⟨init, d, rfl⟩ <;> simp [EndsBelow]
  have hafter : (∀ u ∈ after.head?, w.WaitsFor u t) ↔ after = [] ∨ w.StartsAbove t after := by
    cases after <;> simp [StartsAbove]
  have hlinked : (before ++ t :: after).IsChain (fun d t => w.WaitsFor t d) ↔
      (before.IsChain (fun d t => w.WaitsFor t d) ∧ (before = [] ∨ w.EndsBelow t before)) ∧
        (after.IsChain (fun d t => w.WaitsFor t d) ∧ (after = [] ∨ w.StartsAbove t after)) := by
    rw [List.isChain_append, List.isChain_cons, ← hbefore, ← hafter]
    simp only [List.head?_cons, Option.mem_some_iff, forall_eq']
    tauto
  constructor
  · rintro ⟨hdecl, hlink⟩
    obtain ⟨⟨hb, hb'⟩, ha, ha'⟩ := hlinked.mp hlink
    exact ⟨⟨⟨fun v hv => hdecl v (by simp [hv]), hb⟩, hb'⟩,
      ⟨fun v hv => hdecl v (by simp [hv]), ha⟩, ha'⟩
  · rintro ⟨⟨⟨hdb, hb⟩, hb'⟩, ⟨hda, ha⟩, ha'⟩
    refine ⟨fun v hv => ?_, hlinked.mpr ⟨⟨hb, hb'⟩, ha, ha'⟩⟩
    rcases List.mem_append.mp hv with hv | hv
    · exact hdb v hv
    · rcases List.mem_cons.mp hv with rfl | hv
      · exact ht
      · exact hda v hv

/-- Without a cycle, no task comes twice on a chain. -/
theorem nodup (hacyc : ¬ w.Cyclic) (h : w.Chain ts) : ts.Nodup := by
  have hlinked : ts.IsChain fun d t => TransGen w.WaitsFor t d := h.linked.imp fun _ _ => .single
  have htrans : Trans (fun d t => TransGen w.WaitsFor t d) (fun d t => TransGen w.WaitsFor t d)
      (fun d t => TransGen w.WaitsFor t d) := ⟨fun hab hbc => hbc.trans hab⟩
  refine (List.isChain_iff_pairwise.mp hlinked).imp ?_
  rintro t _ ht rfl
  exact hacyc ⟨t, ht⟩

end Chain

/-- **Two workflows with the same known graph**, whatever else they say about their tasks. -/
structure SameGraph (w w' : Workflow) : Prop where
  mem_taskIds : ∀ t, t ∈ w'.taskIds ↔ t ∈ w.taskIds
  waitsFor_eq : w'.WaitsFor = w.WaitsFor

namespace SameGraph

theorem symm (h : w.SameGraph w') : w'.SameGraph w :=
  ⟨fun t => (h.mem_taskIds t).symm, h.waitsFor_eq.symm⟩

theorem cyclic_eq (h : w.SameGraph w') : w'.Cyclic = w.Cyclic := by
  rw [Cyclic, Cyclic, h.waitsFor_eq]

theorem chain_eq (h : w.SameGraph w') : w'.Chain = w.Chain := by
  have key : ∀ {w w' : Workflow}, w.SameGraph w' → ∀ ts, w'.Chain ts → w.Chain ts := by
    intro w w' h ts hts
    exact ⟨fun t ht => (h.mem_taskIds t).mp (hts.declared t ht), h.waitsFor_eq ▸ hts.linked⟩
  funext ts
  exact propext ⟨key h ts, key h.symm ts⟩

theorem endsBelow_eq (h : w.SameGraph w') (t : TaskId) : w'.EndsBelow t = w.EndsBelow t := by
  unfold EndsBelow
  rw [h.waitsFor_eq]

theorem startsAbove_eq (h : w.SameGraph w') (t : TaskId) : w'.StartsAbove t = w.StartsAbove t := by
  unfold StartsAbove
  rw [h.waitsFor_eq]

end SameGraph

end Workflow

/-! ## Weights -/

/-- The weight of a chain in nanoseconds: a task without a duration counts as zero. -/
def weight (durations : NameMap Duration) (ts : List TaskId) : Nat :=
  sumOf (fun t => (durationIn durations t).nanos) ts

theorem weight_through (durations : NameMap Duration) (before : List TaskId) (t : TaskId)
    (after : List TaskId) : weight durations (before ++ t :: after) =
      weight durations before + (durationIn durations t).nanos + weight durations after := by
  rw [weight, sumOf_append, sumOf, ← Nat.add_assoc]
  rfl

/-- Tasks weigh the same by two tables that agree on them. -/
theorem weight_congr (h : ∀ t ∈ ts, durationIn durations t = durationIn durations' t) :
    weight durations ts = weight durations' ts :=
  sumOf_congr fun t ht => congrArg Duration.nanos (h t ht)

/-- Tasks that are all among others, each once, are no heavier. -/
theorem weight_le_of_subset (hnodup : ts.Nodup) (hsub : ts ⊆ us) :
    weight durations ts ≤ weight durations us := by
  obtain ⟨vs, hperm, hsublist⟩ := List.subperm_of_subset hnodup hsub
  rw [weight, ← sumOf_perm _ hperm]
  exact sumOf_le_of_sublist _ hsublist

/-- No chain is heavier than all tasks together. -/
theorem Workflow.Chain.weight_le (hacyc : ¬ w.Cyclic) (h : w.Chain ts) :
    weight durations ts ≤ weight durations (distinct w.taskIds) :=
  weight_le_of_subset (h.nodup hacyc) fun t ht => mem_distinct.mpr (h.declared t ht)

/-! ## Greatest weights -/

/-- **`n` is the greatest weight of the chains with a property**, and zero if there is none. -/
structure Heaviest (w : Workflow) (durations : NameMap Duration) (P : List TaskId → Prop) (n : Nat) :
    Prop where
  bound : ∀ ts, w.Chain ts → P ts → weight durations ts ≤ n
  attained : n = 0 ∨ ∃ ts, w.Chain ts ∧ P ts ∧ weight durations ts = n

namespace Heaviest

theorem unique (hm : Heaviest w durations P m) (hn : Heaviest w durations P n) : m = n := by
  have key : ∀ {m n}, Heaviest w durations P m → Heaviest w durations P n → m ≤ n := by
    rintro m n hm hn
    rcases hm.attained with rfl | ⟨ts, hts, hP, rfl⟩
    · exact Nat.zero_le n
    · exact hn.bound ts hts hP
  exact Nat.le_antisymm (key hm hn) (key hn hm)

theorem congr (h : ∀ ts, w.Chain ts → (P ts ↔ Q ts)) (hn : Heaviest w durations P n) :
    Heaviest w durations Q n := by
  refine ⟨fun ts hts hQ => hn.bound ts hts ((h ts hts).mpr hQ), hn.attained.imp_right ?_⟩
  rintro ⟨ts, hts, hP, heq⟩
  exact ⟨ts, hts, (h ts hts).mp hP, heq⟩

/-- Greatest weights are those of the graph. -/
theorem ofSameGraph (h : w.SameGraph w') (hn : Heaviest w' durations P n) :
    Heaviest w durations P n :=
  ⟨h.chain_eq ▸ hn.bound, h.chain_eq ▸ hn.attained⟩

/-- No chain at all. -/
theorem none : Heaviest w durations (fun _ => False) 0 := ⟨fun _ _ h => h.elim, Or.inl rfl⟩

/-- Even if the greatest weight is zero, it is that of a chain or of no tasks. -/
theorem exists_or_nil (h : Heaviest w durations P n) :
    ∃ ts, w.Chain ts ∧ (ts = [] ∨ P ts) ∧ weight durations ts = n := by
  rcases h.attained with rfl | ⟨ts, hts, hP, heq⟩
  · exact ⟨[], .nil w, Or.inl rfl, rfl⟩
  · exact ⟨ts, hts, Or.inr hP, heq⟩

/-- A heaviest chain through a task, even if the greatest weight is zero. -/
theorem exists_through (ht : t ∈ w.taskIds) (h : Heaviest w durations (t ∈ ·) n) :
    ∃ ts, w.Chain ts ∧ t ∈ ts ∧ weight durations ts = n := by
  rcases h.attained with rfl | hattained
  · have hsingle := Workflow.Chain.singleton ht
    have hle := h.bound [t] hsingle (by simp)
    exact ⟨[t], hsingle, by simp, Nat.le_zero.mp hle⟩
  · exact hattained

/-- A heaviest chain of all; it is empty only if there are no tasks. -/
theorem exists_chain (h : Heaviest w durations (fun _ => True) n) :
    ∃ ts, w.Chain ts ∧ weight durations ts = n ∧ (ts = [] → w.taskIds = []) := by
  obtain ⟨ts, hts, -, rfl⟩ := h.exists_or_nil
  cases ts with
  | cons t ts => exact ⟨_, hts, rfl, nofun⟩
  | nil =>
      -- the weight is zero, and so is that of each single task
      cases hids : w.taskIds with
      | nil => exact ⟨[], hts, rfl, fun _ => rfl⟩
      | cons t _ =>
          have hsingle : w.Chain [t] := .singleton (by simp [hids])
          exact ⟨[t], hsingle, Nat.le_zero.mp (h.bound [t] hsingle trivial), nofun⟩

theorem bound_or_nil (h : Heaviest w durations P n) (hts : w.Chain ts) (hP : ts = [] ∨ P ts) :
    weight durations ts ≤ n := by
  rcases hP with rfl | hP
  · exact Nat.zero_le n
  · exact h.bound ts hts hP

/-- **What comes before a task and what comes after it can be chosen apart.** -/
theorem join (ht : t ∈ w.taskIds) (hB : Heaviest w durations B m) (hA : Heaviest w durations A n)
    (hbelow : ∀ ts, B ts → w.EndsBelow t ts) (habove : ∀ ts, A ts → w.StartsAbove t ts) :
    Heaviest w durations
      (fun ts => ∃ before after, ts = before ++ t :: after ∧ (before = [] ∨ B before) ∧
        (after = [] ∨ A after))
      (m + (durationIn durations t).nanos + n) := by
  refine ⟨?_, Or.inr ?_⟩
  · rintro _ hts ⟨before, after, rfl, hbefore, hafter⟩
    obtain ⟨⟨hb, _⟩, ha, _⟩ := (Workflow.Chain.through_iff ht).mp hts
    have hle := hB.bound_or_nil hb hbefore
    have hle' := hA.bound_or_nil ha hafter
    rw [weight_through]
    omega
  · obtain ⟨before, hb, hbefore, rfl⟩ := hB.exists_or_nil
    obtain ⟨after, ha, hafter, rfl⟩ := hA.exists_or_nil
    refine ⟨before ++ t :: after, ?_, ⟨before, after, rfl, hbefore, hafter⟩, weight_through ..⟩
    exact (Workflow.Chain.through_iff ht).mpr
      ⟨⟨hb, hbefore.imp_right (hbelow _)⟩, ha, hafter.imp_right (habove _)⟩

/-- The heaviest chain that ends in a task. -/
theorem endsIn (ht : t ∈ w.taskIds) (h : Heaviest w durations (w.EndsBelow t) m) :
    Heaviest w durations (fun ts => ts.getLast? = some t)
      (m + (durationIn durations t).nanos) := by
  refine (h.join ht none (fun _ => id) fun _ => False.elim).congr fun ts hts => ?_
  rw [List.getLast?_eq_some_iff]
  constructor
  · rintro ⟨before, after, rfl, _, hafter⟩
    exact ⟨before, by rw [hafter.resolve_right id]⟩
  · rintro ⟨before, rfl⟩
    exact ⟨before, [], rfl, ((Workflow.Chain.through_iff ht).mp hts).1.2, Or.inl rfl⟩

/-- The heaviest chain that starts in a task. -/
theorem startsIn (ht : t ∈ w.taskIds) (h : Heaviest w durations (w.StartsAbove t) n) :
    Heaviest w durations (fun ts => ts.head? = some t)
      ((durationIn durations t).nanos + n) := by
  have hjoin := (none.join ht h (fun _ => False.elim) fun _ => id)
  rw [Nat.zero_add] at hjoin
  refine hjoin.congr fun ts hts => ?_
  rw [List.head?_eq_some_iff]
  constructor
  · rintro ⟨before, after, rfl, hbefore, _⟩
    exact ⟨after, by rw [hbefore.resolve_right id]; rfl⟩
  · rintro ⟨after, rfl⟩
    have hchain : w.Chain ([] ++ t :: after) := hts
    exact ⟨[], after, rfl, Or.inl rfl, ((Workflow.Chain.through_iff ht).mp hchain).2.2⟩

/-- The heaviest chain through a task. -/
theorem through (ht : t ∈ w.taskIds) (hbelow : Heaviest w durations (w.EndsBelow t) m)
    (habove : Heaviest w durations (w.StartsAbove t) n) :
    Heaviest w durations (t ∈ ·) (m + (durationIn durations t).nanos + n) := by
  refine (hbelow.join ht habove (fun _ => id) fun _ => id).congr fun ts hts => ?_
  constructor
  · rintro ⟨before, after, rfl, _⟩
    simp
  · intro hmem
    obtain ⟨before, after, rfl⟩ := List.append_of_mem hmem
    obtain ⟨⟨_, hbefore⟩, _, hafter⟩ := (Workflow.Chain.through_iff ht).mp hts
    exact ⟨before, after, rfl, hbefore, hafter⟩

end Heaviest

end Foreman
