import Foreman.Graph.Order
import Foreman.Proofs.Waiting

/-!
# `Foreman.Proofs.Order` — the topological order places exactly the grounded tasks

The procedure keeps for each task the number of its dependencies that are not placed yet. Placing a
task makes the counts of its dependents stale until each of them has been dropped by one; `Sound`
therefore carries the list `due` of the tasks whose count is still one too high. With `due = []` it
is the invariant of the loop, and in between it is that of the inner walk over the dependents:

* `sound_start` — it holds at the start;
* `Sound.place` — placing the first released task makes its dependents due;
* `Sound.drop` — dropping a due task settles its count. The count is positive before, so the
  subtraction is never cut off (`Sound.find?_of_due`).

At the end nothing is released any more. What has been placed is then closed under "all dependencies
placed", and everything in it comes after its dependencies: it is the set of grounded tasks
(`mem_placed_iff`).
-/

namespace Foreman

open Workflow

variable {w : Workflow} {t d u : TaskId} {placed : List TaskId}

/-! ## Order and counts -/

/-- Every task of the list comes after everything it waits for. -/
def Ordered (w : Workflow) (order : List TaskId) : Prop :=
  ∀ before t after, order = before ++ t :: after → ∀ d, w.WaitsFor t d → d ∈ before

/-- How many dependencies of a task are not placed yet. -/
def openCount (w : Workflow) (placed : List TaskId) (t : TaskId) : Nat :=
  ((Graph.ofWorkflow w).dependenciesOf t).countP fun d => d ∉ placed

theorem openCount_eq_zero_iff :
    openCount w placed t = 0 ↔ ∀ d, w.WaitsFor t d → d ∈ placed := by
  rw [openCount, List.countP_eq_zero]
  constructor
  · intro h d hd
    simpa using h d (mem_dependenciesOf_iff.mpr hd)
  · intro h d hd
    simpa using h d (mem_dependenciesOf_iff.mp hd)

theorem nodup_dependenciesOf (w : Workflow) (t : TaskId) :
    ((Graph.ofWorkflow w).dependenciesOf t).Nodup :=
  (nodup_distinct _).sublist (Graph.dependenciesOf_sublist w t)

theorem nodup_dependentsOf (w : Workflow) (t : TaskId) :
    ((Graph.ofWorkflow w).dependentsOf t).Nodup :=
  (nodup_distinct _).sublist (Graph.dependentsOf_sublist w t)

/-- Placing one more task lowers the counts of its dependents by one, and no others. -/
theorem openCount_place (hnew : t ∉ placed) (u : TaskId) :
    openCount w placed u =
      openCount w (placed ++ [t]) u +
        if u ∈ (Graph.ofWorkflow w).dependentsOf t then 1 else 0 := by
  have hiff : u ∈ (Graph.ofWorkflow w).dependentsOf t ↔
      t ∈ (Graph.ofWorkflow w).dependenciesOf u :=
    mem_dependentsOf_iff.trans mem_dependenciesOf_iff.symm
  -- what was open is open still, or it is the new task
  have hsplit : ∀ ds : List TaskId, ds.countP (fun d => d ∉ placed) =
      ds.countP (fun d => d ∉ placed ++ [t]) + ds.count t := by
    intro ds
    induction ds with
    | nil => rfl
    | cons d ds ih =>
        rw [List.countP_cons, List.countP_cons, List.count_cons, ih]
        by_cases hd : d = t
        · subst hd
          simp [hnew]
          omega
        · by_cases hp : d ∈ placed <;> simp [hd, hp]
          omega
  rw [openCount, hsplit, openCount, (nodup_dependenciesOf w u).count]
  simp only [hiff]

theorem Ordered.snoc (h : Ordered w placed) (ht : ∀ d, w.WaitsFor t d → d ∈ placed) :
    Ordered w (placed ++ [t]) := by
  intro before u after heq
  rcases List.eq_nil_or_concat after with rfl | ⟨after, v, rfl⟩
  · obtain ⟨rfl, hu⟩ := List.append_inj' heq rfl
    obtain rfl : t = u := by simpa using hu
    exact ht
  · have heq' : placed ++ [t] = (before ++ u :: after) ++ [v] := by simpa using heq
    exact h before u after (List.append_inj' heq' rfl).1

theorem Ordered.left {before after : List TaskId} (h : Ordered w (before ++ after)) :
    Ordered w before := by
  intro b t a heq
  refine h b t (a ++ after) ?_
  rw [heq]
  simp

/-- Everything in an ordered list is grounded. -/
theorem Ordered.grounded (h : Ordered w placed) (ht : t ∈ placed) : w.Grounded t := by
  -- by strong induction on the place of the task: what it waits for comes earlier
  have key : ∀ n before t after, before.length = n → placed = before ++ t :: after →
      w.Grounded t := by
    intro n
    induction n using Nat.strongRecOn with
    | _ n ih =>
        intro before t after hlen heq
        refine Grounded.intro fun d hd => ?_
        obtain ⟨b, b', rfl⟩ := List.append_of_mem (h before t after heq d hd)
        refine ih b.length ?_ b d (b' ++ t :: after) rfl (by rw [heq]; simp)
        rw [List.length_append, List.length_cons] at hlen
        omega
  obtain ⟨before, after, heq⟩ := List.append_of_mem ht
  exact key _ before t after rfl heq

/-! ## The invariant -/

namespace Release

/-- **The invariant.** The tasks in `due` depend on a placed task that their count does not show yet;
    a task is released as soon as its count is zero. -/
structure Sound (w : Workflow) (due : List TaskId) (r : Release) : Prop where
  nodup : (r.placed ++ r.ready).Nodup
  counts : ∀ t ∈ w.taskIds,
    r.missing.find? t = some (openCount w r.placed t + if t ∈ due then 1 else 0)
  released : ∀ t, t ∈ r.placed ++ r.ready ↔
    t ∈ w.taskIds ∧ openCount w r.placed t + (if t ∈ due then 1 else 0) = 0
  ordered : Ordered w r.placed

variable {r : Release} {due : List TaskId} {rest : List TaskId}

theorem sound_start (w : Workflow) : Sound w [] (start (Graph.ofWorkflow w)) := by
  refine ⟨?_, fun t ht => ?_, fun t => ?_, ?_⟩
  · exact (nodup_distinct _).filter _
  · rw [start, find?_tabulate, if_pos (by simpa using ht)]
    simp [openCount]
  · simp [start, openCount, List.countP_eq_length_filter]
  · intro before t after heq
    cases before <;> cases heq

/-- A count that is due to be dropped is positive. -/
theorem Sound.find?_of_due (h : Sound w due r) (hu : u ∈ w.taskIds) (hdue : u ∈ due) :
    r.missing.find? u = some (openCount w r.placed u + 1) := by
  rw [h.counts u hu, if_pos hdue]

/-- Placing the first released task makes its dependents due. -/
theorem Sound.place (h : Sound w [] r) (hready : r.ready = t :: rest) :
    Sound w ((Graph.ofWorkflow w).dependentsOf t)
      { r with ready := rest, placed := r.placed ++ [t] } := by
  have hnodup := h.nodup
  rw [hready] at hnodup
  have hnew : t ∉ r.placed := fun hmem =>
    (List.nodup_append.mp hnodup).2.2 t hmem t (by simp) rfl
  have hzero : openCount w r.placed t = 0 := by
    have := ((h.released t).mp (by simp [hready])).2
    simpa using this
  refine ⟨by simpa using hnodup, fun u hu => ?_, fun u => ?_, ?_⟩
  · -- the stale count is one too high for just the dependents
    rw [← openCount_place hnew]
    simpa using h.counts u hu
  · rw [← openCount_place hnew]
    simpa [hready] using h.released u
  · exact h.ordered.snoc (openCount_eq_zero_iff.mp hzero)

/-- Dropping a due task settles its count, and releases it if nothing is missing any more. -/
theorem Sound.drop (h : Sound w (u :: due) r) (hu : u ∈ w.taskIds) (hnotin : u ∉ due) :
    Sound w due (drop r u) := by
  have hfind := h.find?_of_due hu (List.mem_cons_self ..)
  have hdrop : r.drop u = { r with
      missing := r.missing.insert u (openCount w r.placed u)
      ready := if openCount w r.placed u = 0 then r.ready ++ [u] else r.ready } := by
    simp only [Release.drop, hfind, Nat.add_sub_cancel]
  -- a task that misses something cannot be released twice
  have hold : u ∉ r.placed ++ r.ready := fun hmem => by
    have := ((h.released u).mp hmem).2
    simp at this
  have hdue : ∀ t, t ≠ u → (t ∈ u :: due ↔ t ∈ due) := fun t ht => by simp [ht]
  rw [hdrop]
  refine ⟨?_, fun t ht => ?_, fun t => ?_, h.ordered⟩
  · show (r.placed ++ if _ then _ else _).Nodup
    split
    · rw [← List.append_assoc]
      exact List.nodup_append.mpr ⟨h.nodup, List.nodup_singleton u, fun a ha b hb hab =>
        hold (by rw [← List.mem_singleton.mp hb, ← hab]; exact ha)⟩
    · exact h.nodup
  · rw [NameMap.find?_insert]
    by_cases htu : t = u
    · subst htu
      simp [hnotin]
    · rw [if_neg htu, h.counts t ht]
      simp only [hdue t htu]
  · have hrel := h.released t
    by_cases htu : t = u
    · subst htu
      simp only [List.mem_append, not_or] at hold
      by_cases hz : openCount w r.placed t = 0 <;> simp [hz, hu, hnotin, hold]
    · simp only [hdue t htu] at hrel
      rw [← hrel]
      by_cases hz : openCount w r.placed u = 0 <;> simp [hz, htu]

/-- Dropping some of the due tasks, the others stay due. -/
theorem Sound.foldl_drop {before after : List TaskId} (h : Sound w (before ++ after) r)
    (hnodup : (before ++ after).Nodup) (hsub : before ⊆ w.taskIds) :
    Sound w after (before.foldl Release.drop r) := by
  induction before generalizing r with
  | nil => exact h
  | cons u before ih =>
      rw [List.cons_append, List.nodup_cons] at hnodup
      have hu : u ∈ w.taskIds := hsub (List.mem_cons_self ..)
      exact ih (h.drop hu hnodup.1) hnodup.2 fun a ha => hsub (List.mem_cons_of_mem u ha)

theorem dependentsOf_subset (w : Workflow) (t : TaskId) :
    (Graph.ofWorkflow w).dependentsOf t ⊆ w.taskIds :=
  fun _ hu => (mem_dependentsOf_iff.mp hu).1

/-- One round keeps the invariant of the loop. -/
theorem Sound.next (h : Sound w [] r) : Sound w [] (next (Graph.ofWorkflow w) r) := by
  unfold Release.next
  split
  · exact h
  · next hready =>
      have hplaced := h.place hready
      rw [← List.append_nil ((Graph.ofWorkflow w).dependentsOf _)] at hplaced
      exact hplaced.foldl_drop (by simpa using nodup_dependentsOf w _) (dependentsOf_subset w _)

theorem Sound.run (h : Sound w [] r) (k : Nat) : Sound w [] (run (Graph.ofWorkflow w) k r) := by
  induction k generalizing r with
  | zero => exact h
  | succ k ih => exact ih h.next

/-! ## The end of the procedure -/

@[simp] theorem placed_foldl_drop (us : List TaskId) (r : Release) :
    (us.foldl Release.drop r).placed = r.placed := by
  induction us generalizing r with
  | nil => rfl
  | cons u us ih =>
      rw [List.foldl_cons, ih]
      unfold Release.drop
      split <;> rfl

/-- As long as something is released, every round has placed a task. -/
theorem length_placed_run {g : Graph} (k : Nat) (h : (run g k r).ready ≠ []) :
    (run g k r).placed.length = r.placed.length + k := by
  induction k generalizing r with
  | zero => rfl
  | succ k ih =>
      cases hready : r.ready with
      | nil =>
          rw [run_of_ready_nil hready] at h
          exact absurd hready h
      | cons t rest =>
          have hlen : (Release.next g r).placed.length = r.placed.length + 1 := by
            simp [Release.next, hready]
          rw [Release.run] at h ⊢
          rw [ih h, hlen]
          omega

/-- The state in which the procedure ends. -/
def final (w : Workflow) : Release :=
  run (Graph.ofWorkflow w) (Graph.ofWorkflow w).size (start (Graph.ofWorkflow w))

theorem sound_final (w : Workflow) : Sound w [] (final w) := (sound_start w).run _

/-- A sound state holds no more tasks than there are. -/
theorem Sound.length_le (h : Sound w due r) :
    (r.placed ++ r.ready).length ≤ (Graph.ofWorkflow w).size :=
  h.nodup.length_le_of_subset fun t ht => by simpa using ((h.released t).mp ht).1

/-- In the end nothing is released any more. -/
theorem ready_final (w : Workflow) : (final w).ready = [] := by
  refine Classical.byContradiction fun hne => ?_
  -- otherwise every round has placed a task, and one more than there are would be released
  have hlen : (final w).placed.length = 0 + (Graph.ofWorkflow w).size := length_placed_run _ hne
  have hle := (sound_final w).length_le
  have hpos := List.length_pos_iff.mpr hne
  rw [List.length_append] at hle
  omega

/-- **Exactly the grounded tasks are placed.** -/
theorem mem_placed_iff : t ∈ (final w).placed ↔ t ∈ w.taskIds ∧ w.Grounded t := by
  have hs := sound_final w
  have hrel : ∀ t, t ∈ (final w).placed ↔
      t ∈ w.taskIds ∧ ∀ d, w.WaitsFor t d → d ∈ (final w).placed := fun t => by
    have := hs.released t
    rw [ready_final] at this
    simpa [openCount_eq_zero_iff] using this
  constructor
  · intro ht
    exact ⟨((hrel t).mp ht).1, hs.ordered.grounded ht⟩
  · rintro ⟨ht, hground⟩
    induction hground with
    | intro t _ ih => exact (hrel t).mpr ⟨ht, fun d hd => ih d hd hd.2.1⟩

/-- The placed tasks are all tasks exactly if they are as many. -/
theorem length_placed_final_iff :
    (final w).placed.length = (Graph.ofWorkflow w).size ↔ ¬ w.Cyclic := by
  have hnodup : (final w).placed.Nodup := (List.nodup_append.mp (sound_final w).nodup).1
  have hsub : (final w).placed ⊆ distinct w.taskIds := fun t ht => by
    simpa using (mem_placed_iff.mp ht).1
  rw [not_cyclic_iff]
  constructor
  · intro hlen t ht
    have hperm : (final w).placed.Perm (distinct w.taskIds) :=
      (List.subperm_of_subset hnodup hsub).perm_of_length_le (Nat.le_of_eq hlen.symm)
    exact (mem_placed_iff.mp (hperm.mem_iff.mpr (by simpa using ht))).2
  · intro hground
    have hsup : distinct w.taskIds ⊆ (final w).placed := fun t ht => by
      have ht : t ∈ w.taskIds := by simpa using ht
      exact mem_placed_iff.mpr ⟨ht, hground t ht⟩
    exact Nat.le_antisymm (hnodup.length_le_of_subset hsub)
      ((nodup_distinct _).length_le_of_subset hsup)

/-- A task still misses something in the end exactly if it is above a cycle. -/
theorem missing_final_pos_iff (ht : t ∈ w.taskIds) :
    ((final w).missing.find? t).getD 0 > 0 ↔ w.ReachesCycle t := by
  have hcount := (sound_final w).counts t ht
  have hrel := (sound_final w).released t
  rw [ready_final, List.append_nil, mem_placed_iff, grounded_iff] at hrel
  simp only [List.not_mem_nil, if_false, Nat.add_zero] at hcount hrel
  rw [hcount, Option.getD_some, gt_iff_lt, Nat.pos_iff_ne_zero]
  exact not_iff_comm.mp (and_congr_right_iff.mp hrel ht)

end Release
end Foreman
