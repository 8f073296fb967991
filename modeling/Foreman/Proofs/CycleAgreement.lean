import Foreman.Proofs.Order
import Foreman.Proofs.Validity
import Foreman.Schedule

/-!
# `Foreman.Proofs.CycleAgreement` — validation and ordering agree on cycles

Validation searches the dependency map in depth, ordering counts dependencies on adjacency lists.
Both are characterised by the same notion: the search reports something exactly if the known graph
is cyclic (`cycleDetected_iff_cyclic`), and the order leaves out exactly the tasks above a cycle
(`Release.missing_final_pos_iff`). Their agreement is a corollary, and so is that the order of a
workflow without cycles is a topological one (`isOrder_of_topologicalOrder`).
-/

namespace Foreman

open Workflow

variable {w : Workflow} {t u : TaskId}

/-! ## The order of first declaration -/

/-- Each element comes at its first occurrence. -/
theorem pairwise_idxOf_distinct (xs : List String) :
    (distinct xs).Pairwise fun a b => xs.idxOf a < xs.idxOf b := by
  induction xs with
  | nil => exact List.Pairwise.nil
  | cons x xs ih =>
      rw [distinct, List.pairwise_cons]
      constructor
      · intro b hb
        have hbx : b ≠ x := by simpa using (List.mem_filter.mp hb).2
        rw [List.idxOf_cons_self, List.idxOf_cons_ne _ hbx.symm]
        exact Nat.succ_pos _
      · refine List.Pairwise.imp_of_mem ?_ (ih.filter _)
        intro a b ha hb hab
        have hax : a ≠ x := by simpa using (List.mem_filter.mp ha).2
        have hbx : b ≠ x := by simpa using (List.mem_filter.mp hb).2
        rw [List.idxOf_cons_ne _ hax.symm, List.idxOf_cons_ne _ hbx.symm]
        exact Nat.succ_lt_succ hab

/-! ## The two outcomes of ordering -/

/-- The tasks that ordering reports as held back. -/
def heldBack (w : Workflow) : List TaskId :=
  (Graph.ofWorkflow w).tasks.filter fun t => ((Release.final w).missing.find? t).getD 0 > 0

theorem topologicalOrder_eq (w : Workflow) : (Graph.ofWorkflow w).topologicalOrder =
    if (Release.final w).placed.length = (Graph.ofWorkflow w).size then .ok (Release.final w).placed
    else .error (.cycleDetected (heldBack w)) := rfl

theorem mem_heldBack : t ∈ heldBack w ↔ t ∈ w.taskIds ∧ w.ReachesCycle t := by
  rw [heldBack, List.mem_filter, Graph.tasks_ofWorkflow, mem_distinct]
  exact and_congr_right fun ht => decide_eq_true_iff.trans (Release.missing_final_pos_iff ht)

theorem pairwise_heldBack (w : Workflow) :
    (heldBack w).Pairwise fun a b => w.taskIds.idxOf a < w.taskIds.idxOf b :=
  (pairwise_idxOf_distinct w.taskIds).filter _

/-- Without a cycle the order holds everything, and with one it reports what is held back. -/
theorem topologicalOrder_of_not_cyclic (h : ¬ w.Cyclic) :
    (Graph.ofWorkflow w).topologicalOrder = .ok (Release.final w).placed := by
  rw [topologicalOrder_eq, if_pos (Release.length_placed_final_iff.mpr h)]

theorem topologicalOrder_of_cyclic (h : w.Cyclic) :
    (Graph.ofWorkflow w).topologicalOrder = .error (.cycleDetected (heldBack w)) := by
  rw [topologicalOrder_eq, if_neg fun hlen => Release.length_placed_final_iff.mp hlen h]

/-- **A topological order**: every declared id once, and after everything it waits for. -/
structure IsOrder (w : Workflow) (order : List TaskId) : Prop where
  nodup : order.Nodup
  mem_iff : ∀ t, t ∈ order ↔ t ∈ w.taskIds
  ordered : Ordered w order

theorem isOrder_of_topologicalOrder {order : List TaskId}
    (h : (Graph.ofWorkflow w).topologicalOrder = .ok order) : IsOrder w order := by
  by_cases hcyc : w.Cyclic
  · rw [topologicalOrder_of_cyclic hcyc] at h
    cases h
  · rw [topologicalOrder_of_not_cyclic hcyc] at h
    cases h
    have hs := Release.sound_final w
    refine ⟨(List.nodup_append.mp hs.nodup).1, fun t => ?_, hs.ordered⟩
    rw [Release.mem_placed_iff]
    exact and_iff_left_of_imp (not_cyclic_iff.mp hcyc t)

/-- There is an order only without a cycle. -/
theorem IsOrder.acyclic {order : List TaskId} (h : IsOrder w order) : ¬ w.Cyclic :=
  not_cyclic_iff.mpr fun t ht => h.ordered.grounded ((h.mem_iff t).mpr ht)

/-- In an order, whatever waits for a task comes after it. -/
theorem IsOrder.mem_after {before after : List TaskId} (h : IsOrder w (before ++ t :: after))
    (hu : w.WaitsFor u t) : u ∈ after := by
  have hnodup := List.nodup_append.mp h.nodup
  have hnew : t ∉ before := fun hmem => hnodup.2.2 t hmem t (by simp) rfl
  rcases List.mem_append.mp ((h.mem_iff u).mpr hu.1) with hmem | hmem
  · -- what comes before `t` waits for tasks before `t` only
    obtain ⟨b, b', rfl⟩ := List.append_of_mem hmem
    exact absurd (List.mem_append_left _ (h.ordered b u (b' ++ t :: after) (by simp) t hu)) hnew
  · rcases List.mem_cons.mp hmem with rfl | hmem
    · exact absurd (h.ordered before u after rfl u hu) hnew
    · exact hmem

/-! ## Scheduling -/

/-- Picking agents fails for want of an agent only. -/
theorem allocate_ne_cycleDetected {p : Pool} {levels : List Level} {remaining : List TaskId} :
    allocate w levels p ≠ .error (.cycleDetected remaining) := by
  have key : ∀ (ts : List TaskId) (a : NameMap AgentId),
      ts.foldlM (allocateTask w.tasksById p) a ≠ .error (.cycleDetected remaining) := by
    intro ts
    induction ts with
    | nil => exact fun a h => nomatch h
    | cons t ts ih =>
        intro a
        rw [List.foldlM_cons]
        cases hstep : allocateTask w.tasksById p a t with
        | ok a' => exact ih a'
        | error e =>
            unfold allocateTask at hstep
            rintro (heq : Except.error e = _)
            cases heq
            split at hstep
            · cases hstep
            · split at hstep <;> cases hstep
  exact key _ _

/-- A schedule that fails for a cycle fails because there is one. -/
theorem cyclic_of_schedule {p : Pool} {remaining : List TaskId}
    (h : w.schedule p = .error (.unschedulable (.cycleDetected remaining))) : w.Cyclic := by
  refine Classical.byContradiction fun hacyc => ?_
  simp only [Workflow.schedule, topologicalOrder_of_not_cyclic hacyc] at h
  split at h
  · cases h
  · split at h
    · next e he =>
        cases h
        exact allocate_ne_cycleDetected he
    · cases h

/-! ## Counting down -/

/-- `r` is a state in which the procedure is about to drop one dependency from the count of `u`: a
    task that waits for it has just been placed, and the dependents before `u` are already done. -/
def Release.AboutToDrop (g : Graph) (r : Release) (u : TaskId) : Prop :=
  ∃ k t rest before after,
    (run g k (start g)).ready = t :: rest ∧ g.dependentsOf t = before ++ u :: after ∧
      r = before.foldl Release.drop
        { run g k (start g) with ready := rest, placed := (run g k (start g)).placed ++ [t] }

theorem Release.AboutToDrop.exists_pos {r : Release}
    (h : Release.AboutToDrop (Graph.ofWorkflow w) r u) :
    ∃ n, r.missing.find? u = some (n + 1) := by
  obtain ⟨k, t, rest, before, after, hready, hdependents, rfl⟩ := h
  -- right after placing, the count of every dependent is one too high
  have hplaced := ((sound_start w).run k).place hready
  have hnodup := nodup_dependentsOf w t
  have hsub := dependentsOf_subset w t
  rw [hdependents] at hplaced hnodup hsub
  obtain ⟨hbefore, hafter⟩ := List.append_subset.mp hsub
  have hs := hplaced.foldl_drop hnodup hbefore
  exact ⟨_, hs.find?_of_due (hafter (List.mem_cons_self ..)) (List.mem_cons_self ..)⟩

/-! ## Agreement -/

/-- **Validation and ordering agree on cycles.** Ordering fails exactly if validation reports a
    cycle. It then names, in the order of their first declaration and each once, the declared ids
    above a cycle. A valid workflow is never refused for a cycle, and no count of missing
    dependencies is lowered when it is zero already. -/
theorem topologicalOrder_agrees_with_validation (w : Workflow) :
    ((∃ remaining, (Graph.ofWorkflow w).topologicalOrder = .error (.cycleDetected remaining)) ↔
      ∃ t path, .cycleDetected t path ∈ w.validationErrors) ∧
    (∀ remaining, (Graph.ofWorkflow w).topologicalOrder = .error (.cycleDetected remaining) →
      remaining.Pairwise (fun a b => w.taskIds.idxOf a < w.taskIds.idxOf b) ∧
      ∀ t, t ∈ remaining ↔ t ∈ w.taskIds ∧ w.ReachesCycle t) ∧
    (w.isValid = true → ∀ p remaining,
      w.schedule p ≠ .error (.unschedulable (.cycleDetected remaining))) ∧
    ∀ r u, Release.AboutToDrop (Graph.ofWorkflow w) r u →
      ∃ n, r.missing.find? u = some (n + 1) := by
  refine ⟨?_, ?_, ?_, fun r u h => h.exists_pos⟩
  · rw [cycleDetected_iff_cyclic]
    constructor
    · rintro ⟨remaining, h⟩
      refine Classical.byContradiction fun hacyc => ?_
      rw [topologicalOrder_of_not_cyclic hacyc] at h
      cases h
    · intro hcyc
      exact ⟨_, topologicalOrder_of_cyclic hcyc⟩
  · intro remaining h
    rw [topologicalOrder_eq] at h
    split at h
    · cases h
    · cases h
      exact ⟨pairwise_heldBack w, fun t => mem_heldBack⟩
  · intro hvalid p remaining h
    exact (wellFormed_of_isValid hvalid).acyclic (cyclic_of_schedule h)

/-- Two tasks that wait for each other, and one that waits for the first of them. -/
def ring : Workflow :=
  ((({ id := "ring", name := "Ring" } : Workflow).addTask { id := "a", name := "A" } ["b"]).addTask
    { id := "b", name := "B" } ["a"]).addTask { id := "c", name := "C" } ["a"]

/-- The ring and the task above it are held back, and validation reports the ring. -/
theorem topologicalOrder_agrees_with_validation_ring :
    ∃ remaining, (Graph.ofWorkflow ring).topologicalOrder = .error (.cycleDetected remaining) ∧
      remaining = ["a", "b", "c"] ∧ (∀ t, t ∈ remaining ↔ t ∈ ring.taskIds ∧ ring.ReachesCycle t) ∧
      ∃ t path, .cycleDetected t path ∈ ring.validationErrors := by
  obtain ⟨hagree, hremaining, _, _⟩ := topologicalOrder_agrees_with_validation ring
  have horder : (Graph.ofWorkflow ring).topologicalOrder = .error (.cycleDetected ["a", "b", "c"]) :=
    rfl
  exact ⟨_, horder, rfl, (hremaining _ horder).2, hagree.mp ⟨_, horder⟩⟩

end Foreman
