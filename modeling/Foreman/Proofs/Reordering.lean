import Foreman.Proofs.Allocation
import Foreman.Proofs.Budget
import Foreman.Proofs.Depths

/-!
# `Foreman.Proofs.Reordering` — the order of declaration is cosmetic

Tasks are released, grouped and listed as critical in the order of their declaration, so the schedules of
two workflows that declare the same tasks in different orders are computed differently throughout. They
still say the same, because each part of a schedule is a quantity of the graph, whatever the order: what a
cycle holds back (`mem_heldBack`), levels as depths (`ByDepth`), timings as weights of chains
(`CriticalPath.OfChains`), and the agent of a task as what the pool finds it (`Allocated`). The graph
itself, its chains and the estimates do not depend on the order of declaration, as long as no id is
declared twice; otherwise the first declaration counts.
-/

namespace Foreman

open Workflow

variable {w w' : Workflow} {t : TaskId} {ts ts' order order' : List TaskId} {mode : ExecutionMode}
  {durations : NameMap Duration} {P : List TaskId → Prop} {n : Nat} {p : Pool}
  {levels levels' : List Level} {path path' : CriticalPath}

/-- **Two workflows that differ in the order of declaration alone**, and declare no id twice. -/
structure Workflow.Reordered (w w' : Workflow) : Prop where
  perm : w.tasks.Perm w'.tasks
  rest : w' = { w with tasks := w'.tasks }
  distinct : w.taskIds.Nodup

namespace Workflow.Reordered

/-! ## What does not depend on the order -/

theorem perm_taskIds (h : w.Reordered w') : w.taskIds.Perm w'.taskIds := h.perm.map Task.id

theorem mem_taskIds (h : w.Reordered w') : t ∈ w'.taskIds ↔ t ∈ w.taskIds := h.perm_taskIds.symm.mem_iff

theorem symm (h : w.Reordered w') : w'.Reordered w := by
  refine ⟨h.perm.symm, ?_, h.perm_taskIds.nodup_iff.mp h.distinct⟩
  rw [h.rest]

theorem mode_eq (h : w.Reordered w') : w'.metadata.mode = w.metadata.mode := by
  rw [h.rest]

theorem sameGraph (h : w.Reordered w') : w.SameGraph w' := by
  have hdeps : w'.dependencies = w.dependencies := by rw [h.rest]
  refine ⟨fun t => h.mem_taskIds, ?_⟩
  funext t d
  rw [WaitsFor, WaitsFor, h.mem_taskIds, h.mem_taskIds, dependenciesOf, dependenciesOf, hdeps]

theorem cyclic_eq (h : w.Reordered w') : w'.Cyclic = w.Cyclic := h.sameGraph.cyclic_eq

theorem task?_eq (h : w.Reordered w') (t : TaskId) : w'.task? t = w.task? t := by
  have key : ∀ {w w' : Workflow}, w.Reordered w' → ∀ k, w'.task? t = some k → w.task? t = some k := by
    intro w w' h k hk
    rw [← id_of_task? hk]
    exact task?_of_mem h.distinct (h.perm.mem_iff.mpr (mem_of_task? hk))
  exact Option.ext fun k => ⟨key h k, key h.symm k⟩

theorem estimates_eq (h : w.Reordered w') : w'.estimates = w.estimates := by
  refine NameMap.ext_find? fun t => ?_
  rw [find?_estimates, find?_estimates, h.task?_eq]

theorem agentFor_eq (h : w.Reordered w') (p : Pool) (t : TaskId) : agentFor w' p t = agentFor w p t := by
  rw [agentFor, h.task?_eq, agentFor]

theorem longestChain (h : w.Reordered w') (hn : w'.LongestChain P n) : w.LongestChain P n :=
  ⟨h.sameGraph.chain_eq ▸ hn.bound, h.sameGraph.chain_eq ▸ hn.attained⟩

theorem depth (h : w.Reordered w') (hn : w'.Depth t n) : w.Depth t n := h.longestChain hn

/-- A critical path in terms of chains is one in terms of the chains of either workflow. -/
theorem ofChains (h : w.Reordered w') (hpath : path.OfChains w' durations) :
    path.OfChains w durations := by
  refine ⟨hpath.duration.ofSameGraph h.sameGraph, fun t => (hpath.keys t).trans h.mem_taskIds,
    fun t timing ht => ?_, hpath.critical, hpath.nodup, hpath.ascending⟩
  have htiming := hpath.timings t timing ht
  obtain ⟨n, habove, hfinish⟩ := htiming.latestFinish
  obtain ⟨m, hthrough, hslack⟩ := htiming.slack
  have hbelow := h.sameGraph.endsBelow_eq t ▸ htiming.earliestStart
  exact ⟨hbelow.ofSameGraph h.sameGraph,
    ⟨n, (h.sameGraph.startsAbove_eq t ▸ habove).ofSameGraph h.sameGraph, hfinish⟩,
    ⟨m, hthrough.ofSameGraph h.sameGraph, hslack⟩, htiming.sum, htiming.inTime⟩

end Workflow.Reordered

/-! ## The parts of a schedule -/

/-- Two levels with the same tasks. -/
structure Level.SameUpToOrder (level level' : Level) : Prop where
  index : level.index = level'.index
  tasks : level.tasks.Perm level'.tasks
  parallel : level.parallel = level'.parallel

/-- **Two schedules that say the same** but for the order in which they list tasks. -/
structure Schedule.SameUpToOrder (s s' : Schedule) : Prop where
  order : s.order.Perm s'.order
  levels : List.Forall₂ Level.SameUpToOrder s.levels s'.levels
  duration : s.criticalPath.duration = s'.criticalPath.duration
  timings : s.criticalPath.timings = s'.criticalPath.timings
  critical : s.criticalPath.tasks.Perm s'.criticalPath.tasks
  allocation : s.allocation = s'.allocation

/-- **Two schedules that say the same, or two refusals of the same kind**; refusals for a cycle hold back
    the same tasks. -/
inductive SameScheduling : Except PlanError Schedule → Except PlanError Schedule → Prop
  | planned {s s' : Schedule} (h : s.SameUpToOrder s') : SameScheduling (.ok s) (.ok s')
  | cyclic {ts ts' : List TaskId} (h : ts.Perm ts') : SameScheduling
      (.error (.unschedulable (.cycleDetected ts))) (.error (.unschedulable (.cycleDetected ts')))
  | withoutAgent {t t' : TaskId} {required required' : List Capability} {accelerator accelerator' : Bool} :
      SameScheduling (.error (.unschedulable (.noSuitableAgent t required accelerator)))
        (.error (.unschedulable (.noSuitableAgent t' required' accelerator')))

@[simp] theorem SameScheduling.planned_iff {s s' : Schedule} :
    SameScheduling (.ok s) (.ok s') ↔ s.SameUpToOrder s' := by
  refine ⟨fun h => ?_, .planned⟩
  cases h with
  | planned h => exact h

theorem ByDepth.nodup {level : Level} (h : ByDepth w mode levels) (hlevel : level ∈ levels) :
    level.tasks.Nodup := by
  refine (h.declaration level hlevel).imp ?_
  rintro a _ hlt rfl
  exact Nat.lt_irrefl _ hlt

theorem ByDepth.index_eq {i : Nat} (h : ByDepth w mode levels) (hi : i < levels.length) :
    levels[i].index = i := by
  have hget : (levels.map Level.index)[i]? = some i := by
    rw [h.indices, List.getElem?_range hi]
  rw [List.getElem?_map, List.getElem?_eq_getElem hi, Option.map_some, Option.some_inj] at hget
  exact hget

namespace Workflow.Reordered

/-- **The levels hold the same tasks.** -/
theorem sameLevels (h : w.Reordered w') (hlevels : ByDepth w mode levels)
    (hlevels' : ByDepth w' mode levels') : List.Forall₂ Level.SameUpToOrder levels levels' := by
  have hlength : levels.length = levels'.length :=
    hlevels.count.unique (h.longestChain hlevels'.count)
  refine List.forall₂_iff_get.mpr ⟨hlength, fun i hi hi' => ?_⟩
  have hmem : levels[i] ∈ levels := List.getElem_mem hi
  have hmem' : levels'[i] ∈ levels' := List.getElem_mem hi'
  have hindex : levels[i].index = levels'[i].index :=
    (hlevels.index_eq hi).trans (hlevels'.index_eq hi').symm
  have htasks : levels[i].tasks.Perm levels'[i].tasks := by
    refine (List.perm_ext_iff_of_nodup (hlevels.nodup hmem) (hlevels'.nodup hmem')).mpr fun t => ?_
    rw [hlevels.mem_iff _ hmem, hlevels'.mem_iff _ hmem', hindex]
    exact ⟨h.symm.depth, h.depth⟩
  refine ⟨hindex, htasks, Bool.eq_iff_iff.mpr ?_⟩
  rw [List.get_eq_getElem, List.get_eq_getElem, hlevels.parallel _ hmem, hlevels'.parallel _ hmem',
    htasks.length_eq]

/-- Tasks that are held back in the one workflow are so in the other. -/
theorem perm_heldBack (h : w.Reordered w') : (heldBack w).Perm (heldBack w') := by
  have hnodup : ∀ w, (heldBack w).Nodup := by
    intro w
    refine (pairwise_heldBack w).imp ?_
    rintro a _ hlt rfl
    exact Nat.lt_irrefl _ hlt
  refine (List.perm_ext_iff_of_nodup (hnodup w) (hnodup w')).mpr fun t => ?_
  rw [mem_heldBack, mem_heldBack, h.mem_taskIds, ReachesCycle, ReachesCycle, h.sameGraph.waitsFor_eq]

/-- **Picking agents for the same tasks** succeeds with the same agents, or fails, on both sides. -/
theorem sameScheduling {picked picked' : Except SchedulingError (NameMap AgentId)}
    {plan plan' : NameMap AgentId → Schedule} (h : w.Reordered w') (hts : ∀ t, t ∈ ts' ↔ t ∈ ts)
    (hpicked : Allocated w p ts ∅ picked) (hpicked' : Allocated w' p ts' ∅ picked')
    (hplan : ∀ allocation, (plan allocation).SameUpToOrder (plan' allocation)) :
    SameScheduling ((picked.mapError .unschedulable).map plan)
      ((picked'.mapError .unschedulable).map plan') := by
  cases hpicked with
  | @all allocation hall hfind =>
      cases hpicked' with
      | @all allocation' hall' hfind' =>
          have heq : allocation = allocation' := by
            refine NameMap.ext_find? fun t => ?_
            rw [hfind, hfind', h.agentFor_eq, if_congr (hts t) rfl rfl]
          exact heq ▸ .planned (hplan allocation)
      | @without before after t _ heq _ _ hnone =>
          have ht : t ∈ ts' := by simp [heq]
          exact absurd (h.agentFor_eq p t ▸ hnone) (hall t ((hts t).mp ht))
  | @without before after t _ heq _ _ hnone =>
      have ht : t ∈ ts := by simp [heq]
      cases hpicked' with
      | all hall' hfind' =>
          exact absurd ((h.agentFor_eq p t).trans hnone) (hall' t ((hts t).mpr ht))
      | without => exact .withoutAgent

/-- Without a cycle, schedules are made of the same parts. -/
theorem sameScheduling_of_not_cyclic (h : w.Reordered w') (hacyc : ¬ w.Cyclic)
    (hfit : WeightsFit w w.estimates) (p : Pool) : SameScheduling (w.schedule p) (w'.schedule p) := by
  have hacyc' : ¬ w'.Cyclic := h.cyclic_eq ▸ hacyc
  have hfit' : WeightsFit w' w'.estimates := by
    rw [h.estimates_eq]
    intro ts hts
    exact hfit ts (h.sameGraph.chain_eq ▸ hts)
  obtain ⟨order, path, horder, hpath, heq⟩ := exists_schedule_eq hacyc hfit p
  obtain ⟨order', path', horder', hpath', heq'⟩ := exists_schedule_eq hacyc' hfit' p
  have hties : path.SameUpToTies path' := hpath.sameUpToTies (h.ofChains (h.estimates_eq ▸ hpath'))
  have hperm : order.Perm order' := by
    refine (List.perm_ext_iff_of_nodup horder.nodup horder'.nodup).mpr fun t => ?_
    rw [horder.mem_iff, horder'.mem_iff, h.mem_taskIds]
  rw [heq, heq', h.mode_eq]
  have hmem : ∀ t, t ∈ tasksOf (computeLevels (Graph.ofWorkflow w) order w.metadata.mode) ↔
      t ∈ w.taskIds := (layered_computeLevels horder).mem_iff
  have hmem' : ∀ t, t ∈ tasksOf (computeLevels (Graph.ofWorkflow w') order' w.metadata.mode) ↔
      t ∈ w'.taskIds := (layered_computeLevels horder').mem_iff
  refine h.sameScheduling (fun t => ?_) (allocated _ (fun t ht => (hmem t).mp ht) ∅)
    (allocated _ (fun t ht => (hmem' t).mp ht) ∅) fun allocation => ?_
  · exact (hmem' t).trans (h.mem_taskIds.trans (hmem t).symm)
  · exact ⟨hperm, h.sameLevels (byDepth_computeLevels horder) (byDepth_computeLevels horder'),
      hties.duration, hties.timings, hties.tasks, rfl⟩

end Workflow.Reordered

/-- **Declaration order is cosmetic.** If no id is declared twice and all chains fit, then however the
    tasks are reordered and whatever the pool, both workflows get the same schedule but for the order in
    which it lists tasks, or both get none for the same kind of reason; a cycle holds back the same
    tasks. Chains that repeat a task, as a cycle has, need not fit. -/
theorem schedule_ignores_declaration_order (hdistinct : w.taskIds.Nodup)
    (hfit : ∀ ts, w.Chain ts → ts.Nodup → weight w.estimates ts ≤ maxNanos) {tasks : List Task}
    (hperm : w.tasks.Perm tasks) (p : Pool) :
    SameScheduling (w.schedule p) ({ w with tasks }.schedule p) := by
  have h : w.Reordered { w with tasks } := ⟨hperm, rfl, hdistinct⟩
  by_cases hcyc : w.Cyclic
  · have hcyc' : Cyclic { w with tasks } := h.cyclic_eq ▸ hcyc
    rw [Workflow.schedule, Workflow.schedule, topologicalOrder_of_cyclic hcyc,
      topologicalOrder_of_cyclic hcyc']
    exact .cyclic h.perm_heldBack
  · exact h.sameScheduling_of_not_cyclic hcyc (fun ts hts => hfit ts hts (hts.nodup hcyc)) p

/-- The fork with its tasks in the opposite order: both ways then change places in the order. -/
theorem schedule_ignores_declaration_order_fork :
    ∃ pool s s', Pool.ofSpecs [{ id := "worker" }] = .ok pool ∧ fork.schedule pool = .ok s ∧
      { fork with tasks := fork.tasks.reverse }.schedule pool = .ok s' ∧
      s.order = ["start", "short", "long", "end"] ∧ s'.order = ["start", "long", "short", "end"] ∧
      s.SameUpToOrder s' := by
  have hfit : ∀ ts, fork.Chain ts → ts.Nodup → weight fork.estimates ts ≤ maxNanos :=
    fun ts hts _ => Nat.le_trans (hts.weight_le isOrder_fork.1.acyclic) (by decide)
  obtain ⟨pool, hpool⟩ : ∃ pool, Pool.ofSpecs [{ id := "worker" }] = .ok pool := ⟨_, rfl⟩
  have hsame := schedule_ignores_declaration_order (by decide) hfit
    (List.reverse_perm _).symm pool
  obtain rfl : _ = pool := Except.ok.inj hpool
  exact ⟨_, _, _, rfl, rfl, rfl, rfl, rfl, SameScheduling.planned_iff.mp hsame⟩

end Foreman
