import Foreman.Proofs.Budget

/-!
# `Foreman.Proofs.CriticalTasks` — the tasks of the heaviest chains

Critical tasks are picked one by one, by their slack, and then sorted by their earliest start. What comes
out are whole chains: a task has no slack exactly if it is on a heaviest chain (`mem_tasks_iff`), and then
so are all the others of that chain.

Their order needs more than earliest starts, since a task that takes no time leaves its dependents the same
earliest start. Along dependencies the starts never decrease (`startOf_le_of_transGen`), and where they are
equal the sort keeps the topological order, in which nothing waits for what comes later
(`IsOrder.pairwise_not_waits`).

## Contents
- **`Workflow.HasCriticalPath`**: the critical path that every schedule of a workflow has.
- `CriticalPath.OfChains.mem_tasks_iff`, `CriticalPath.OfChains.startOf_le`: critical tasks and earliest
  starts in terms of chains.
- `pairwise_critical`: the order of the critical tasks.
- **`CriticalPath.ListsCritical`** and `critical_tasks_form_chains`.
-/

namespace Foreman

open Workflow Relation

variable {w : Workflow} {durations : NameMap Duration} {path : CriticalPath} {t u d : TaskId}
  {ts us order before after : List TaskId} {n : Nat}

/-! ## The critical path of a workflow -/

/-- **The critical path of a workflow**: the one that is computed along its own order of release. Every
    schedule has it, whatever agents there are. -/
structure Workflow.HasCriticalPath (w : Workflow) (path : CriticalPath) : Prop where
  computed : ∃ order, (Graph.ofWorkflow w).topologicalOrder = .ok order ∧
    computeCriticalPath (Graph.ofWorkflow w) order w.estimates = .ok path
  scheduled : ∀ p schedule, w.schedule p = .ok schedule → schedule.criticalPath = path

theorem hasCriticalPath (horder : (Graph.ofWorkflow w).topologicalOrder = .ok order)
    (hpath : computeCriticalPath (Graph.ofWorkflow w) order w.estimates = .ok path) :
    w.HasCriticalPath path := by
  refine ⟨⟨order, horder, hpath⟩, fun p schedule h => ?_⟩
  rw [schedule_eq_of_criticalPath horder hpath] at h
  cases hallocate : allocate w (computeLevels (Graph.ofWorkflow w) order w.metadata.mode) p with
  | error e =>
      rw [hallocate] at h
      cases h
  | ok allocation =>
      rw [hallocate] at h
      cases h
      rfl

/-- Without a cycle, and if every chain fits, there is one. -/
theorem exists_hasCriticalPath (hacyc : ¬ w.Cyclic) (hfit : WeightsFit w w.estimates) :
    ∃ path, w.HasCriticalPath path := by
  have horder := topologicalOrder_of_not_cyclic hacyc
  obtain ⟨path, hpath, -⟩ := exists_criticalPath hfit (isOrder_of_topologicalOrder horder)
  exact ⟨path, hasCriticalPath horder hpath⟩

theorem Workflow.HasCriticalPath.ofChains (h : w.HasCriticalPath path)
    (hfit : WeightsFit w w.estimates) : path.OfChains w w.estimates := by
  obtain ⟨order, horder, hpath⟩ := h.computed
  obtain ⟨path', hpath', hchains, -⟩ := exists_criticalPath hfit (isOrder_of_topologicalOrder horder)
  obtain rfl : path = path' := Except.ok.inj (hpath.symm.trans hpath')
  exact hchains

/-! ## Critical tasks and heaviest chains -/

/-- **A heaviest chain**: no other one weighs more. -/
structure Workflow.HeaviestChain (w : Workflow) (durations : NameMap Duration) (ts : List TaskId) :
    Prop where
  chain : w.Chain ts
  greatest : ∀ us, w.Chain us → weight durations us ≤ weight durations ts

/-- Heaviest chains are those of the greatest weight. -/
theorem Heaviest.heaviestChain_iff (h : Heaviest w durations (fun _ => True) n) :
    w.HeaviestChain durations ts ↔ w.Chain ts ∧ weight durations ts = n := by
  constructor
  · intro hts
    obtain ⟨us, hus, hweight, -⟩ := h.exists_chain
    have hle := h.bound ts hts.chain trivial
    have hge := hts.greatest us hus
    exact ⟨hts.chain, by omega⟩
  · rintro ⟨hts, rfl⟩
    exact ⟨hts, fun us hus => h.bound us hus trivial⟩

namespace CriticalPath.OfChains

/-- Every declared task has its timing. -/
theorem exists_timing (h : path.OfChains w durations) (ht : t ∈ w.taskIds) :
    ∃ timing, path.timings.find? t = some timing ∧ timing.OfChains w durations path.duration t := by
  obtain ⟨timing, htiming⟩ := NameMap.mem_keys_iff.mp ((h.keys t).mpr ht)
  exact ⟨timing, htiming, h.timings t timing htiming⟩

/-- **A task is critical exactly if it is on a heaviest chain.** -/
theorem mem_tasks_iff (h : path.OfChains w durations) :
    t ∈ path.tasks ↔ ∃ ts, w.HeaviestChain durations ts ∧ t ∈ ts := by
  constructor
  · intro ht
    obtain ⟨timing, htiming, hzero⟩ := (h.critical t).mp ht
    obtain ⟨n, hthrough, hsum⟩ := (h.timings t timing htiming).slack
    have hdeclared : t ∈ w.taskIds := (h.keys t).mp (NameMap.mem_keys_iff.mpr ⟨timing, htiming⟩)
    obtain ⟨ts, hts, hmem, hweight⟩ := hthrough.exists_through hdeclared
    have hnanos : timing.slack.nanos = 0 := congrArg Duration.nanos hzero
    exact ⟨ts, h.duration.heaviestChain_iff.mpr ⟨hts, by omega⟩, hmem⟩
  · rintro ⟨ts, hheaviest, hmem⟩
    obtain ⟨hts, hweight⟩ := h.duration.heaviestChain_iff.mp hheaviest
    obtain ⟨timing, htiming, hchains⟩ := h.exists_timing (hts.declared t hmem)
    obtain ⟨n, hthrough, hsum⟩ := hchains.slack
    -- the heaviest chain of all passes through the task, so nothing is left of the total
    have hle := hthrough.bound ts hts hmem
    have hzero : timing.slack.nanos = 0 := by omega
    exact (h.critical t).mpr ⟨timing, htiming, Duration.ext_nanos hzero⟩

/-! ## Earliest starts -/

theorem heaviest_startOf (h : path.OfChains w durations) (ht : t ∈ w.taskIds) :
    Heaviest w durations (w.EndsBelow t) (path.startOf t) := by
  obtain ⟨timing, htiming, hchains⟩ := h.exists_timing ht
  have hstart : path.startOf t = timing.earliestStart.nanos := by
    rw [startOf, htiming, Option.map_some, Option.getD_some]
  exact hstart ▸ hchains.earliestStart

/-- A task starts after what it waits for has ended. -/
theorem startOf_le (h : path.OfChains w durations) (hwaits : w.WaitsFor t d) :
    path.startOf d + (durationIn durations d).nanos ≤ path.startOf t := by
  have hend := (h.heaviest_startOf hwaits.2.1).endsIn hwaits.2.1
  rcases hend.attained with hzero | ⟨ts, hts, hlast, hweight⟩
  · omega
  · rw [← hweight]
    exact (h.heaviest_startOf hwaits.1).bound ts hts ⟨d, hwaits, hlast⟩

/-- Along dependencies, direct or not, earliest starts never increase. -/
theorem startOf_le_of_transGen (h : path.OfChains w durations) (hwaits : TransGen w.WaitsFor t d) :
    path.startOf d ≤ path.startOf t := by
  induction hwaits with
  | single hd => exact Nat.le_trans (Nat.le_add_right _ _) (h.startOf_le hd)
  | tail _ hd ih => exact Nat.le_trans (Nat.le_trans (Nat.le_add_right _ _) (h.startOf_le hd)) ih

end CriticalPath.OfChains

/-! ## The order of critical tasks -/

/-- In an ordered list, whatever a task waits for, directly or not, comes before it. -/
theorem Ordered.mem_of_transGen (h : Ordered w order) (heq : order = before ++ t :: after)
    (hwaits : TransGen w.WaitsFor t d) : d ∈ before := by
  induction hwaits with
  | single hd => exact h before t after heq _ hd
  | tail _ hd ih =>
      obtain ⟨b, b', rfl⟩ := List.append_of_mem ih
      have hmem := h b _ (b' ++ t :: after) (by rw [heq]; simp) _ hd
      exact List.mem_append_left _ hmem

/-- In a topological order nothing waits for what comes later. -/
theorem IsOrder.pairwise_not_waits (h : IsOrder w order) :
    order.Pairwise fun a b => ¬ TransGen w.WaitsFor a b := by
  have key : ∀ after before, order = before ++ after →
      after.Pairwise fun a b => ¬ TransGen w.WaitsFor a b := by
    intro after
    induction after with
    | nil => exact fun _ _ => List.Pairwise.nil
    | cons a after ih =>
        intro before heq
        refine List.pairwise_cons.mpr ⟨fun b hb hwaits => ?_, ih (before ++ [a]) (by simp [heq])⟩
        have hbefore : b ∈ before := h.ordered.mem_of_transGen heq hwaits
        have hnodup := h.nodup
        rw [heq] at hnodup
        exact (List.nodup_append.mp hnodup).2.2 b hbefore b (List.mem_cons_of_mem a hb) rfl
  exact key order [] rfl

/-- What a critical path is made of. -/
theorem exists_timing_of_criticalPath {g : Graph}
    (h : computeCriticalPath g order durations = .ok path) : ∃ timing : TaskId → Timing,
      path.timings = tabulate timing order ∧
      path.tasks = sortBy (fun t => (timing t).earliestStart.nanos)
        (order.filter fun t => (timing t).slack = .zero) := by
  unfold computeCriticalPath at h
  cases hstarts : earliestStarts g durations order with
  | error o =>
      rw [hstarts] at h
      cases h
  | ok starts =>
      cases htotal : makespan durations starts order with
      | error o => simp [hstarts, bind, Except.bind, htotal] at h
      | ok total =>
          simp only [hstarts, bind, Except.bind, htotal] at h
          cases h
          exact ⟨_, rfl, rfl⟩

/-- **Of two critical tasks, the first one starts earlier or does not wait for the second one.** -/
theorem pairwise_critical (horder : IsOrder w order)
    (h : computeCriticalPath (Graph.ofWorkflow w) order durations = .ok path) :
    path.tasks.Pairwise fun a b => path.startOf a < path.startOf b ∨ ¬ TransGen w.WaitsFor a b := by
  obtain ⟨timing, htimings, htasks⟩ := exists_timing_of_criticalPath h
  have hstart : ∀ t ∈ path.tasks, path.startOf t = (timing t).earliestStart.nanos := by
    intro t ht
    rw [htasks, mem_sortBy] at ht
    rw [CriticalPath.startOf, htimings, find?_tabulate, if_pos (List.mem_filter.mp ht).1,
      Option.map_some, Option.getD_some]
  have hsorted := sortBy_stable (fun t => (timing t).earliestStart.nanos)
    (horder.pairwise_not_waits.filter fun t => (timing t).slack = .zero)
  rw [← htasks] at hsorted
  refine hsorted.imp_of_mem fun {a b} ha hb hab => ?_
  rw [hstart a ha, hstart b hb]
  exact hab

/-! ## Results -/

/-- **What the list of critical tasks says** about the chains of a workflow, whose tasks weigh their
    estimates. -/
structure CriticalPath.ListsCritical (w : Workflow) (path : CriticalPath) : Prop where
  /-- It holds the tasks of the heaviest chains. -/
  mem_iff : ∀ t, t ∈ path.tasks ↔ ∃ ts, w.HeaviestChain w.estimates ts ∧ t ∈ ts
  nodup : path.tasks.Nodup
  /-- All of some chain that takes as long as the critical path is in the list. -/
  whole : ∃ ts, w.Chain ts ∧ weight w.estimates ts = path.duration.nanos ∧ ts ⊆ path.tasks ∧
    (w.tasks ≠ [] → ts ≠ [])
  nonempty : w.tasks ≠ [] → path.tasks ≠ []
  duration_le : path.duration.nanos ≤ weight w.estimates path.tasks
  ascending : path.tasks.Pairwise fun a b => path.startOf a ≤ path.startOf b
  /-- Whatever a critical task waits for, directly or not, comes before it, if it is critical too. -/
  ordered : ∀ before t after, path.tasks = before ++ t :: after →
    ∀ u ∈ path.tasks, TransGen w.WaitsFor t u → u ∈ before

/-- **The critical tasks are those of the heaviest chains, dependencies first.** Without a cycle, and if
    all chains fit, a workflow has a critical path, whatever the agents. It lists the tasks of the
    heaviest chains, each once; one such chain is listed whole, so the list is empty only for an empty
    workflow, and its tasks take at least as long as the critical path. It is in the order of earliest
    starts, and whatever a task waits for comes before it, even where durations are zero. -/
theorem critical_tasks_form_chains (hacyc : ¬ w.Cyclic) (hfit : WeightsFit w w.estimates) :
    ∃ path, w.HasCriticalPath path ∧ path.ListsCritical w := by
  obtain ⟨path, hpath⟩ := exists_hasCriticalPath hacyc hfit
  have hchains := hpath.ofChains hfit
  obtain ⟨order, horder, hcomputed⟩ := hpath.computed
  obtain ⟨ts, hts, hweight, hempty⟩ := hchains.duration.exists_chain
  have hwhole : ts ⊆ path.tasks := fun t ht =>
    hchains.mem_tasks_iff.mpr ⟨ts, hchains.duration.heaviestChain_iff.mpr ⟨hts, hweight⟩, ht⟩
  have hne : w.tasks ≠ [] → ts ≠ [] := fun htasks hnil =>
    htasks (List.map_eq_nil_iff.mp (hempty hnil))
  refine ⟨path, hpath, fun t => hchains.mem_tasks_iff, hchains.nodup, ⟨ts, hts, hweight, hwhole, hne⟩,
    fun htasks hnil => ?_, ?_, hchains.ascending, ?_⟩
  · rw [hnil] at hwhole
    exact hne htasks (List.subset_nil.mp hwhole)
  · rw [← hweight]
    exact weight_le_of_subset (hts.nodup hacyc) hwhole
  · intro before t after heq u hu hwaits
    have hpairwise := pairwise_critical (isOrder_of_topologicalOrder horder) hcomputed
    rw [heq] at hpairwise hu
    rcases List.mem_append.mp hu with hbefore | hrest
    · exact hbefore
    · rcases List.mem_cons.mp hrest with rfl | hafter
      · exact absurd ⟨u, hwaits⟩ hacyc
      · -- a task that stands later would start later, or nothing before would wait for it
        rcases List.rel_of_pairwise_cons (List.pairwise_append.mp hpairwise).2.1 hafter with hlt | hnot
        · exact absurd (hchains.startOf_le_of_transGen hwaits) (Nat.not_le_of_lt hlt)
        · exact absurd hwaits hnot

/-- Two ways of the same length, and two steps at the end that take no time. The last one is declared
    first. -/
def deadHeat : Workflow :=
  (((((({ id := "deadHeat", name := "Dead heat" } : Workflow).addTask
    { id := "announce", name := "Announce" } ["finish"]).addTask
    { id := "finish", name := "Finish" } ["left", "right"]).addTask
    { id := "left", name := "Left", estimate := .ofSecs 2 } ["start"]).addTask
    { id := "right", name := "Right", estimate := .ofSecs 2 } ["start"]).addTask
    { id := "start", name := "Start", estimate := .ofSecs 1 } []).addTask
    { id := "watch", name := "Watch", estimate := .ofSecs 1 } []

theorem topologicalOrder_deadHeat : (Graph.ofWorkflow deadHeat).topologicalOrder =
    .ok ["start", "watch", "left", "right", "finish", "announce"] := rfl

/-- Both ways are critical, and so are both steps at the end, which start at the same time. -/
theorem critical_tasks_form_chains_deadHeat :
    ∃ path, deadHeat.HasCriticalPath path ∧
      path.tasks = ["start", "left", "right", "finish", "announce"] ∧ path.duration = .ofSecs 3 ∧
      path.startOf "finish" = path.startOf "announce" ∧ path.ListsCritical deadHeat := by
  have hacyc := (isOrder_of_topologicalOrder topologicalOrder_deadHeat).acyclic
  have hfit : WeightsFit deadHeat deadHeat.estimates := weightsFit_of_le hacyc (by decide)
  obtain ⟨path, hpath, hlists⟩ := critical_tasks_form_chains hacyc hfit
  obtain ⟨order, horder, hcomputed⟩ := hpath.computed
  obtain rfl : _ = order := Except.ok.inj (topologicalOrder_deadHeat.symm.trans horder)
  obtain rfl : _ = path := Except.ok.inj hcomputed
  exact ⟨_, hpath, rfl, rfl, rfl, hlists⟩

end Foreman
