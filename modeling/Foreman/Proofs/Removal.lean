import Foreman.Proofs.CriticalTasks

/-!
# `Foreman.Proofs.Removal` — workflows without one of their tasks

A task is taken out of a workflow by letting everything that waited for it wait for what it waited for. So
each chain that passed through the task is still there, only lighter, and there are no new ones: an edge of
the trimmed graph is an edge, or the detour over the task (`waitsFor_without_iff`).

If the task had slack then no heaviest chain passed through it, and the heaviest ones are left as they were
(`Heaviest.without`).

## Contents
- **`Workflow.without`**, with its edges and its chains.
- `WellFormed.without`: validity.
- `Heaviest.without` and `removal_keeps_duration`: the critical path.
-/

namespace Foreman

open Workflow Relation

variable {w : Workflow} {r t d : TaskId} {ts : List TaskId} {m n : Nat}

/-! ## The trimmed workflow -/

/-- A set with the members of another one in the place of a member. -/
def NameSet.substitute (ds : NameSet) (r : String) (inherited : NameSet) : NameSet :=
  if r ∈ ds then (ds.erase r).union inherited else ds

theorem NameSet.mem_substitute {ds inherited : NameSet} :
    d ∈ ds.substitute r inherited ↔ d ∈ ds ∧ d ≠ r ∨ r ∈ ds ∧ d ∈ inherited := by
  unfold substitute
  by_cases hr : r ∈ ds
  · simp [hr]
  · have hne : d ∈ ds → d ≠ r := fun hd heq => hr (heq ▸ hd)
    simpa [hr] using hne

/-- The workflow without a task: whatever waited for it waits for what it waited for. -/
def Workflow.without (w : Workflow) (r : TaskId) : Workflow :=
  { w with
    tasks := w.tasks.filter (·.id ≠ r)
    dependencies :=
      (w.dependencies.erase r).mapValues fun ds => ds.substitute r (w.dependenciesOf r) }

theorem taskIds_without (w : Workflow) (r : TaskId) :
    (w.without r).taskIds = w.taskIds.filter (· ≠ r) := by
  rw [taskIds, without, taskIds, List.filter_map]
  rfl

@[simp] theorem mem_taskIds_without : t ∈ (w.without r).taskIds ↔ t ∈ w.taskIds ∧ t ≠ r := by
  rw [taskIds_without, List.mem_filter, decide_eq_true_iff]

theorem find?_dependencies_without (ht : t ≠ r) : (w.without r).dependencies.find? t =
    (w.dependencies.find? t).map fun ds => ds.substitute r (w.dependenciesOf r) := by
  rw [without, NameMap.find?_mapValues, NameMap.find?_erase, if_neg ht]

/-- What the others wait for. -/
theorem dependenciesOf_without (ht : t ≠ r) : (w.without r).dependenciesOf t =
    (w.dependenciesOf t).substitute r (w.dependenciesOf r) := by
  simp only [dependenciesOf, find?_dependencies_without ht]
  cases w.dependencies.find? t <;> rfl

theorem task?_without (ht : t ≠ r) : (w.without r).task? t = w.task? t := by
  rw [task?, without, List.find?_filter, task?]
  congr 1
  funext k
  by_cases hk : k.id = t <;> simp [hk, ht]

/-- **An edge of the trimmed graph** is an edge, or the detour over the task. -/
theorem waitsFor_without_iff (hr : r ∈ w.taskIds) : (w.without r).WaitsFor t d ↔
    (t ≠ r ∧ d ≠ r) ∧ (w.WaitsFor t d ∨ w.WaitsFor t r ∧ w.WaitsFor r d) := by
  simp only [WaitsFor, mem_taskIds_without]
  by_cases ht : t = r
  · simp [ht]
  · rw [dependenciesOf_without ht, NameSet.mem_substitute]
    tauto

/-- Whatever waits in the trimmed graph waited before, directly or not. -/
theorem transGen_waitsFor_without (hr : r ∈ w.taskIds) :
    TransGen (w.without r).WaitsFor ≤ TransGen w.WaitsFor := by
  refine TransGen.closed fun a b hab => ?_
  obtain ⟨-, hedge | ⟨hfirst, hsecond⟩⟩ := (waitsFor_without_iff hr).mp hab
  · exact .single hedge
  · exact .tail (.single hfirst) hsecond

theorem not_cyclic_without (hr : r ∈ w.taskIds) (hacyc : ¬ w.Cyclic) : ¬ (w.without r).Cyclic := by
  rintro ⟨t, ht⟩
  exact hacyc ⟨t, transGen_waitsFor_without hr t t ht⟩

/-! ## Chains -/

/-- Chains that avoid the task are left as they were. -/
theorem Workflow.Chain.without (hr : r ∈ w.taskIds) (h : w.Chain ts) (havoids : r ∉ ts) :
    (w.without r).Chain ts := by
  have hne : ∀ t ∈ ts, t ≠ r := fun t ht heq => havoids (heq ▸ ht)
  refine ⟨fun t ht => mem_taskIds_without.mpr ⟨h.declared t ht, hne t ht⟩, ?_⟩
  refine h.linked.imp_of_mem_imp fun d t hd ht hwaits => ?_
  exact (waitsFor_without_iff hr).mpr ⟨⟨hne t ht, hne d hd⟩, Or.inl hwaits⟩

/-- **Chains of the trimmed graph are parts of chains**, with the task put back where it is missing. -/
theorem exists_chain_of_without (hr : r ∈ w.taskIds) (h : (w.without r).Chain (t :: ts)) :
    ∃ us, w.Chain (t :: us) ∧ ts.Sublist us := by
  induction ts generalizing t with
  | nil => exact ⟨[], .singleton (mem_taskIds_without.mp (h.declared t (by simp))).1, .slnil⟩
  | cons u ts ih =>
      obtain ⟨hwaits, hrest⟩ := Chain.cons_cons_iff.mp h
      obtain ⟨us, hus, hsub⟩ := ih hrest
      obtain ⟨-, hedge | ⟨hfirst, hsecond⟩⟩ := (waitsFor_without_iff hr).mp hwaits
      · exact ⟨u :: us, Chain.cons_cons_iff.mpr ⟨hedge, hus⟩, hsub.cons_cons u⟩
      · have hdetour : w.Chain (r :: u :: us) := Chain.cons_cons_iff.mpr ⟨hfirst, hus⟩
        exact ⟨r :: u :: us, Chain.cons_cons_iff.mpr ⟨hsecond, hdetour⟩, (hsub.cons_cons u).cons r⟩

/-! ## Validity -/

/-- **What is well formed is so without one of its tasks.** -/
theorem Workflow.WellFormed.without (h : w.WellFormed) (hr : r ∈ w.taskIds) :
    (w.without r).WellFormed := by
  refine ⟨not_cyclic_without hr h.acyclic, ?_, fun t ds hds => ?_, fun k hk => ?_, ?_⟩
  · rw [taskIds_without]
    exact h.distinct.filter _
  · have ht : t ≠ r := by
      rintro rfl
      simp [without] at hds
    rw [find?_dependencies_without ht, Option.map_eq_some_iff] at hds
    obtain ⟨old, hold, rfl⟩ := hds
    obtain ⟨hdeclared, hmembers⟩ := h.declared t old hold
    refine ⟨mem_taskIds_without.mpr ⟨hdeclared, ht⟩, fun d hd => mem_taskIds_without.mpr ?_⟩
    rcases NameSet.mem_substitute.mp hd with ⟨hmem, hne⟩ | ⟨-, hinherited⟩
    · exact ⟨hmembers d hmem, hne⟩
    · -- an inherited dependency is declared, and it is another task since there is no cycle
      have hwaits := h.waitsFor_of_mem hinherited
      exact ⟨hwaits.2.1, fun heq => h.acyclic ⟨r, .single (heq ▸ hwaits)⟩⟩
  · exact h.equipped k (List.mem_filter.mp hk).1
  · have hle := sumOf_le_of_sublist (fun k : Task => k.estimate.nanos)
      (List.filter_sublist (p := fun k => decide (k.id ≠ r)) (l := w.tasks))
    have haffordable := h.affordable
    show min (sumOf _ (w.tasks.filter _)) maxNanos ≤ w.metadata.timeout.nanos
    omega

/-! ## Weights -/

/-- Chains of the trimmed graph weigh what they weighed. -/
theorem weight_without (h : (w.without r).Chain ts) :
    weight (w.without r).estimates ts = weight w.estimates ts := by
  refine weight_congr fun t ht => ?_
  have hne : t ≠ r := (mem_taskIds_without.mp (h.declared t ht)).2
  rw [durationIn, find?_estimates, task?_without hne, durationIn, find?_estimates]

/-- **If all chains through the task are lighter, the heaviest one is left.** -/
theorem Heaviest.without (hr : r ∈ w.taskIds) (h : Heaviest w w.estimates (fun _ => True) n)
    (hthrough : Heaviest w w.estimates (r ∈ ·) m) (hlt : m < n) :
    Heaviest (w.without r) (w.without r).estimates (fun _ => True) n := by
  refine ⟨fun ts hts _ => ?_, Or.inr ?_⟩
  · rw [weight_without hts]
    cases ts with
    | nil => exact Nat.zero_le n
    | cons t ts =>
        obtain ⟨us, hus, hsub⟩ := exists_chain_of_without hr hts
        exact Nat.le_trans (sumOf_le_of_sublist _ (hsub.cons_cons t)) (h.bound _ hus trivial)
  · obtain ⟨ts, hts, hweight, -⟩ := h.exists_chain
    have havoids : r ∉ ts := fun hmem =>
      Nat.not_le_of_lt hlt (hweight ▸ hthrough.bound ts hts hmem)
    have hwithout := hts.without hr havoids
    exact ⟨ts, hwithout, trivial, (weight_without hwithout).trans hweight⟩

/-! ## Results -/

/-- **Removing a task with slack keeps the critical length.** A workflow that passes validation, with a
    budget below the greatest duration, has a critical path, whatever the agents. Take out any of its
    tasks that has slack, and let everything that waited for it wait for what it waited for: that passes
    validation, and its critical path takes the same time. -/
theorem removal_keeps_duration (hvalid : w.isValid = true) (hbudget : w.metadata.timeout < .max) :
    ∃ path, w.HasCriticalPath path ∧ ∀ r ∈ w.taskIds, ∃ timing,
      path.timings.find? r = some timing ∧ (timing.slack ≠ .zero →
        (w.without r).isValid = true ∧
          ∃ path', (w.without r).HasCriticalPath path' ∧ path'.duration = path.duration) := by
  have hw := wellFormed_of_isValid hvalid
  have hne : w.metadata.timeout ≠ .max := fun heq =>
    Nat.ne_of_lt (Duration.lt_def.mp hbudget) (congrArg Duration.nanos heq)
  obtain ⟨path, hpath⟩ := exists_hasCriticalPath hw.acyclic (hw.weightsFit hne)
  have hchains := hpath.ofChains (hw.weightsFit hne)
  refine ⟨path, hpath, fun r hr => ?_⟩
  obtain ⟨timing, htiming, hofChains⟩ := hchains.exists_timing hr
  refine ⟨timing, htiming, fun hslack => ?_⟩
  have hw' := hw.without hr
  have hfit := hw'.weightsFit hne
  obtain ⟨path', hpath'⟩ := exists_hasCriticalPath hw'.acyclic hfit
  obtain ⟨n, hthrough, hsum⟩ := hofChains.slack
  have hpos : timing.slack.nanos ≠ 0 := fun hzero => hslack (Duration.ext_nanos hzero)
  have hleft := hchains.duration.without hr hthrough (by omega)
  exact ⟨List.isEmpty_iff.mpr (validationErrors_eq_nil_iff.mpr hw'), path', hpath',
    Duration.ext_nanos ((hpath'.ofChains hfit).duration.unique hleft)⟩

/-- The fork with tasks that some agent must be able to do. -/
def equippedFork : Workflow :=
  { fork with tasks := fork.tasks.map fun k => { k with capabilities := .ofList ["rust"] } }

/-- Without the short way, the end waits for the long way and for the start; that takes seven seconds as
    before. -/
theorem removal_keeps_duration_equippedFork : ∃ path path', equippedFork.HasCriticalPath path ∧
    (equippedFork.without "short").isValid = true ∧
    ((equippedFork.without "short").dependenciesOf "end").toList = ["long", "start"] ∧
    (equippedFork.without "short").HasCriticalPath path' ∧ path.duration = .ofSecs 7 ∧
    path'.duration = path.duration := by
  have hvalid : equippedFork.isValid = true := by decide +kernel
  obtain ⟨path, hpath, hremoval⟩ := removal_keeps_duration hvalid (by decide)
  obtain ⟨timing, htiming, hremoved⟩ := hremoval "short" (by decide)
  obtain ⟨order, horder, hcomputed⟩ := hpath.computed
  obtain rfl : _ = order := Except.ok.inj horder
  obtain rfl : _ = path := Except.ok.inj hcomputed
  obtain rfl : _ = timing := Option.some.inj htiming
  obtain ⟨hvalid', path', hpath', hduration⟩ := hremoved (by decide)
  exact ⟨_, path', hpath, hvalid', by decide, hpath', rfl, hduration⟩

end Foreman
