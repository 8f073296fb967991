import Foreman.Proofs.CriticalTasks

/-!
# `Foreman.Proofs.Slack` — how long a task can be delayed

Slack is computed as what is left between an earliest start and a latest finish, by differences that stop
at zero. What it is for is seen only in another computation: if the task is estimated to take longer, the
whole takes longer by what exceeds the slack, and by nothing else.

The graph does not change, so both computations are about the same chains. Those through the task weigh
more, by the same amount, and the others weigh the same (`Longer.weight_eq`); so the heaviest chain of all
is the old one, or the heaviest one through the task with its new weight (`Longer.heaviest`).
-/

namespace Foreman

open Workflow

variable {w : Workflow} {durations durations' : NameMap Duration} {t u : TaskId} {ts : List TaskId}
  {k : Task} {e : Duration} {x total n : Nat}

/-! ## One longer task -/

/-- **One task takes longer by `x`**, and all others take the same time. -/
structure Longer (t : TaskId) (x : Nat) (durations durations' : NameMap Duration) : Prop where
  self : (durationIn durations' t).nanos = (durationIn durations t).nanos + x
  others : ∀ u, u ≠ t → durationIn durations' u = durationIn durations u

namespace Longer

/-- Just the chains through the task weigh more, each by the same amount. -/
theorem weight_eq (h : Longer t x durations durations') (hnodup : ts.Nodup) :
    weight durations' ts = weight durations ts + if t ∈ ts then x else 0 := by
  have hothers : ∀ us, t ∉ us → weight durations' us = weight durations us := fun us hus =>
    weight_congr fun u hu => h.others u fun heq => hus (heq ▸ hu)
  by_cases ht : t ∈ ts
  · obtain ⟨before, after, rfl⟩ := List.append_of_mem ht
    have hmiddle := List.nodup_middle.mp hnodup
    have hfresh : t ∉ before ∧ t ∉ after := by simpa using (List.nodup_cons.mp hmiddle).1
    rw [if_pos ht, weight_through, weight_through, hothers before hfresh.1, hothers after hfresh.2,
      h.self]
    omega
  · rw [if_neg ht, hothers ts ht, Nat.add_zero]

theorem weight_le (h : Longer t x durations durations') (ts : List TaskId) :
    weight durations ts ≤ weight durations' ts := by
  refine sumOf_le_sumOf fun u _ => ?_
  by_cases hu : u = t
  · rw [hu, h.self]
    exact Nat.le_add_right _ _
  · rw [h.others u hu]

/-- **The heaviest chain is the old one, or the heaviest one through the task.** -/
theorem heaviest (h : Longer t x durations durations') (hacyc : ¬ w.Cyclic) (ht : t ∈ w.taskIds)
    (htotal : Heaviest w durations (fun _ => True) total) (hthrough : Heaviest w durations (t ∈ ·) n) :
    Heaviest w durations' (fun _ => True) (max total (n + x)) := by
  refine ⟨fun ts hts _ => ?_, Or.inr ?_⟩
  · have hweight := h.weight_eq (hts.nodup hacyc)
    have hle := htotal.bound ts hts trivial
    by_cases hmem : t ∈ ts
    · have hle' := hthrough.bound ts hts hmem
      rw [if_pos hmem] at hweight
      omega
    · rw [if_neg hmem] at hweight
      omega
  · rcases Nat.le_total total (n + x) with hmax | hmax
    · obtain ⟨ts, hts, hmem, hn⟩ := hthrough.exists_through ht
      refine ⟨ts, hts, trivial, ?_⟩
      rw [h.weight_eq (hts.nodup hacyc), if_pos hmem, hn, Nat.max_eq_right hmax]
    · obtain ⟨ts, hts, hn, -⟩ := htotal.exists_chain
      refine ⟨ts, hts, trivial, ?_⟩
      rw [h.weight_eq (hts.nodup hacyc), hn, Nat.max_eq_left hmax]
      by_cases hmem : t ∈ ts
      · -- the heaviest chain of all is also the heaviest one through the task
        have hle := hthrough.bound ts hts hmem
        rw [if_pos hmem]
        omega
      · rw [if_neg hmem, Nat.add_zero]

end Longer

/-! ## Another estimate -/

/-- The workflow with another estimate for a task. -/
def Workflow.reestimate (w : Workflow) (t : TaskId) (e : Duration) : Workflow :=
  { w with tasks := w.tasks.map fun k => if k.id = t then { k with estimate := e } else k }

@[simp] theorem taskIds_reestimate (w : Workflow) (t : TaskId) (e : Duration) :
    (w.reestimate t e).taskIds = w.taskIds := by
  rw [taskIds, reestimate, List.map_map, taskIds]
  refine List.map_congr_left fun k _ => ?_
  rw [Function.comp_apply]
  split <;> rfl

theorem sameGraph_reestimate (w : Workflow) (t : TaskId) (e : Duration) :
    w.SameGraph (w.reestimate t e) := by
  refine ⟨fun u => by rw [taskIds_reestimate], ?_⟩
  funext u d
  rw [WaitsFor, taskIds_reestimate]
  rfl

theorem task?_reestimate (w : Workflow) (t : TaskId) (e : Duration) (u : TaskId) :
    (w.reestimate t e).task? u =
      (w.task? u).map fun k => if k.id = t then { k with estimate := e } else k := by
  rw [task?, reestimate, List.find?_map, task?]
  congr 2
  funext k
  rw [Function.comp_apply]
  split <;> rfl

theorem durationIn_reestimate_self (hk : w.task? t = some k) :
    durationIn (w.reestimate t e).estimates t = e := by
  have hafter : (w.reestimate t e).task? t = some { k with estimate := e } := by
    rw [task?_reestimate, hk, Option.map_some, if_pos (id_of_task? hk)]
  exact durationIn_of_task? hafter

theorem durationIn_reestimate_of_ne (hu : u ≠ t) :
    durationIn (w.reestimate t e).estimates u = durationIn w.estimates u := by
  rw [durationIn, find?_estimates, task?_reestimate, durationIn, find?_estimates]
  cases hk : w.task? u with
  | none => rfl
  | some k =>
      have hne : k.id ≠ t := id_of_task? hk ▸ hu
      rw [Option.map_some, if_neg hne]

/-- An estimate that grows by `x` is one longer task. -/
theorem longer_reestimate {x : Duration} (hk : w.task? t = some k) (he : k.estimate.add? x = some e) :
    Longer t x.nanos w.estimates (w.reestimate t e).estimates := by
  refine ⟨?_, fun u hu => durationIn_reestimate_of_ne hu⟩
  rw [durationIn_reestimate_self hk, durationIn_of_task? hk]
  exact Duration.add?_eq_some_iff.mp he

/-! ## Results -/

/-- **Slack is exact.** Without a cycle, let the estimate of a task grow by `x` so that all chains still
    fit. Then the critical path, whatever the agents, takes longer by what `x` exceeds the slack of the
    task, and the same time if it does not exceed it. -/
theorem slack_is_exact {x : Duration} (hacyc : ¬ w.Cyclic) (hk : w.task? t = some k)
    (he : k.estimate.add? x = some e)
    (hfit : WeightsFit (w.reestimate t e) (w.reestimate t e).estimates) :
    ∃ path path' timing, w.HasCriticalPath path ∧ (w.reestimate t e).HasCriticalPath path' ∧
      path.timings.find? t = some timing ∧ path'.duration.nanos = path.duration.nanos +
        if timing.slack < x then x.nanos - timing.slack.nanos else 0 := by
  have hgraph := sameGraph_reestimate w t e
  have hlonger := longer_reestimate hk he
  have hmem : t ∈ w.taskIds := mem_taskIds_of_task? hk
  have hfitBefore : WeightsFit w w.estimates := fun ts hts =>
    Nat.le_trans (hlonger.weight_le ts) (hfit ts (hgraph.chain_eq ▸ hts))
  obtain ⟨path, hpath⟩ := exists_hasCriticalPath hacyc hfitBefore
  obtain ⟨path', hpath'⟩ := exists_hasCriticalPath (hgraph.cyclic_eq ▸ hacyc) hfit
  have hchains := hpath.ofChains hfitBefore
  obtain ⟨timing, htiming, hofChains⟩ := hchains.exists_timing hmem
  obtain ⟨n, hthrough, hsum⟩ := hofChains.slack
  -- the slack is the distance from the heaviest chain through the task to the heaviest one of all
  have hafter : path'.duration.nanos = max path.duration.nanos (n + x.nanos) :=
    ((hpath'.ofChains hfit).duration.ofSameGraph hgraph).unique
      (hlonger.heaviest hacyc hmem hchains.duration hthrough)
  refine ⟨path, path', timing, hpath, hpath', htiming, ?_⟩
  rw [hafter]
  split
  · next hlt =>
      have hlt' : timing.slack.nanos < x.nanos := hlt
      omega
  · next hle =>
      have hle' : x.nanos ≤ timing.slack.nanos := Nat.le_of_not_lt hle
      omega

/-- The short way of the fork has three seconds of slack: two more seconds do not matter, and five more
    seconds delay the end by two. -/
theorem slack_is_exact_fork : ∃ path path₂ path₅, fork.HasCriticalPath path ∧
    (fork.reestimate "short" (.ofSecs 4)).HasCriticalPath path₂ ∧
    (fork.reestimate "short" (.ofSecs 7)).HasCriticalPath path₅ ∧
    path.duration = .ofSecs 7 ∧ path₂.duration = .ofSecs 7 ∧ path₅.duration = .ofSecs 9 := by
  have hacyc := isOrder_fork.1.acyclic
  have hacyc' : ∀ e, ¬ (fork.reestimate "short" e).Cyclic := fun e =>
    (sameGraph_reestimate fork "short" e).cyclic_eq ▸ hacyc
  have hslack : ∀ path timing, fork.HasCriticalPath path → path.timings.find? "short" = some timing →
      path.duration = .ofSecs 7 ∧ timing.slack = .ofSecs 3 := by
    intro path timing hpath htiming
    obtain ⟨order, horder, hcomputed⟩ := hpath.computed
    obtain rfl : _ = order := Except.ok.inj horder
    obtain rfl : _ = path := Except.ok.inj hcomputed
    obtain rfl : _ = timing := Option.some.inj htiming
    exact ⟨rfl, rfl⟩
  obtain ⟨path, path₂, timing, hpath, hpath₂, htiming, h₂⟩ := slack_is_exact (x := .ofSecs 2)
    (e := .ofSecs 4) hacyc (t := "short") rfl rfl (weightsFit_of_le (hacyc' _) (by decide))
  obtain ⟨path', path₅, timing', hpath', hpath₅, htiming', h₅⟩ := slack_is_exact (x := .ofSecs 5)
    (e := .ofSecs 7) hacyc (t := "short") rfl rfl (weightsFit_of_le (hacyc' _) (by decide))
  obtain ⟨hduration, hthree⟩ := hslack path timing hpath htiming
  obtain ⟨hduration', hthree'⟩ := hslack path' timing' hpath' htiming'
  rw [hduration, hthree] at h₂
  rw [hduration', hthree'] at h₅
  exact ⟨path, path₂, path₅, hpath, hpath₂, hpath₅, hduration, Duration.ext_nanos h₂,
    Duration.ext_nanos h₅⟩

end Foreman
