import Foreman.Proofs.Run.FinalState
import Foreman.Proofs.Run.Scripts

/-!
# `Foreman.Proofs.Run.Timing` — outcomes do not depend on timing

How long attempts take, how long tasks wait between them or for an agent, how many tasks are in flight
at once, which agents there are, and in which order flights take their turns: nothing of this enters
into what an execution comes to. By the contract of `Foreman.Proofs.Run.Scripts`, every task that is
executed at all ends as its own script says. That leaves only one way for the levels to end: all
complete, or complete up to the first level with a task that fails by script (`Finished.agree`). And the
final state of an execution is determined by that.

So two executions of one workflow by one script agree in everything but agents and times
(`Engine.outcomes_do_not_depend_on_timing`), even though they may share nothing else.

## Contents
- `split_unique`, `Judged`, `Level.EndedBadly.agree` and **`Finished.agree`**: levels end in one way.
- **`SameOutcome`** and `FinalState.sameOutcome`.
- `Engine.ByScript`, `RunResult.KeepsTo`, `Scripted`: executions by script.
- **`Engine.outcomes_do_not_depend_on_timing`**.
-/

namespace Foreman

open Machine

variable {w x₁ x₂ : Workflow} {levels : List Level} {level : Level} {good : TaskId → Prop}
  {script : Script} {r₁ r₂ : RunResult} {n₁ n₂ : Nat} {world : World} {schedule : Schedule}
  {m : Machine} {e : Engine}

/-! ## One way to end -/

/-- The first element without a property splits a list in one way only. -/
theorem split_unique {α : Type} {P : α → Prop} {xs xs' ys ys' : List α} {a b : α}
    (heq : xs ++ a :: ys = xs' ++ b :: ys') (hxs : ∀ x ∈ xs, P x) (ha : ¬ P a)
    (hxs' : ∀ x ∈ xs', P x) (hb : ¬ P b) : xs = xs' ∧ a = b ∧ ys = ys' := by
  induction xs generalizing xs' with
  | nil =>
      cases xs' with
      | nil => exact ⟨rfl, List.cons.inj heq⟩
      | cons x' xs' =>
          obtain rfl : a = x' := (List.cons.inj heq).1
          exact absurd (hxs' a List.mem_cons_self) ha
  | cons x xs ih =>
      cases xs' with
      | nil =>
          obtain rfl : x = b := (List.cons.inj heq).1
          exact absurd (hxs x List.mem_cons_self) hb
      | cons x' xs' =>
          obtain ⟨rfl, hrest⟩ := List.cons.inj heq
          obtain ⟨rfl, hab, hys⟩ := ih hrest (fun y hy => hxs y (List.mem_cons_of_mem x hy))
            fun y hy => hxs' y (List.mem_cons_of_mem x hy)
          exact ⟨rfl, hab, hys⟩

/-- **The tasks that complete are good, and those that fail are not.** -/
structure Judged (good : TaskId → Prop) (x : Workflow) : Prop where
  completed : ∀ t, x.statusOf t = some .completed → good t
  failed : ∀ t, x.statusOf t = some .failed → ¬ good t

theorem Judged.good_of_allAre (h : Judged good x₁) {ts : List TaskId} (hts : AllAre x₁ .completed ts) :
    ∀ t ∈ ts, good t := fun t ht => h.completed t (hts t ht)

/-- A level with a failure has a task that is not good. -/
theorem Judged.not_good_of_endedBadly (h : Judged good x₁) (hended : level.EndedBadly x₁) :
    ¬ ∀ t ∈ level.tasks, good t := by
  intro hall
  obtain ⟨t, ht, hfailed⟩ := hended.exists_failed
  exact h.failed t hfailed (hall t ht)

/-- **A level ends badly in one way.** A sequential one stops at its first task that is not good. -/
theorem Level.EndedBadly.agree (h₁ : level.EndedBadly x₁) (h₂ : level.EndedBadly x₂)
    (hj₁ : Judged good x₁) (hj₂ : Judged good x₂) :
    ∀ t ∈ level.tasks, x₁.statusOf t = x₂.statusOf t := by
  unfold Level.EndedBadly at h₁ h₂
  split at h₁
  · next hpar =>
      rw [if_pos hpar] at h₂
      intro t ht
      rcases h₁.1 t ht with hs₁ | hs₁ <;> rcases h₂.1 t ht with hs₂ | hs₂
      · rw [hs₁, hs₂]
      · exact absurd (hj₁.completed t hs₁) (hj₂.failed t hs₂)
      · exact absurd (hj₂.completed t hs₂) (hj₁.failed t hs₁)
      · rw [hs₁, hs₂]
  · next hseq =>
      rw [if_neg hseq] at h₂
      obtain ⟨done₁, t₁, rest₁, heq₁, hdone₁, hfail₁, hrest₁⟩ := h₁
      obtain ⟨done₂, t₂, rest₂, heq₂, hdone₂, hfail₂, hrest₂⟩ := h₂
      obtain ⟨rfl, rfl, rfl⟩ := split_unique (heq₁.symm.trans heq₂) (hj₁.good_of_allAre hdone₁)
        (hj₁.failed t₁ hfail₁) (hj₂.good_of_allAre hdone₂) (hj₂.failed t₂ hfail₂)
      intro t ht
      rw [heq₁, List.mem_append, List.mem_cons] at ht
      rcases ht with ht | rfl | ht
      · rw [hdone₁ t ht, hdone₂ t ht]
      · rw [hfail₁, hfail₂]
      · rw [hrest₁ t ht, hrest₂ t ht]

theorem good_of_past (h : Judged good x₁) {past : List Level}
    (hdone : AllAre x₁ .completed (tasksOf past)) : ∀ level ∈ past, ∀ t ∈ level.tasks, good t :=
  fun _ hlevel t ht => h.completed t (hdone t (List.mem_flatMap.mpr ⟨_, hlevel, ht⟩))

/-- If all tasks of some levels are good, none of the levels ends badly. -/
theorem Judged.not_endedBadly (h₁ : Judged good x₁) (h₂ : Judged good x₂)
    (hall : AllAre x₁ .completed (tasksOf levels)) (hlevel : level ∈ levels) :
    ¬ level.EndedBadly x₂ := by
  intro hended
  exact h₂.not_good_of_endedBadly hended (good_of_past h₁ hall level hlevel)

/-- **Levels end in one way.** -/
theorem Finished.agree (h₁ : Finished levels x₁ n₁) (h₂ : Finished levels x₂ n₂)
    (hj₁ : Judged good x₁) (hj₂ : Judged good x₂) :
    (∀ t ∈ tasksOf levels, x₁.statusOf t = x₂.statusOf t) ∧ n₁ = n₂ := by
  rcases h₁ with ⟨hall₁, rfl⟩ | ⟨past₁, level₁, later₁, heq₁, hdone₁, hended₁, hvoid₁, rfl⟩ <;>
    rcases h₂ with ⟨hall₂, rfl⟩ | ⟨past₂, level₂, later₂, heq₂, hdone₂, hended₂, hvoid₂, rfl⟩
  · refine ⟨?_, rfl⟩
    intro t ht
    rw [hall₁ t ht, hall₂ t ht]
  · -- one of them completes everything, so no level of the other can end badly
    exact absurd hended₂ (hj₁.not_endedBadly hj₂ hall₁ (by simp [heq₂]))
  · exact absurd hended₁ (hj₂.not_endedBadly hj₁ hall₂ (by simp [heq₁]))
  · -- both stop at the first level with a task that is not good
    obtain ⟨rfl, rfl, rfl⟩ := split_unique (P := fun level => ∀ t ∈ level.tasks, good t)
      (heq₁.symm.trans heq₂) (good_of_past hj₁ hdone₁) (hj₁.not_good_of_endedBadly hended₁)
      (good_of_past hj₂ hdone₂) (hj₂.not_good_of_endedBadly hended₂)
    refine ⟨?_, rfl⟩
    intro t ht
    rw [heq₁, tasksOf_append, tasksOf_cons, List.mem_append, List.mem_append] at ht
    rcases ht with ht | ht | ht
    · rw [hdone₁ t ht, hdone₂ t ht]
    · exact hended₁.agree hended₂ hj₁ hj₂ t ht
    · rw [hvoid₁ t ht, hvoid₂ t ht]

/-! ## Final states that agree -/

/-- **Two executions come to the same**, apart from agents and times: the workflows with their statuses,
    and all parts of the results. -/
structure SameOutcome (x₁ x₂ : Workflow) (r₁ r₂ : RunResult) : Prop where
  workflow : ∀ t, x₁.statusOf t = x₂.statusOf t
  tasks : r₁.tasks.mapValues TaskResult.report = r₂.tasks.mapValues TaskResult.report
  statuses : r₁.statuses = r₂.statuses
  failed : r₁.failedTasks = r₂.failedTasks
  cancelled : r₁.cancelledTasks = r₂.cancelledTasks
  success : r₁.success = r₂.success
  status : r₁.status = r₂.status
  metrics : { r₁.metrics with elapsed := .zero } = { r₂.metrics with elapsed := .zero }

theorem TaskResult.verdict_eq_iff (r : TaskResult) :
    (r.verdict = .completed ↔ r.report.outcome = .success) ∧
      (r.verdict = .failed ↔ r.report.outcome ≠ .success) := by
  unfold verdict isSuccess report
  by_cases h : r.outcome = .success <;> simp [h]

/-- There is a result for every task that completed or failed. -/
theorem FinalState.exists_result (h : FinalState w levels x₁ r₁) {t : TaskId} {a : TaskStatus}
    (ht : x₁.statusOf t = some a) (ha : a = .completed ∨ a = .failed) :
    ∃ r, r₁.tasks.find? t = some r ∧ r.verdict = a := by
  have hkey : t ∈ r₁.tasks.keys := by
    rw [h.keys]
    rcases ha with rfl | rfl
    · exact Or.inl ht
    · exact Or.inr ht
  obtain ⟨r, hr⟩ := NameMap.mem_keys_iff.mp hkey
  exact ⟨r, hr, Option.some.inj ((h.verdicts t r hr).2.symm.trans ht)⟩

theorem FinalState.judged {report : TaskId → Report} (h : FinalState w levels x₁ r₁)
    (hreport : ∀ t r, r₁.tasks.find? t = some r → r.report = report t) :
    Judged (fun t => (report t).outcome = .success) x₁ := by
  constructor
  case completed =>
    intro t ht
    obtain ⟨r, hr, hverdict⟩ := h.exists_result ht (Or.inl rfl)
    rw [← hreport t r hr]
    exact r.verdict_eq_iff.1.mp hverdict
  case failed =>
    intro t ht
    obtain ⟨r, hr, hverdict⟩ := h.exists_result ht (Or.inr rfl)
    rw [← hreport t r hr]
    exact r.verdict_eq_iff.2.mp hverdict

/-- The reports of an execution, by task. -/
theorem FinalState.find?_reports {report : TaskId → Report} (h : FinalState w levels x₁ r₁)
    (hreport : ∀ t r, r₁.tasks.find? t = some r → r.report = report t) (t : TaskId) :
    (r₁.tasks.mapValues TaskResult.report).find? t =
      (x₁.outcomeOf t).map fun _ => report t := by
  rw [NameMap.find?_mapValues]
  cases hr : r₁.tasks.find? t with
  | some r =>
      have houtcome : x₁.outcomeOf t = some r.verdict := by
        have hstatus := (h.verdicts t r hr).2
        simp [Workflow.outcomeOf, hstatus, Option.filter, TaskResult.isOutcome_verdict]
      rw [houtcome, Option.map_some, Option.map_some, hreport t r hr]
  | none =>
      cases houtcome : x₁.outcomeOf t with
      | none => rfl
      | some a =>
          obtain ⟨hstatus, ha⟩ := Workflow.outcomeOf_eq_some_iff.mp houtcome
          obtain ⟨r, hr', -⟩ := h.exists_result hstatus ha
          cases hr.symm.trans hr'

/-- **Final states agree** if the results report the same of each task. -/
theorem FinalState.sameOutcome {report : TaskId → Report} (h₁ : FinalState w levels x₁ r₁)
    (h₂ : FinalState w levels x₂ r₂)
    (hreport₁ : ∀ t r, r₁.tasks.find? t = some r → r.report = report t)
    (hreport₂ : ∀ t r, r₂.tasks.find? t = some r → r.report = report t) :
    SameOutcome x₁ x₂ r₁ r₂ := by
  obtain ⟨hlevels, hexecuted⟩ :=
    h₁.finished.agree h₂.finished (h₁.judged hreport₁) (h₂.judged hreport₂)
  have hstatus : ∀ t, x₁.statusOf t = x₂.statusOf t := by
    intro t
    by_cases ht : t ∈ tasksOf levels
    · exact hlevels t ht
    · -- what is in no level is not declared
      have hnone : ∀ {x : Workflow}, x.resetStatuses = w.resetStatuses → x.statusOf t = none :=
        fun {x} hsame => by
          rw [← Option.not_isSome_iff_eq_none, Option.isSome_iff_exists,
            Workflow.exists_statusOf_iff, Workflow.taskIds_eq_of_reset hsame, ← h₁.all.mem_iff]
          exact ht
      rw [hnone h₁.same, hnone h₂.same]
  have hwith : ∀ a ts, tasksWith x₁ a ts = tasksWith x₂ a ts := by
    intro a ts
    refine List.filter_congr fun t _ => ?_
    rw [hstatus t]
  have htasks : r₁.tasks.mapValues TaskResult.report = r₂.tasks.mapValues TaskResult.report := by
    refine NameMap.ext_find? fun t => ?_
    rw [h₁.find?_reports hreport₁, h₂.find?_reports hreport₂, Workflow.outcomeOf, hstatus,
      Workflow.outcomeOf]
  have hsuccess : r₁.success = r₂.success := by
    rw [Bool.eq_iff_iff, h₁.success, h₂.success]
    refine forall_congr' fun t => ?_
    rw [hstatus t]
  -- attempts are counted in the reports, too
  have hattempts : ∀ r : RunResult, sumOf TaskResult.attempts r.tasks.values =
      sumOf Report.attempts (r.tasks.mapValues TaskResult.report).values := by
    intro r
    rw [NameMap.values_mapValues, sumOf_map]
    rfl
  constructor
  case workflow => exact hstatus
  case tasks => exact htasks
  case success => exact hsuccess
  case statuses =>
    refine NameMap.ext_find? fun t => ?_
    rw [h₁.statuses, h₂.statuses, hstatus]
  case failed => rw [h₁.failed, h₂.failed, hwith]
  case cancelled => rw [h₁.cancelled, h₂.cancelled, hwith]
  case status => rw [h₁.status, h₂.status, hsuccess]
  case metrics =>
    obtain ⟨hcompleted₁, hfailed₁, hcancelled₁, hpending₁⟩ := h₁.counts
    obtain ⟨hcompleted₂, hfailed₂, hcancelled₂, hpending₂⟩ := h₂.counts
    rw [Metrics.mk.injEq]
    refine ⟨?_, ?_, ?_, ?_, ?_, ?_, hexecuted, rfl⟩
    · rw [h₁.total, h₂.total]
    · rw [hcompleted₁, hcompleted₂, hwith]
    · rw [hfailed₁, hfailed₂, hwith]
    · rw [hcancelled₁, hcancelled₂, hwith]
    · rw [hpending₁, hpending₂, hwith]
    · rw [h₁.attempts.wrapped, h₂.attempts.wrapped, hattempts, hattempts, htasks]

/-! ## Executions by script -/

/-- **An execution by script**: the runner follows it, no call of the memory service fails, and sessions
    can be opened. Nothing is said about the agents and the settings. -/
structure Engine.ByScript (e : Engine) (script : Script) (world : World) : Prop where
  runner : e.runner.Follows script
  faults : e.faults = noFaults
  accepts : world.memory.refusesSessions = false

/-- **Every task is reported as its own script says**, with at least one attempt allowed. -/
def RunResult.KeepsTo (result : RunResult) (script : Script) (w : Workflow) : Prop :=
  ∀ t r, result.tasks.find? t = some r →
    r.task = t ∧ r.report = Script.reportOf (script t) (max 1 w.metadata.maxAttempts)

/-- **What an execution by script leaves** when it has ended. -/
structure Scripted (script : Script) (w : Workflow) (levels : List Level) (x : Workflow)
    (result : RunResult) : Prop where
  final : FinalState w levels x result
  keeps : result.KeepsTo script w

theorem Engine.ByScript.scripted (h : e.ByScript script world)
    (hplan : w.plan world.pool = .ok schedule)
    (hm : SoleInterleaving (e.setup w schedule) (Machine.start w schedule world) m)
    (hdone : m.isDone = true) :
    Scripted script w schedule.levels m.workflow (m.result (e.setup w schedule)) := by
  have hl := layered_of_plan hplan
  have hsound := sound_of_interleaving hl hm.interleaving
  have hready := World.ready_of_plan hplan h.accepts
  have hholds := Contract.holds_of_sole (kept_scripted h.faults h.runner) hready hl hm
  have hfinal := finalState_of_sound (s := e.setup w schedule)
    (Workflow.wellFormed_of_isValid (isValid_of_plan hplan).1) hl hsound hdone
  refine ⟨hfinal, fun t r hr => ?_⟩
  have htask := (hfinal.verdicts t r hr).1
  have hreport := hholds.results t r hr
  rw [Nat.max_comm, ← htask]
  exact ⟨rfl, hreport⟩

/-- A schedule puts the tasks into levels without looking at the agents. -/
theorem levels_eq_of_plan {p₁ p₂ : Pool} {schedule₁ schedule₂ : Schedule}
    (h₁ : w.plan p₁ = .ok schedule₁) (h₂ : w.plan p₂ = .ok schedule₂) :
    schedule₁.levels = schedule₂.levels := by
  obtain ⟨order₁, horder₁, hlevels₁⟩ := exists_order_of_schedule (isValid_of_plan h₁).2
  obtain ⟨order₂, horder₂, hlevels₂⟩ := exists_order_of_schedule (isValid_of_plan h₂).2
  obtain rfl : order₁ = order₂ := Except.ok.inj (horder₁.symm.trans horder₂)
  rw [hlevels₁, hlevels₂]

theorem Scripted.sameOutcome (h₁ : Scripted script w levels x₁ r₁)
    (h₂ : Scripted script w levels x₂ r₂) : SameOutcome x₁ x₂ r₁ r₂ :=
  h₁.final.sameOutcome h₂.final (fun t r hr => (h₁.keeps t r hr).2) fun t r hr => (h₂.keeps t r hr).2

/-- **Outcomes do not depend on timing.** Two engines with runners that follow the same script, and with
    memory services without faults, both have a plan for a workflow, each for its own agents. Then
    whenever executions of these plans have ended, in whatever order flights have taken their turns
    while nobody else used the pool or the memory service, they have come to the same; and so have two
    runs by steps. What is reported of a task depends on its own script and the number of attempts
    allowed, and on nothing else. -/
theorem Engine.outcomes_do_not_depend_on_timing {e₁ e₂ : Engine} {world₁ world₂ : World}
    {schedule₁ schedule₂ : Schedule} (h₁ : e₁.ByScript script world₁)
    (h₂ : e₂.ByScript script world₂) (hplan₁ : w.plan world₁.pool = .ok schedule₁)
    (hplan₂ : w.plan world₂.pool = .ok schedule₂) :
    (∀ m₁ m₂,
      SoleInterleaving (e₁.setup w schedule₁) (Machine.start w schedule₁ world₁) m₁ →
      SoleInterleaving (e₂.setup w schedule₂) (Machine.start w schedule₂ world₂) m₂ →
      m₁.isDone = true → m₂.isDone = true →
      (m₁.result (e₁.setup w schedule₁)).KeepsTo script w ∧
        SameOutcome m₁.workflow m₂.workflow (m₁.result (e₁.setup w schedule₁))
          (m₂.result (e₂.setup w schedule₂))) ∧
    ∀ fuel₁ fuel₂ x₁ x₂, e₁.run fuel₁ w world₁ = .ok (some x₁) →
      e₂.run fuel₂ w world₂ = .ok (some x₂) →
      x₁.result.KeepsTo script w ∧ SameOutcome x₁.workflow x₂.workflow x₁.result x₂.result := by
  have hlevels := levels_eq_of_plan hplan₁ hplan₂
  have hall : ∀ m₁ m₂,
      SoleInterleaving (e₁.setup w schedule₁) (Machine.start w schedule₁ world₁) m₁ →
      SoleInterleaving (e₂.setup w schedule₂) (Machine.start w schedule₂ world₂) m₂ →
      m₁.isDone = true → m₂.isDone = true →
      (m₁.result (e₁.setup w schedule₁)).KeepsTo script w ∧
        SameOutcome m₁.workflow m₂.workflow (m₁.result (e₁.setup w schedule₁))
          (m₂.result (e₂.setup w schedule₂)) := by
    intro m₁ m₂ hm₁ hm₂ hdone₁ hdone₂
    have hscripted₁ := h₁.scripted hplan₁ hm₁ hdone₁
    have hscripted₂ := h₂.scripted hplan₂ hm₂ hdone₂
    rw [← hlevels] at hscripted₂
    exact ⟨hscripted₁.keeps, hscripted₁.sameOutcome hscripted₂⟩
  refine ⟨hall, ?_⟩
  intro fuel₁ fuel₂ x₁ x₂ hrun₁ hrun₂
  -- a run by steps is an interleaving in which nobody else takes part
  obtain ⟨m₁, hsteps₁, hdone₁, rfl⟩ := Engine.exists_machine hplan₁ hrun₁
  obtain ⟨m₂, hsteps₂, hdone₂, rfl⟩ := Engine.exists_machine hplan₂ hrun₂
  exact hall m₁ m₂ (sole_of_steps (orderly_of_stage_none rfl) hsteps₁)
    (sole_of_steps (orderly_of_stage_none rfl) hsteps₂) hdone₁ hdone₂

/-- One task fails once and then succeeds, and the other one panics. -/
def secondTry : Script := fun t attempt =>
  if t = "left" then if attempt = 1 then .fail (.network "reset") else .succeed ⟨none, []⟩
  else .panic "overflow"

/-- An engine that follows this script at its own pace. -/
def enginePaced (length : Duration) (config : ExecutorConfig) : Engine :=
  { config, runner := fun _ call => ⟨[.pause length], secondTry call.task call.attempt⟩ }

theorem enginePaced_byScript (length : Duration) (config : ExecutorConfig) (pool : Pool) :
    (enginePaced length config).ByScript secondTry { pool } where
  runner := ⟨fun _ _ => rfl, fun _ _ _ h => by
    obtain rfl := List.mem_singleton.mp h
    trivial⟩
  faults := rfl
  accepts := rfl

/-- Slow attempts, a short delay and one agent that the tasks have to share. -/
def sharing : Engine := enginePaced (.ofMillis 50) { retry := { initialDelay := .ofMillis 10 } }

/-- Quick attempts and a long delay, one task after the other. -/
def queueing : Engine := enginePaced (.ofMillis 1) { maxConcurrency := 1 }

/-- The second run takes longer, and comes to the same. -/
theorem outcomes_do_not_depend_on_timing_twins :
    ∃ x₁ x₂, sharing.run 80 twins { pool := lonePool } = .ok (some x₁) ∧
      queueing.run 80 twins { pool := widePool } = .ok (some x₂) ∧
      x₁.result.metrics.elapsed = .ofMillis 160 ∧ x₂.result.metrics.elapsed = .ofMillis 1003 ∧
      x₁.result.KeepsTo secondTry twins ∧
      SameOutcome x₁.workflow x₂.workflow x₁.result x₂.result := by
  refine ⟨_, _, rfl, rfl, rfl, rfl, ?_⟩
  have h₁ : sharing.ByScript secondTry { pool := lonePool } := enginePaced_byScript ..
  have h₂ : queueing.ByScript secondTry { pool := widePool } := enginePaced_byScript ..
  exact (Engine.outcomes_do_not_depend_on_timing (w := twins) h₁ h₂ rfl rfl).2 80 80 _ _ rfl rfl

end Foreman
