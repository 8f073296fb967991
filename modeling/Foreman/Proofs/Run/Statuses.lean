import Foreman.Run.Machine
import Mathlib.Data.List.Basic

/-!
# `Foreman.Proofs.Run.Statuses` — what an execution writes into its workflow

An execution changes nothing of its workflow but the statuses of tasks, one legal step at a time.
`Moved` says that some tasks were moved and nothing else happened. Tasks are moved in a row in three
places, when a task is dispatched, when a level is cancelled and when its results are taken; as long
as all steps are legal, each comes to one `Moved`.
-/

namespace Foreman

variable {w w' : Workflow} {t u : TaskId} {a b : TaskStatus} {m : Machine}

/-! ## Statuses of a workflow -/

/-- All listed tasks have a status. -/
def AllAre (w : Workflow) (a : TaskStatus) (ts : List TaskId) : Prop :=
  ∀ t ∈ ts, w.statusOf t = some a

theorem AllAre.append {ts us : List TaskId} (h₁ : AllAre w a ts) (h₂ : AllAre w a us) :
    AllAre w a (ts ++ us) :=
  fun t ht => (List.mem_append.mp ht).elim (h₁ t) (h₂ t)

theorem allAre_append_iff {ts us : List TaskId} :
    AllAre w a (ts ++ us) ↔ AllAre w a ts ∧ AllAre w a us :=
  ⟨fun h => ⟨fun t ht => h t (List.mem_append_left us ht),
    fun t ht => h t (List.mem_append_right ts ht)⟩, fun h => h.1.append h.2⟩

/-- The listed tasks that have a status. -/
def tasksWith (w : Workflow) (a : TaskStatus) (ts : List TaskId) : List TaskId :=
  ts.filter fun t => w.statusOf t = some a

theorem tasksWith_append (ts us : List TaskId) :
    tasksWith w a (ts ++ us) = tasksWith w a ts ++ tasksWith w a us :=
  List.filter_append ts us

namespace Workflow

theorem taskIds_resetStatuses (w : Workflow) : w.resetStatuses.taskIds = w.taskIds := by
  simp [taskIds, resetStatuses, Function.comp_def]

theorem task?_resetStatuses (w : Workflow) (t : TaskId) :
    w.resetStatuses.task? t = (w.task? t).map fun k => { k with status := .pending } := by
  unfold task? resetStatuses
  rw [List.find?_map]
  rfl

/-- Workflows that differ in statuses only declare the same tasks. -/
theorem exists_task?_of_reset (h : w'.resetStatuses = w.resetStatuses) {k : Task}
    (hk : w'.task? t = some k) :
    ∃ k₀, w.task? t = some k₀ ∧ { k₀ with status := .pending } = { k with status := .pending } := by
  have hboth : (w'.task? t).map (fun k => { k with status := .pending }) =
      (w.task? t).map fun k => { k with status := .pending } := by
    rw [← task?_resetStatuses, ← task?_resetStatuses, h]
  rw [hk, Option.map_some, eq_comm, Option.map_eq_some_iff] at hboth
  exact hboth

/-- Workflows that differ in statuses only declare the same ids. -/
theorem taskIds_eq_of_reset (h : w'.resetStatuses = w.resetStatuses) : w'.taskIds = w.taskIds := by
  rw [← taskIds_resetStatuses w', h, taskIds_resetStatuses]

theorem statusOf_eq_some_iff_task? : w.statusOf t = some a ↔ ∃ k, w.task? t = some k ∧ k.status = a :=
  Option.map_eq_some_iff

/-- Exactly the declared tasks have a status. -/
theorem exists_statusOf_iff : (∃ a, w.statusOf t = some a) ↔ t ∈ w.taskIds := by
  rw [← Option.isSome_iff_exists, statusOf, Option.isSome_map, task?, List.find?_isSome]
  simp [taskIds]

theorem statusOf_resetStatuses (ht : t ∈ w.taskIds) :
    w.resetStatuses.statusOf t = some .pending := by
  obtain ⟨a, ha⟩ := exists_statusOf_iff.mpr ((taskIds_resetStatuses w).symm ▸ ht)
  obtain ⟨k, hk, rfl⟩ := statusOf_eq_some_iff_task?.mp ha
  rw [ha]
  obtain ⟨k', _, rfl⟩ := List.mem_map.mp (List.mem_of_find?_eq_some hk)
  rfl

/-- Replacing the first task with an id by one with the same id is seen under this id only. -/
theorem find?_replaceFirst {k : Task} (hk : k.id = t) (ts : List Task) :
    (replaceFirst t k ts).find? (·.id = u) =
      if u = t then (ts.find? (·.id = t)).map fun _ => k else ts.find? (·.id = u) := by
  induction ts with
  | nil => simp [replaceFirst]
  | cons v ts ih =>
      rw [replaceFirst]
      by_cases hv : v.id = t
      · by_cases hu : u = t
        · subst hu
          simp [hv, hk]
        · have htu : ¬ t = u := fun h => hu h.symm
          simp [hv, hk, hu, htu]
      · rw [if_neg hv]
        by_cases hu : u = t
        · subst hu
          simpa [hv] using ih
        · by_cases hvu : v.id = u
          · simp [hvu, hu]
          · simpa [hvu, hu, hv] using ih

/-- The replaced list is the same up to `f` if the tasks exchanged are. -/
theorem map_replaceFirst {k : Task} {f : Task → Task} {ts : List Task}
    (h : ∀ v, ts.find? (·.id = t) = some v → f k = f v) :
    (replaceFirst t k ts).map f = ts.map f := by
  induction ts with
  | nil => rfl
  | cons v ts ih =>
      rw [replaceFirst]
      by_cases hv : v.id = t
      · rw [if_pos hv, List.map_cons, List.map_cons, h v (by simp [hv])]
      · rw [if_neg hv, List.map_cons, List.map_cons, ih fun v' hv' => h v' (by simpa [hv] using hv')]

/-- The workflow with another status for the task `t`, which is `k`. -/
def restatus (w : Workflow) (t : TaskId) (k : Task) (b : TaskStatus) : Workflow :=
  { w with tasks := replaceFirst t { k with status := b } w.tasks }

theorem statusOf_restatus {k : Task} (hk : w.task? t = some k) (u : TaskId) :
    (w.restatus t k b).statusOf u = if u = t then some b else w.statusOf u := by
  have hid : k.id = t := id_of_task? hk
  show ((replaceFirst t { k with status := b } w.tasks).find? (·.id = u)).map Task.status = _
  rw [find?_replaceFirst (k := { k with status := b }) hid]
  split
  · show ((w.task? t).map _).map _ = _
    rw [hk]
    rfl
  · rfl

theorem resetStatuses_restatus {k : Task} (hk : w.task? t = some k) :
    (w.restatus t k b).resetStatuses = w.resetStatuses := by
  have hmap : (replaceFirst t { k with status := b } w.tasks).map
      (fun v => { v with status := .pending }) = w.tasks.map fun v => { v with status := .pending } := by
    refine map_replaceFirst fun v hv => ?_
    obtain rfl : k = v := Option.some.inj (hk.symm.trans hv)
    rfl
  simp only [resetStatuses, restatus, hmap]

/-- A legal step succeeds. -/
theorem transition_of_canBecome {k : Task} (hk : w.task? t = some k)
    (hab : k.status.canBecome b = true) : w.transition t b = .ok (true, w.restatus t k b) := by
  simp [transition, hk, Task.become, hab, restatus]

end Workflow

/-! ## Moving tasks -/

/-- From `w` to `w'`, some tasks were moved to new statuses, and nothing else happened. -/
structure Moved (steps : List (TaskId × TaskStatus)) (w w' : Workflow) : Prop where
  same : w'.resetStatuses = w.resetStatuses
  moved : ∀ t a, (t, a) ∈ steps → w'.statusOf t = some a
  kept : ∀ t, t ∉ steps.map Prod.fst → w'.statusOf t = w.statusOf t

namespace Moved

variable {steps : List (TaskId × TaskStatus)} {w₁ w₂ : Workflow}

theorem nil (w : Workflow) : Moved [] w w := ⟨rfl, fun _ _ h => absurd h (by simp), fun _ _ => rfl⟩

/-- First one task is moved, then others. -/
theorem cons (ht : t ∉ steps.map Prod.fst) (h₁ : Moved [(t, a)] w w₁) (h₂ : Moved steps w₁ w₂) :
    Moved ((t, a) :: steps) w w₂ := by
  refine ⟨h₂.same.trans h₁.same, fun u b hu => ?_, fun u hu => ?_⟩
  · rcases List.mem_cons.mp hu with heq | hu
    · obtain ⟨rfl, rfl⟩ := Prod.mk.inj heq
      exact (h₂.kept u ht).trans (h₁.moved u b (by simp))
    · exact h₂.moved u b hu
  · rw [List.map_cons, List.mem_cons, not_or] at hu
    exact (h₂.kept u hu.2).trans (h₁.kept u (by simpa using hu.1))

/-- One task is moved twice. -/
theorem again (h₁ : Moved [(t, a)] w w₁) (h₂ : Moved [(t, b)] w₁ w₂) : Moved [(t, b)] w w₂ :=
  ⟨h₂.same.trans h₁.same, h₂.moved, fun u hu => (h₂.kept u hu).trans (h₁.kept u hu)⟩

/-- Tasks that were not moved keep their status. -/
theorem allAre {ts : List TaskId} (h : Moved steps w w') (hts : AllAre w a ts)
    (hdisj : ∀ t ∈ ts, t ∉ steps.map Prod.fst) : AllAre w' a ts :=
  fun t ht => (h.kept t (hdisj t ht)).trans (hts t ht)

/-- Of tasks with a common status, the first is moved. -/
theorem tail {ts : List TaskId} (h : Moved [(t, b)] w w') (hts : AllAre w a (t :: ts))
    (ht : t ∉ ts) : AllAre w' a ts := by
  refine h.allAre (fun u hu => hts u (List.mem_cons_of_mem t hu)) fun u hu hmem => ?_
  obtain rfl : u = t := by simpa using hmem
  exact ht hu

end Moved

namespace Machine

/-- **A legal step is taken**: it moves the task and leaves no mark in the journal. -/
theorem setStatus_of_canBecome (ht : m.workflow.statusOf t = some a)
    (hab : a.canBecome b = true) :
    ∃ w', m.setStatus t b = { m with workflow := w' } ∧ Moved [(t, b)] m.workflow w' := by
  obtain ⟨k, hk, rfl⟩ := Workflow.statusOf_eq_some_iff_task?.mp ht
  refine ⟨m.workflow.restatus t k b, ?_, Workflow.resetStatuses_restatus hk, ?_, ?_⟩
  · simp only [setStatus, Workflow.transition_of_canBecome hk hab]
  · intro u c hu
    obtain ⟨rfl, rfl⟩ : u = t ∧ c = b := by simpa using hu
    rw [Workflow.statusOf_restatus hk, if_pos rfl]
  · intro u hu
    have hut : u ≠ t := by simpa using hu
    rw [Workflow.statusOf_restatus hk, if_neg hut]

/-- Whether it is legal or not, a step leaves a status as it is, or sets that of its own task. -/
theorem statusOf_setStatus (m : Machine) (t u : TaskId) (b : TaskStatus) :
    (m.setStatus t b).workflow.statusOf u = m.workflow.statusOf u ∨
      u = t ∧ (m.setStatus t b).workflow.statusOf u = some b := by
  cases hk : m.workflow.task? t with
  | none => exact Or.inl (by simp only [setStatus, Workflow.transition, hk])
  | some k =>
      cases hlegal : k.status.canBecome b with
      | false => exact Or.inl (by simp [setStatus, Workflow.transition, hk, Task.become, hlegal])
      | true =>
          simp only [setStatus, Workflow.transition_of_canBecome hk hlegal]
          rw [Workflow.statusOf_restatus hk]
          by_cases hu : u = t
          · exact Or.inr ⟨hu, if_pos hu⟩
          · exact Or.inl (if_neg hu)

/-- Tasks that are cancelled in a row are cancelled or stay as they are, and so do all others. -/
theorem statusOf_foldl_cancel (ts : List TaskId) (m : Machine) (u : TaskId) :
    (ts.foldl (fun m t => m.setStatus t .cancelled) m).workflow.statusOf u =
        m.workflow.statusOf u ∨
      u ∈ ts ∧ (ts.foldl (fun m t => m.setStatus t .cancelled) m).workflow.statusOf u =
        some .cancelled := by
  induction ts generalizing m with
  | nil => exact Or.inl rfl
  | cons t ts ih =>
      rw [List.foldl_cons]
      rcases ih (m.setStatus t .cancelled) with hkept | ⟨hmem, hcancelled⟩
      · rcases statusOf_setStatus m t u .cancelled with hsame | ⟨rfl, hcancelled⟩
        · exact Or.inl (hkept.trans hsame)
        · exact Or.inr ⟨List.mem_cons_self, hkept.trans hcancelled⟩
      · exact Or.inr ⟨List.mem_cons_of_mem t hmem, hcancelled⟩

/-- **A dispatch**: a pending task is scheduled and then running. -/
theorem setStatus_dispatch (ht : m.workflow.statusOf t = some .pending) :
    ∃ w', (m.setStatus t .scheduled).setStatus t .running = { m with workflow := w' } ∧
      Moved [(t, .running)] m.workflow w' := by
  obtain ⟨w₁, heq₁, hm₁⟩ := setStatus_of_canBecome (b := .scheduled) ht rfl
  have hscheduled : w₁.statusOf t = some .scheduled := hm₁.moved t _ (by simp)
  obtain ⟨w₂, heq₂, hm₂⟩ := setStatus_of_canBecome (m := { m with workflow := w₁ }) (b := .running)
    hscheduled rfl
  exact ⟨w₂, by rw [heq₁, heq₂], hm₁.again hm₂⟩

/-- **A cancelled level**: pending tasks are cancelled. -/
theorem foldl_cancel {ts : List TaskId} (hnodup : ts.Nodup)
    (hpending : AllAre m.workflow .pending ts) :
    ∃ w', ts.foldl (fun m t => m.setStatus t .cancelled) m = { m with workflow := w' } ∧
      Moved (ts.map (·, .cancelled)) m.workflow w' := by
  induction ts generalizing m with
  | nil => exact ⟨m.workflow, rfl, Moved.nil _⟩
  | cons t ts ih =>
      have hcons := List.nodup_cons.mp hnodup
      obtain ⟨w₁, heq₁, hm₁⟩ := setStatus_of_canBecome (b := .cancelled) (hpending t (by simp)) rfl
      obtain ⟨w₂, heq₂, hm₂⟩ := ih (m := { m with workflow := w₁ }) hcons.2
        (hm₁.tail hpending hcons.1)
      refine ⟨w₂, by rw [List.foldl_cons, heq₁, heq₂], hm₁.cons ?_ hm₂⟩
      simpa [Function.comp_def] using hcons.1

end Machine

/-! ## Taking results -/

/-- The status that a result gives to its task. -/
def TaskResult.verdict (r : TaskResult) : TaskStatus := if r.isSuccess then .completed else .failed

/-- The tasks of the results that are no successes. -/
def failuresOf (rs : List TaskResult) : List TaskId :=
  (rs.filter fun r => !r.isSuccess).map TaskResult.task

/-- The result of the last one, if any, for a task. -/
def collected (results : NameMap TaskResult) (rs : List TaskResult) : NameMap TaskResult :=
  rs.foldl (fun results r => results.insert r.task r) results

theorem Machine.takeResult_of_running {r : TaskResult}
    (hr : m.workflow.statusOf r.task = some .running) :
    ∃ w', m.takeResult r = { m with
        workflow := w'
        failed := m.failed ++ failuresOf [r]
        results := m.results.insert r.task r } ∧
      Moved [(r.task, r.verdict)] m.workflow w' := by
  obtain ⟨w', heq, hm⟩ := setStatus_of_canBecome (b := r.verdict) hr (by
    unfold TaskResult.verdict
    split <;> rfl)
  refine ⟨w', ?_, hm⟩
  show ({ m.setStatus r.task r.verdict with
    failed := if r.isSuccess then (m.setStatus r.task r.verdict).failed
      else (m.setStatus r.task r.verdict).failed ++ [r.task]
    results := (m.setStatus r.task r.verdict).results.insert r.task r } : Machine) = _
  rw [heq]
  cases hsuccess : r.isSuccess <;> simp [failuresOf, hsuccess]

/-- **Taking the results of running tasks.** -/
theorem Machine.foldl_takeResult {rs : List TaskResult} (hnodup : (rs.map TaskResult.task).Nodup)
    (hrunning : AllAre m.workflow .running (rs.map TaskResult.task)) :
    ∃ w', rs.foldl takeResult m = { m with
        workflow := w'
        failed := m.failed ++ failuresOf rs
        results := collected m.results rs } ∧
      Moved (rs.map fun r => (r.task, r.verdict)) m.workflow w' := by
  induction rs generalizing m with
  | nil => exact ⟨m.workflow, by simp [failuresOf, collected], Moved.nil _⟩
  | cons r rs ih =>
      rw [List.map_cons, List.nodup_cons] at hnodup
      obtain ⟨w₁, heq₁, hm₁⟩ := takeResult_of_running (hrunning r.task (by simp))
      obtain ⟨w₂, heq₂, hm₂⟩ := ih hnodup.2 (m := { m with
        workflow := w₁
        failed := m.failed ++ failuresOf [r]
        results := m.results.insert r.task r }) (hm₁.tail hrunning hnodup.1)
      refine ⟨w₂, ?_, hm₁.cons ?_ hm₂⟩
      · rw [List.foldl_cons, heq₁, heq₂]
        cases hsuccess : r.isSuccess <;> simp [failuresOf, collected, hsuccess]
      · simpa [Function.comp_def] using hnodup.1

end Foreman
