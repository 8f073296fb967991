import Foreman.Proofs.CycleAgreement
import Foreman.Proofs.Run.Moves
import Foreman.Proofs.Run.Statuses

/-!
# `Foreman.Proofs.Run.Underway` — a level under way, and how it ends

While a level is under way, each of its tasks has landed, is in flight, or is waiting; the first two
kinds are running and the others pending (`Stage.Underway`). A sequential level is in order, too: its
tasks land one by one, and only the last one to land can have failed (`Stage.InOrder`). One lemma for
each kind of move says that this is kept.

When the level ends, its results are taken in level order (`Underway.tasks_results`), and so it ends
with all tasks completed, or as `EndedBadly` says.
-/

namespace Foreman

variable {w w' : Workflow} {s : Setup} {m : Machine} {stage stage' : Stage} {level : Level}
  {r : TaskResult} {rest : List TaskId}

/-! ## Where the tasks of a level are -/

namespace Stage

/-- The tasks with a result. -/
def landedTasks (stage : Stage) : List TaskId := stage.landed.map TaskResult.task

/-- The tasks in flight. -/
def airborne (stage : Stage) : List TaskId := stage.roster.map Prod.snd

/-- What holds of a level that is not parallel. -/
structure InOrder (stage : Stage) : Prop where
  parts : stage.landedTasks ++ stage.airborne ++ stage.waiting = stage.level.tasks
  alone : stage.roster.length ≤ 1
  earlier : ∀ r ∈ stage.landed.dropLast, r.isSuccess = true
  flying : stage.roster ≠ [] → ∀ r ∈ stage.landed, r.isSuccess = true

/-- **A level under way**, in a workflow with the statuses of the moment. -/
structure Underway (w : Workflow) (stage : Stage) : Prop where
  parts : (stage.landedTasks ++ stage.airborne ++ stage.waiting).Perm stage.level.tasks
  running : AllAre w .running (stage.landedTasks ++ stage.airborne)
  pending : AllAre w .pending stage.waiting
  inOrder : stage.level.parallel = false → stage.InOrder

end Stage

/-- **How a level with a failure ends.** A parallel level runs all its tasks, and a sequential one
    stops at the task that fails. -/
def Level.EndedBadly (w : Workflow) (level : Level) : Prop :=
  if level.parallel then
    (∀ t ∈ level.tasks, w.statusOf t = some .completed ∨ w.statusOf t = some .failed) ∧
      ∃ t ∈ level.tasks, w.statusOf t = some .failed
  else
    ∃ done t rest, level.tasks = done ++ t :: rest ∧ AllAre w .completed done ∧
      w.statusOf t = some .failed ∧ AllAre w .pending rest

/-! ## Moves of a level -/

/-- Of entries with different numbers, taking out one number takes out one entry. -/
theorem perm_cons_filter {α : Type} {n : Nat} {a : α} {xs : List (Nat × α)}
    (hnodup : (xs.map Prod.fst).Nodup) (h : (n, a) ∈ xs) :
    xs.Perm ((n, a) :: xs.filter (·.1 ≠ n)) := by
  induction xs with
  | nil => cases h
  | cons x xs ih =>
      rw [List.map_cons, List.nodup_cons] at hnodup
      rcases List.mem_cons.mp h with rfl | hmem
      · have hrest : xs.filter (·.1 ≠ n) = xs := by
          refine List.filter_eq_self.mpr fun y hy => ?_
          rw [decide_eq_true_iff]
          rintro rfl
          exact hnodup.1 (List.mem_map.mpr ⟨y, hy, rfl⟩)
        rw [List.filter_cons_of_neg (by simp), hrest]
      · have hne : x.1 ≠ n := fun heq =>
          hnodup.1 (heq ▸ List.mem_map_of_mem (f := Prod.fst) hmem)
        rw [List.filter_cons_of_pos (by simpa using hne)]
        exact ((ih hnodup.2 hmem).cons x).trans (List.Perm.swap _ _ _)

/-- The task of a flight that lands was in flight. -/
theorem Machine.Lands.airborne_perm {world : World} {id : Nat} {events : List Event}
    (hland : Machine.Lands m stage id world stage' events r) (horderly : stage.Orderly) :
    stage.airborne.Perm (r.task :: stage'.airborne) := by
  rw [Stage.airborne, Stage.airborne, hland.roster]
  exact (perm_cons_filter horderly.nodup hland.mem).map Prod.snd

/-- When a flight lands, its task only changes sides. -/
theorem Machine.Lands.flown_perm {world : World} {id : Nat} {events : List Event}
    (hland : Machine.Lands m stage id world stage' events r) (horderly : stage.Orderly) :
    (stage'.landedTasks ++ stage'.airborne).Perm (stage.landedTasks ++ stage.airborne) := by
  rw [Stage.landedTasks, hland.landed, List.map_append, List.append_assoc]
  exact (hland.airborne_perm horderly).symm.append_left _

namespace Stage.Underway

theorem start (hpending : AllAre w .pending level.tasks) :
    Stage.Underway w { level, waiting := level.tasks } :=
  ⟨List.Perm.refl _, fun _ ht => absurd ht (by simp [landedTasks, airborne, roster]), hpending,
    fun _ => ⟨rfl, Nat.zero_le _, fun _ hr => absurd hr (by simp), fun h => absurd rfl h⟩⟩

theorem nodup_parts (h : stage.Underway w) (hnodup : stage.level.tasks.Nodup) :
    (stage.landedTasks ++ stage.airborne ++ stage.waiting).Nodup :=
  h.parts.nodup_iff.mpr hnodup

theorem airborne_boarding (stage : Stage) (f : Flight) (rest : List TaskId) :
    (stage.boarding f rest).airborne = stage.airborne ++ [f.job.task] := by
  simp [airborne, roster_boarding]

/-- A task is dispatched. -/
theorem boarding {f : Flight} (h : stage.Underway w) (hnodup : stage.level.tasks.Nodup)
    (hwaiting : stage.waiting = f.job.task :: rest) (hgo : Machine.stopped stage = false)
    (hroom : stage.flights.length < Machine.bound s stage.level)
    (hm : Moved [(f.job.task, .running)] w w') : (stage.boarding f rest).Underway w' := by
  have hparts : stage.landedTasks ++ (stage.airborne ++ [f.job.task]) ++ rest =
      stage.landedTasks ++ stage.airborne ++ stage.waiting := by
    simp [hwaiting]
  have hfresh := h.nodup_parts hnodup
  rw [hwaiting, List.nodup_append] at hfresh
  obtain ⟨_, hwait, hdisj⟩ := hfresh
  refine ⟨?_, ?_, ?_, fun hseq => ?_⟩
  · rw [airborne_boarding]
    exact hparts ▸ h.parts
  · rw [airborne_boarding, ← List.append_assoc]
    refine AllAre.append (hm.allAre h.running fun t ht hmem => ?_) fun t ht => ?_
    · exact hdisj t ht f.job.task (by simp) (by simpa using hmem)
    · obtain rfl : t = f.job.task := by simpa using ht
      exact hm.moved _ _ (by simp)
  · exact hm.tail (hwaiting ▸ h.pending) (List.nodup_cons.mp hwait).1
  · obtain ⟨hparts', _, hearlier, _⟩ := h.inOrder hseq
    -- there is room in a sequential level only while nothing is in flight
    have hempty : stage.roster = [] := by
      have hseq' : stage.level.parallel = false := hseq
      have hnone : stage.flights.length < 1 := by simpa [Machine.bound, hseq'] using hroom
      simp [roster, List.length_eq_zero_iff.mp (Nat.lt_one_iff.mp hnone)]
    refine ⟨?_, ?_, hearlier, fun _ r hr => ?_⟩
    · rw [airborne_boarding]
      exact hparts.trans hparts'
    · rw [roster_boarding, hempty]
      exact Nat.le_refl _
    · have hall : ∀ r ∈ stage.landed, r.isSuccess = true := by
        simpa [Machine.stopped, show stage.level.parallel = false from hseq] using hgo
      exact hall r hr

/-- Nothing that matters changes. -/
theorem of_same (h : stage.Underway w) (hsame : Machine.SameCourse stage stage')
    (hroster : stage'.roster = stage.roster) (hlanded : stage'.landed = stage.landed) :
    stage'.Underway w := by
  obtain ⟨hparts, hrunning, hpending, hord⟩ := h
  have hl : stage'.landedTasks = stage.landedTasks := by rw [landedTasks, hlanded, landedTasks]
  have ha : stage'.airborne = stage.airborne := by rw [airborne, hroster, airborne]
  refine ⟨?_, ?_, ?_, fun hseq => ?_⟩
  · rwa [hl, ha, hsame.waiting, hsame.level]
  · rwa [hl, ha]
  · rwa [hsame.waiting]
  · obtain ⟨hparts', halone, hearlier, hflying⟩ := hord (hsame.level ▸ hseq)
    refine ⟨?_, ?_, ?_, ?_⟩
    · rwa [hl, ha, hsame.waiting, hsame.level]
    · rwa [hroster]
    · rwa [hlanded]
    · rwa [hroster, hlanded]

/-- A flight lands. -/
theorem lands {world : World} {id : Nat} {events : List Event} (h : stage.Underway w)
    (horderly : stage.Orderly) (hsame : Machine.SameCourse stage stage')
    (hland : Machine.Lands m stage id world stage' events r) : stage'.Underway w := by
  have hflown := hland.flown_perm horderly
  obtain ⟨hmem, hroster, hlanded, _, _⟩ := hland
  refine ⟨?_, fun t ht => h.running t (hflown.mem_iff.mp ht), hsame.waiting ▸ h.pending,
    fun hseq => ?_⟩
  · rw [hsame.waiting, hsame.level]
    exact (hflown.append_right _).trans h.parts
  · obtain ⟨hparts, halone, _, hflying⟩ := h.inOrder (hsame.level ▸ hseq)
    have hone : stage.roster = [(id, r.task)] := by
      obtain ⟨e, he⟩ := List.length_eq_one_iff.mp
        (Nat.le_antisymm halone (List.length_pos_of_mem hmem))
      rw [he] at hmem ⊢
      rw [List.mem_singleton.mp hmem]
    have hempty : stage'.roster = [] := by simp [hroster, hone]
    refine ⟨?_, by simp [hempty], ?_, fun hne => absurd hempty hne⟩
    · rw [hsame.waiting, hsame.level, ← hparts]
      simp [landedTasks, airborne, hlanded, hempty, hone]
    · rw [hlanded, List.dropLast_concat]
      exact hflying (by simp [hone])

end Stage.Underway

/-! ## The end of a level -/

theorem failuresOf_eq_nil_iff {rs : List TaskResult} :
    failuresOf rs = [] ↔ ∀ r ∈ rs, r.isSuccess = true := by
  simp [failuresOf]

namespace Stage

/-- The results of a level in the order in which they are taken. -/
def results (stage : Stage) : List TaskResult :=
  if stage.level.parallel then sortBy (fun r => stage.level.tasks.idxOf r.task) stage.landed
  else stage.landed

theorem results_perm (stage : Stage) : stage.results.Perm stage.landed := by
  unfold results
  split
  · exact sortBy_perm ..
  · exact List.Perm.refl _

/-- No flight is left, and no task will be dispatched. -/
structure AtEnd (stage : Stage) : Prop where
  flights : stage.flights = []
  waiting : stage.waiting = [] ∨ Machine.stopped stage = true

theorem AtEnd.airborne (h : stage.AtEnd) : stage.airborne = [] := by
  simp [Stage.airborne, roster, h.flights]

theorem AtEnd.waiting_of_parallel (h : stage.AtEnd) (hpar : stage.level.parallel = true) :
    stage.waiting = [] :=
  h.waiting.resolve_right (by simp [Machine.stopped, hpar])

namespace Underway

/-- **Results are taken in level order**, and tasks that were never dispatched are the last ones. -/
theorem tasks_results (h : stage.Underway w) (hnodup : stage.level.tasks.Nodup)
    (hend : stage.AtEnd) :
    stage.results.map TaskResult.task ++ stage.waiting = stage.level.tasks := by
  cases hpar : stage.level.parallel with
  | false =>
      have hparts := (h.inOrder hpar).parts
      rw [hend.airborne, List.append_nil] at hparts
      rwa [results, hpar, if_neg Bool.false_ne_true]
  | true =>
      have hperm : (stage.results.map TaskResult.task).Perm stage.level.tasks := by
        have hparts := h.parts
        rw [hend.airborne, hend.waiting_of_parallel hpar, List.append_nil, List.append_nil] at hparts
        exact (stage.results_perm.map _).trans hparts
      -- both lists are in the order of the level and hold the same tasks
      have hresults : (stage.results.map TaskResult.task).Pairwise
          fun a b => stage.level.tasks.idxOf a ≤ stage.level.tasks.idxOf b := by
        rw [results, hpar, if_pos rfl, List.pairwise_map]
        exact sortBy_ascending ..
      have hlevel : stage.level.tasks.Pairwise
          fun a b => stage.level.tasks.idxOf a ≤ stage.level.tasks.idxOf b := by
        have hlt := pairwise_idxOf_distinct stage.level.tasks
        rw [distinct_of_nodup hnodup] at hlt
        exact hlt.imp Nat.le_of_lt
      rw [hend.waiting_of_parallel hpar, List.append_nil]
      refine List.Perm.eq_of_pairwise (fun a b ha _ hab hba => ?_) hresults hlevel hperm
      exact (List.idxOf_inj (hperm.mem_iff.mp ha)).mp (Nat.le_antisymm hab hba)

end Underway

/-- **What the end of a level leaves**, in a workflow with the statuses after it. -/
structure Settled (w : Workflow) (stage : Stage) : Prop where
  tasks : stage.results.map TaskResult.task ++ stage.waiting = stage.level.tasks
  verdicts : ∀ r ∈ stage.results, w.statusOf r.task = some r.verdict
  pending : AllAre w .pending stage.waiting

theorem Underway.settled (h : stage.Underway w) (hnodup : stage.level.tasks.Nodup)
    (hend : stage.AtEnd) (hm : Moved (stage.results.map fun r => (r.task, r.verdict)) w w') :
    stage.Settled w' := by
  have htasks := h.tasks_results hnodup hend
  refine ⟨htasks, fun r hr => hm.moved _ _ (List.mem_map.mpr ⟨r, hr, rfl⟩), ?_⟩
  refine hm.allAre h.pending fun t ht hmem => ?_
  rw [List.map_map] at hmem
  exact (List.nodup_append.mp (htasks ▸ hnodup)).2.2 t hmem t ht rfl

namespace Settled

/-- The failures of a level are the tasks that are failed afterwards, in level order. -/
theorem failures (h : stage.Settled w) :
    failuresOf stage.results = tasksWith w .failed stage.level.tasks := by
  have hwaiting : tasksWith w .failed stage.waiting = [] := by
    refine List.filter_eq_nil_iff.mpr fun t ht => ?_
    simp [h.pending t ht]
  rw [← h.tasks, tasksWith_append, hwaiting, List.append_nil, tasksWith, List.filter_map]
  refine congrArg (List.map TaskResult.task) (List.filter_congr fun r hr => ?_)
  simp only [Function.comp, h.verdicts r hr, TaskResult.verdict]
  cases r.isSuccess <;> rfl

theorem waiting_of_success (hend : stage.AtEnd)
    (hsuccess : ∀ r ∈ stage.results, r.isSuccess = true) : stage.waiting = [] := by
  refine hend.waiting.resolve_right fun hstopped => ?_
  have hfail : ∃ r ∈ stage.landed, r.isSuccess = false := by
    simpa [Machine.stopped] using (Bool.and_eq_true_iff.mp hstopped).2
  -- a level that has stopped has a failure among its results
  obtain ⟨r, hr, hfalse⟩ := hfail
  rw [hsuccess r (stage.results_perm.mem_iff.mpr hr)] at hfalse
  cases hfalse

/-- A level without failures ends with all its tasks completed. -/
theorem allAre_completed (h : stage.Settled w) (hend : stage.AtEnd)
    (hnone : failuresOf stage.results = []) : AllAre w .completed stage.level.tasks := by
  have hsuccess := failuresOf_eq_nil_iff.mp hnone
  rw [← h.tasks, waiting_of_success hend hsuccess, List.append_nil]
  intro t ht
  obtain ⟨r, hr, rfl⟩ := List.mem_map.mp ht
  rw [h.verdicts r hr, TaskResult.verdict, if_pos (hsuccess r hr)]

theorem exists_failure (hsome : failuresOf stage.results ≠ []) :
    ∃ r ∈ stage.results, r.isSuccess = false := by
  obtain ⟨t, ht⟩ := List.exists_mem_of_ne_nil _ hsome
  obtain ⟨r, hr, _⟩ := List.mem_map.mp ht
  exact ⟨r, (List.mem_filter.mp hr).1, by simpa using (List.mem_filter.mp hr).2⟩

/-- In a parallel level every task has a result. -/
theorem endedBadly_of_parallel (h : stage.Settled w) (hend : stage.AtEnd)
    (hpar : stage.level.parallel = true) (hsome : failuresOf stage.results ≠ []) :
    stage.level.EndedBadly w := by
  obtain ⟨bad, hmem, hbad⟩ := exists_failure hsome
  have htasks := h.tasks
  rw [hend.waiting_of_parallel hpar, List.append_nil] at htasks
  rw [Level.EndedBadly, if_pos hpar, ← htasks]
  refine ⟨fun t ht => ?_, bad.task, List.mem_map_of_mem hmem, ?_⟩
  · obtain ⟨r, hr, rfl⟩ := List.mem_map.mp ht
    rw [h.verdicts r hr, TaskResult.verdict]
    cases r.isSuccess
    · exact Or.inr rfl
    · exact Or.inl rfl
  · rw [h.verdicts bad hmem, TaskResult.verdict, hbad]
    rfl

/-- In a sequential level all results but the last one are successes, so it is the last one that is
    not. -/
theorem endedBadly_of_sequential (h : stage.Settled w) (hord : stage.InOrder)
    (hseq : stage.level.parallel = false) (hsome : failuresOf stage.results ≠ []) :
    stage.level.EndedBadly w := by
  obtain ⟨bad, hmem, hbad⟩ := exists_failure hsome
  have hlanded : stage.results = stage.landed := by simp [results, hseq]
  obtain ⟨done, last, hsplit⟩ : ∃ done last, stage.results = done ++ [last] :=
    (List.eq_nil_or_concat' stage.results).resolve_left (List.ne_nil_of_mem hmem)
  have hdone : ∀ r ∈ done, r.isSuccess = true := by
    have hearlier := hord.earlier
    rwa [← hlanded, hsplit, List.dropLast_concat] at hearlier
  have hlast : last.isSuccess = false := by
    rw [hsplit] at hmem
    rcases List.mem_append.mp hmem with hmem | hmem
    · rw [hdone bad hmem] at hbad
      cases hbad
    · rwa [← List.mem_singleton.mp hmem]
  rw [Level.EndedBadly, if_neg (by simp [hseq])]
  refine ⟨done.map TaskResult.task, last.task, stage.waiting, ?_, fun t ht => ?_, ?_, h.pending⟩
  · rw [← h.tasks, hsplit]
    simp
  · obtain ⟨r, hr, rfl⟩ := List.mem_map.mp ht
    rw [h.verdicts r (hsplit ▸ List.mem_append_left _ hr), TaskResult.verdict, if_pos (hdone r hr)]
  · rw [h.verdicts last (hsplit ▸ List.mem_append_right _ (by simp)), TaskResult.verdict, hlast]
    rfl

/-- **A level with a failure ends badly.** -/
theorem endedBadly (h : stage.Settled w) (hend : stage.AtEnd)
    (hord : stage.level.parallel = false → stage.InOrder)
    (hsome : failuresOf stage.results ≠ []) : stage.level.EndedBadly w := by
  cases hpar : stage.level.parallel with
  | true => exact h.endedBadly_of_parallel hend hpar hsome
  | false => exact h.endedBadly_of_sequential (hord hpar) hpar hsome

end Settled

end Stage

end Foreman
