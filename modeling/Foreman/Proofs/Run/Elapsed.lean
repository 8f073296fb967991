import Foreman.Proofs.Budget
import Foreman.Proofs.Run.WakeUps

/-!
# `Foreman.Proofs.Run.Elapsed` — the critical path bounds every execution from below

The critical path is computed from estimates before anything is executed. While an execution goes on,
its clock shows how long attempts of each task are under way (`Machine.timeOn`, summed up along the
moves by `Timed`). A level begins when all levels before it have ended, and a task is at work only while
its level is under way. So along every chain of tasks, each waiting for the one before, the times at work
follow each other: in a level, the chains that have ended and the time spent on one more task fit one
after the other before the clock (`Tempo`). Every move keeps that (`Paced.move`).

If no task fails, then at the end this holds of all chains, and so of a heaviest one. Hence if attempts
have taken at least as long as was estimated, the execution has taken at least as long as its critical
path says (`Engine.critical_path_bounds_runs`).

## Contents
- `Machine.timeOn`, **`Timed`**, and `workTime` for executions by steps.
- **`Tempo`**: chains that have ended and tasks at work.
- **`Paced`**, kept by every move.
- **`Engine.critical_path_bounds_runs`**.
-/

namespace Foreman

open Machine

variable {w : Workflow} {s : Setup} {m m' first : Machine} {levels past : List Level} {stage : Stage}
  {schedule : Schedule} {world : World} {spent spent' : TaskId → Nat} {ended current : List TaskId}
  {now now' : Nat} {t : TaskId} {ts : List TaskId}

/-! ## Time at work -/

/-- Whether a flight is in an attempt. -/
def Phase.isWorking : Phase → Bool
  | .working .. => true
  | _ => false

namespace Machine

/-- Whether an attempt of a task is under way. -/
def atWork (m : Machine) (t : TaskId) : Bool :=
  m.flights.any fun e => decide (e.2.job.task = t) && e.2.phase.isWorking

/-- How long an attempt of a task is under way, from one moment to the next. -/
def timeOn (m m' : Machine) (t : TaskId) : Nat := if m.atWork t then m'.clock - m.clock else 0

/-- **Any number of moves, with the time that attempts of each task have been under way.** -/
inductive Timed (s : Setup) (first : Machine) : (TaskId → Nat) → Machine → Prop
  | start : Timed s first (fun _ => 0) first
  | move {spent : TaskId → Nat} {m m' : Machine} (h : Timed s first spent m) (hm : Move s m m') :
      Timed s first (fun t => spent t + m.timeOn m' t) m'

/-- The time that attempts of a task are under way in an execution by steps, of at most a number. -/
def workTime (s : Setup) (t : TaskId) : Nat → Machine → Nat
  | 0, _ => 0
  | n + 1, m =>
    match step s m with
    | none => 0
    | some m' => m.timeOn m' t + workTime s t n m'

/-! ## Moves and the clock -/

/-- The clock only moves on in a move of its own. -/
theorem Move.clock_eq_or_tick (hm : Move s m m') : m'.clock = m.clock ∨
    ∃ stage due, m.stage = some stage ∧ m' = m.tick stage due := by
  cases hm with
  | tick due hstage => exact Or.inr ⟨_, due, hstage, rfl⟩
  | @begin level rest hstage hlevels =>
      refine Or.inl ?_
      unfold beginLevel
      split
      · rfl
      · exact (OnlyRecords.cancel level.tasks m).clock
  | @dispatch stage t rest _ _ _ _ => exact Or.inl (OnlyRecords.dispatchOne s m stage t rest).clock
  | @turn stage id _ _ =>
      obtain ⟨world, stage', events, heq⟩ := exists_after s m stage id
      rw [heq]
      exact Or.inl rfl
  | @settle stage _ _ _ => exact Or.inl (OnlyRecords.settle m stage).clock
  | surroundings _ => exact Or.inl rfl

theorem Move.clock_le (hm : Move s m m') : m.clock ≤ m'.clock := by
  rcases hm.clock_eq_or_tick with heq | ⟨stage, due, -, rfl⟩
  · exact Nat.le_of_eq heq.symm
  · exact Nat.le_max_left m.clock due

theorem Interleaving.clock_le (hm : Interleaving s m m') : m.clock ≤ m'.clock :=
  hm.invariant (Nat.le_refl _) fun _ _ h hlast => Nat.le_trans h hlast.clock_le

theorem timeOn_of_clock_eq (h : m'.clock = m.clock) (t : TaskId) : m.timeOn m' t = 0 := by
  unfold timeOn
  rw [h, Nat.sub_self, ite_self]

namespace Timed

/-- Moves that take no time add nothing. -/
theorem still (h : Timed s first spent m) (hm : Interleaving s m m') (hclock : m'.clock = m.clock) :
    Timed s first spent m' := by
  induction hm with
  | refl => exact h
  | @tail m₁ m₂ hmoves hlast ih =>
      have hbefore : m.clock ≤ m₁.clock := Interleaving.clock_le hmoves
      have hafter : m₁.clock ≤ m₂.clock := hlast.clock_le
      have htimed := (ih (by omega)).move hlast
      simpa only [timeOn_of_clock_eq (show m₂.clock = m₁.clock by omega), Nat.add_zero] using htimed

/-- A step takes no time, or is a single move. -/
theorem step (h : Timed s first spent m) (ho : m.Orderly) (hstep : step s m = some m') :
    Timed s first (fun t => spent t + m.timeOn m' t) m' := by
  have hsole := (sole_step ho hstep).interleaving
  have hstill : m'.clock = m.clock → Timed s first (fun t => spent t + m.timeOn m' t) m' := by
    intro hclock
    simpa only [timeOn_of_clock_eq hclock, Nat.add_zero] using h.still hsole hclock
  cases stepped hstep with
  | begin hstage hlevels => exact h.move (.begin hstage hlevels)
  | turn hstage hactive => exact h.move (.turn hstage hactive)
  | tick hstage _ _ => exact h.move (.tick _ hstage)
  | @dispatch stage _ _ _ => exact hstill (OnlyRecords.dispatch s stage.waiting m stage).clock
  | @settle stage _ _ _ _ => exact hstill (OnlyRecords.settle m stage).clock

/-- **The time at work in a run.** -/
theorem run {n : Nat} (h : Timed s first spent m) (ho : m.Orderly) (hrun : run s n m = some m') :
    Timed s first (fun t => spent t + workTime s t n m) m' := by
  induction n generalizing m spent with
  | zero =>
      obtain rfl : m = m' := by
        unfold Machine.run at hrun
        split at hrun
        · exact Option.some.inj hrun
        · cases hrun
      exact h
  | succ n ih =>
      unfold Machine.run at hrun
      unfold workTime
      cases hstep : Machine.step s m with
      | none =>
          rw [hstep] at hrun
          obtain rfl : m = m' := Option.some.inj hrun
          exact h
      | some m₁ =>
          rw [hstep] at hrun
          have ho' : m₁.Orderly := ho.interleaving (sole_step ho hstep).interleaving
          have htimed := ih (h.step ho hstep) ho' hrun
          simpa only [Nat.add_assoc] using htimed

theorem interleaving (h : Timed s first spent m) : Interleaving s first m := by
  induction h with
  | start => exact .refl
  | move _ hm ih => exact ih.tail hm

end Timed

end Machine

/-! ## Chains that have ended -/

/-- With what a task waits for, everything on a chain that ends in the task. -/
theorem Workflow.Chain.mem_of_last {closed : List TaskId}
    (hclosed : ∀ t ∈ closed, ∀ d, w.WaitsFor t d → d ∈ closed) (h : w.Chain ts)
    (hlast : ∀ d, ts.getLast? = some d → d ∈ closed) : ∀ t ∈ ts, t ∈ closed := by
  induction ts using List.reverseRecOn with
  | nil => exact fun t ht => absurd ht (by simp)
  | append_singleton before t ih =>
      have ht : t ∈ closed := hlast t (by simp)
      obtain ⟨⟨hbefore, hends⟩, -⟩ := (through_iff (h.declared t (by simp))).mp h
      have hrest : ∀ d, before.getLast? = some d → d ∈ closed := by
        intro d hd
        rcases hends with rfl | ⟨d', hwaits, hd'⟩
        · cases hd
        · obtain rfl : d = d' := Option.some.inj (hd.symm.trans hd')
          exact hclosed t ht d hwaits
      intro u hu
      rcases List.mem_append.mp hu with hu | hu
      · exact ih hbefore hrest u hu
      · rwa [List.mem_singleton.mp hu]

/-- **Times at work one after the other**, up to now: those of all tasks on a chain that has ended, and
    then that of a task at work. Nothing was spent on other tasks. -/
structure Tempo (w : Workflow) (ended current : List TaskId) (spent : TaskId → Nat) (now : Nat) :
    Prop where
  exists_base : ∃ base ≤ now,
    (∀ ts, w.Chain ts → (∀ t ∈ ts, t ∈ ended) → sumOf spent ts ≤ base) ∧
      ∀ t ∈ current, base + spent t ≤ now
  ahead : ∀ t, t ∉ ended → t ∉ current → spent t = 0

namespace Tempo

/-- A level begins. -/
theorem begin (h : Tempo w ended [] spent now) (hnew : ∀ t ∈ ended, t ∉ current) :
    Tempo w ended current spent now := by
  obtain ⟨base, hbase, hchains, -⟩ := h.exists_base
  refine ⟨⟨now, Nat.le_refl _, fun ts hts hended => ?_, fun t ht => ?_⟩, fun t ht _ => ?_⟩
  · exact Nat.le_trans (hchains ts hts hended) hbase
  · rw [h.ahead t (fun hended => hnew t hended ht) List.not_mem_nil]
    exact Nat.le_refl _
  · exact h.ahead t ht List.not_mem_nil

/-- Time passes, some of it with tasks at work. -/
theorem pass (h : Tempo w ended current spent now) (hapart : ∀ t ∈ ended, t ∉ current)
    (hnow : now ≤ now') (hspent : ∀ t ∈ current, spent' t ≤ spent t + (now' - now))
    (hothers : ∀ t, t ∉ current → spent' t = spent t) : Tempo w ended current spent' now' := by
  obtain ⟨base, hbase, hchains, hcurrent⟩ := h.exists_base
  refine ⟨⟨base, Nat.le_trans hbase hnow, fun ts hts hended => ?_, fun t ht => ?_⟩,
    fun t hended hcur => (hothers t hcur).trans (h.ahead t hended hcur)⟩
  · refine Nat.le_trans (sumOf_le_sumOf fun t ht => ?_) (hchains ts hts hended)
    exact Nat.le_of_eq (hothers t (hapart t (hended t ht)))
  · have hbefore := hcurrent t ht
    have hpassed := hspent t ht
    omega

/-- A level ends: a chain that has ended now may have one more task. -/
theorem settle (h : Tempo w ended current spent now)
    (hclosed : ∀ t ∈ ended, ∀ d, w.WaitsFor t d → d ∈ ended)
    (hbelow : ∀ t ∈ current, ∀ d, w.WaitsFor t d → d ∈ ended) :
    Tempo w (ended ++ current) [] spent now := by
  obtain ⟨base, hbase, hchains, hcurrent⟩ := h.exists_base
  refine ⟨⟨now, Nat.le_refl _, fun ts hts hmem => ?_, fun t ht => absurd ht List.not_mem_nil⟩,
    fun t ht _ => ?_⟩
  · rcases List.eq_nil_or_concat' ts with rfl | ⟨before, u, rfl⟩
    · exact Nat.zero_le now
    obtain ⟨⟨hbefore, hends⟩, -⟩ := (Workflow.Chain.through_iff (hts.declared u (by simp))).mp hts
    rcases List.mem_append.mp (hmem u (by simp)) with hu | hu
    · have hall := hts.mem_of_last hclosed fun d hd => by
        obtain rfl : u = d := by simpa using hd
        exact hu
      exact Nat.le_trans (hchains _ hts hall) hbase
    · -- the last task waits for what is before it, which has ended
      have hall := hbefore.mem_of_last hclosed fun d hd => by
        rcases hends with rfl | ⟨d', hwaits, hd'⟩
        · cases hd
        · obtain rfl : d = d' := Option.some.inj (hd.symm.trans hd')
          exact hbelow u hu d hwaits
      have hle := hchains before hbefore hall
      have hlast := hcurrent u hu
      rw [sumOf_append, sumOf, sumOf]
      omega
  · rw [List.mem_append, not_or] at ht
    exact h.ahead t ht.1 ht.2

end Tempo

/-! ## The pace of an execution -/

/-- What the tasks of some levels wait for is in these levels, too. -/
theorem Layered.closed {later : List Level} (hl : Layered w levels) (hsplit : levels = past ++ later) :
    ∀ t ∈ tasksOf past, ∀ d, w.WaitsFor t d → d ∈ tasksOf past := by
  intro t ht d hd
  obtain ⟨level, hlevel, hmem⟩ := List.mem_flatMap.mp ht
  obtain ⟨before, after, rfl⟩ := List.append_of_mem hlevel
  rw [tasksOf_append]
  exact List.mem_append_left _
    (hl.below before level (after ++ later) (by simpa using hsplit) t hmem d hd)

/-- **An execution keeps the pace**: as long as no task has failed, the levels that have ended and the
    level under way are in tempo. -/
structure Paced (w : Workflow) (levels : List Level) (spent : TaskId → Nat) (m : Machine) : Prop where
  between : ∀ past, Between levels past m → Tempo w (tasksOf past) [] spent m.clock
  during : ∀ past stage, During levels past stage m →
    Tempo w (tasksOf past) stage.level.tasks spent m.clock

/-- A task at work is one of the level. -/
theorem During.mem_of_atWork (h : During levels past stage m) (ht : m.atWork t = true) :
    t ∈ stage.level.tasks := by
  rw [atWork, List.any_eq_true] at ht
  obtain ⟨e, he, hworking⟩ := ht
  obtain rfl : e.2.job.task = t := of_decide_eq_true (Bool.and_eq_true_iff.mp hworking).1
  rw [flights_of_stage h.current] at he
  have hair : e.2.job.task ∈ stage.airborne :=
    List.mem_map.mpr ⟨_, List.mem_map_of_mem he, rfl⟩
  exact h.underway.parts.mem_iff.mp (by simp [hair])

theorem During.level_eq {stage' : Stage} (h : During levels past stage m)
    (h' : During levels past stage' m') : stage'.level = stage.level :=
  (List.cons.inj (List.append_cancel_left (h'.split.symm.trans h.split))).1

namespace Paced

/-- During a level, it is clear which levels have ended. -/
theorem of_during (h : During levels past stage m)
    (htempo : Tempo w (tasksOf past) stage.level.tasks spent m.clock) : Paced w levels spent m where
  between past' h' := by cases h'.current.symm.trans h.current
  during past' stage' h' := by
    obtain rfl : stage' = stage := Option.some.inj (h'.current.symm.trans h.current)
    obtain rfl : past' = past := List.append_cancel_right (h'.split.symm.trans h.split)
    exact htempo

/-- So it is between levels. -/
theorem of_split (past : List Level) (hstage : m.stage = none) (hsplit : levels = past ++ m.levels)
    (htempo : Tempo w (tasksOf past) [] spent m.clock) : Paced w levels spent m where
  between past' h' := by
    obtain rfl : past' = past := List.append_cancel_right (h'.split.symm.trans hsplit)
    exact htempo
  during past' stage' h' := by cases h'.current.symm.trans hstage

/-- After a failure there is nothing to say. -/
theorem of_failed (hfailed : m.failed ≠ []) : Paced w levels spent m where
  between _ h := absurd h.failed hfailed
  during _ _ h := absurd h.failed hfailed

theorem start (schedule : Schedule) (world : World) :
    Paced w schedule.levels (fun _ => 0) (Machine.start w schedule world) := by
  refine of_split [] rfl rfl ⟨⟨0, Nat.le_refl _, fun ts _ hts => ?_, ?_⟩, fun _ _ _ => rfl⟩
  · obtain rfl : ts = [] := List.eq_nil_iff_forall_not_mem.mpr fun t ht => by simpa using hts t ht
    exact Nat.le_refl _
  · exact fun t ht => absurd ht List.not_mem_nil

/-- The clock moves on while some tasks of the level are at work. -/
theorem tick (hl : Layered w levels) (h : Paced w levels spent m)
    (hduring : During levels past stage m) (due : Nat) :
    Paced w levels (fun t => spent t + m.timeOn (m.tick stage due) t) (m.tick stage due) := by
  have hpast := (hl.apart hduring.split).2.1
  have htempo := h.during past stage hduring
  obtain ⟨-, hduring'⟩ := hduring.tick (Nat.max m.clock due) fun z => z.due ≤ Nat.max m.clock due
  refine of_during hduring' (htempo.pass hpast (Nat.le_max_left _ _) (fun t _ => ?_) fun t ht => ?_)
  · unfold timeOn
    split
    · exact Nat.le_refl _
    · exact Nat.le_add_right _ _
  · have hidle : ¬ m.atWork t = true := fun hwork => ht (hduring.mem_of_atWork hwork)
    rw [timeOn, if_neg hidle, Nat.add_zero]

/-- A move that takes no time. -/
theorem instant (hl : Layered w levels) (hsound : Sound w levels m) (h : Paced w levels spent m)
    (hm : Move s m m') (hclock : m'.clock = m.clock) : Paced w levels spent m' := by
  obtain ⟨horderly, hb, hstanding⟩ := hsound
  cases hm with
  | begin hstage hlevels =>
      cases hstanding with
      | between past hbetween =>
          obtain ⟨-, hduring⟩ := hbetween.begin hlevels
          have hpast := (hl.apart hduring.split).2.1
          exact of_during hduring (hclock ▸ (h.between past hbetween).begin hpast)
      | during past stage hduring => cases hduring.current.symm.trans hstage
      | broken past level skipped hbroken => exact of_failed (hbroken.begin hl hlevels).2.failure
  | dispatch hstage hwaiting hgo hroom =>
      obtain ⟨past, hduring⟩ := hstanding.exists_during hstage
      obtain ⟨-, hduring'⟩ := hduring.dispatch hl hb hwaiting hgo hroom
      refine of_during hduring' ?_
      rw [hclock, hduring.level_eq hduring']
      exact h.during past _ hduring
  | turn hstage hactive =>
      obtain ⟨past, hduring⟩ := hstanding.exists_during hstage
      obtain ⟨-, stage', hduring'⟩ := hduring.turn (horderly _ hstage)
      refine of_during hduring' ?_
      rw [hclock, hduring.level_eq hduring']
      exact h.during past _ hduring
  | tick due hstage =>
      obtain ⟨past, hduring⟩ := hstanding.exists_during hstage
      simpa only [timeOn_of_clock_eq hclock, Nat.add_zero] using h.tick hl hduring due
  | settle hstage hflights hend =>
      obtain ⟨past, hduring⟩ := hstanding.exists_during hstage
      obtain ⟨w', heq, -, -⟩ := hduring.exists_settle hl ⟨hflights, hend⟩
      have htempo := (h.during past _ hduring).settle (hl.closed hduring.split)
        (hl.below past _ _ hduring.split)
      rw [heq]
      refine of_split (past ++ [_]) rfl (by simpa using hduring.split) ?_
      simpa using htempo
  | surroundings hcalls =>
      exact
        { between := fun past h' => h.between past
            ⟨h'.current, h'.split, h'.done, h'.ahead, h'.failed, h'.cancelled, h'.executed⟩
          during := fun past stage h' => h.during past stage
            ⟨h'.current, h'.split, h'.done, h'.ahead, h'.failed, h'.cancelled, h'.executed,
              h'.underway⟩ }

/-- **Every move keeps the pace.** -/
theorem move (hl : Layered w levels) (hsound : Sound w levels m) (h : Paced w levels spent m)
    (hm : Move s m m') : Paced w levels (fun t => spent t + m.timeOn m' t) m' := by
  rcases hm.clock_eq_or_tick with hclock | ⟨stage, due, hstage, rfl⟩
  · simpa only [timeOn_of_clock_eq hclock, Nat.add_zero] using h.instant hl hsound hm hclock
  · obtain ⟨past, hduring⟩ := hsound.standing.exists_during hstage
    exact h.tick hl hduring due

end Paced

theorem paced_of_timed (hl : Layered w schedule.levels)
    (h : Timed s (Machine.start w schedule world) spent m) : Paced w schedule.levels spent m := by
  induction h with
  | start => exact .start schedule world
  | move h hm ih => exact ih.move hl (sound_of_interleaving hl h.interleaving) hm

/-- At the end of an execution without failures, all chains have ended. -/
theorem Paced.sumOf_le (hl : Layered w levels) (hsound : Sound w levels m)
    (h : Paced w levels spent m) (hdone : m.isDone = true) (hsuccess : m.failed = [])
    (hts : w.Chain ts) : sumOf spent ts ≤ m.clock := by
  have hend : m.stage = none ∧ m.levels = [] := by simpa [isDone] using hdone
  cases hsound.standing with
  | during past stage hduring => cases hduring.current.symm.trans hend.1
  | broken past level skipped hbroken => exact absurd hsuccess hbroken.failure
  | between past hbetween =>
      obtain ⟨base, hbase, hchains, -⟩ := (h.between past hbetween).exists_base
      have hall : levels = past := by rw [hbetween.split, hend.2, List.append_nil]
      refine Nat.le_trans (hchains ts hts fun t ht => ?_) hbase
      rw [← hall, hl.mem_iff]
      exact hts.declared t ht

/-! ## The bound -/

/-- **The critical path bounds executions from below.** -/
theorem criticalPath_le_elapsed (hplan : w.plan world.pool = .ok schedule)
    (h : Timed s (Machine.start w schedule world) spent m) (hdone : m.isDone = true)
    (hsuccess : (m.result s).success = true)
    (hspent : ∀ k ∈ w.tasks, k.estimate ≤ .ofMillis (spent k.id)) :
    schedule.criticalPath.duration ≤ (m.result s).metrics.elapsed := by
  obtain ⟨hvalid, hschedule⟩ := isValid_of_plan hplan
  have hl := layered_of_plan hplan
  have hsound := sound_of_interleaving hl h.interleaving
  have hfailed : m.failed = [] := List.isEmpty_iff.mp hsuccess
  -- an estimate is no more than what was spent
  have hestimate : ∀ t ∈ w.taskIds, (durationIn w.estimates t).nanos ≤ spent t * 1000000 := by
    intro t ht
    obtain ⟨k, hk, rfl⟩ := List.mem_map.mp ht
    rw [durationIn_estimates (Workflow.wellFormed_of_isValid hvalid).distinct hk]
    exact Nat.le_trans (hspent k hk) (Nat.min_le_left _ _)
  obtain ⟨ts, hts, -, hweight⟩ := (heaviest_of_schedule hschedule).exists_or_nil
  have hclock := (paced_of_timed hl h).sumOf_le hl hsound hdone hfailed hts
  have hle : schedule.criticalPath.duration.nanos ≤ m.clock * 1000000 := by
    calc schedule.criticalPath.duration.nanos
        = weight w.estimates ts := hweight.symm
      _ ≤ sumOf (fun t => spent t * 1000000) ts :=
          sumOf_le_sumOf fun t ht => hestimate t (hts.declared t ht)
      _ = sumOf spent ts * 1000000 := sumOf_mul spent 1000000 ts
      _ ≤ m.clock * 1000000 := Nat.mul_le_mul_right _ hclock
  exact Nat.le_min.mpr ⟨hle, schedule.criticalPath.duration.le_max⟩

/-- **The critical path bounds every run from below.** Of every execution of a planned workflow in which
    no task fails, and attempts of each task are under way for at least as long as was estimated, the
    elapsed time is at least the duration of the critical path: in whatever order flights take their
    turns, whatever happens to pool and memory meanwhile, and for what a run of an engine returns. -/
theorem Engine.critical_path_bounds_runs (e : Engine) (hplan : w.plan world.pool = .ok schedule) :
    (∀ spent m, Timed (e.setup w schedule) (Machine.start w schedule world) spent m →
      m.isDone = true → (m.result (e.setup w schedule)).success = true →
      (∀ k ∈ w.tasks, k.estimate ≤ .ofMillis (spent k.id)) →
      schedule.criticalPath.duration ≤ (m.result (e.setup w schedule)).metrics.elapsed) ∧
    ∀ fuel x, e.run fuel w world = .ok (some x) → x.result.success = true →
      (∀ k ∈ w.tasks, k.estimate ≤ .ofMillis
        (workTime (e.setup w schedule) k.id fuel (Machine.start w schedule world))) →
      schedule.criticalPath.duration ≤ x.result.metrics.elapsed := by
  refine ⟨fun spent m h => criticalPath_le_elapsed hplan h, fun fuel x hrun hsuccess hspent => ?_⟩
  obtain ⟨m, hmachine, rfl⟩ := Engine.exists_run hplan hrun
  have htimed := Timed.start.run (orderly_of_stage_none rfl) hmachine
  exact criticalPath_le_elapsed hplan htimed (steps_of_run hmachine).2 hsuccess (by simpa using hspent)

/-- A build and its test, with estimates. -/
def timedPipeline : Workflow :=
  (({ id := "release", name := "Release" } : Workflow).addTask
    { stepNamed "build" with estimate := .ofMillis 30 } []).addTask
      { stepNamed "test" with estimate := .ofMillis 20 } ["build"]

/-- Every attempt takes longer than estimated, and so does the run. -/
theorem critical_path_bounds_runs_timedPipeline :
    ∃ schedule x, timedPipeline.plan lonePool = .ok schedule ∧
      (engineTaking (.ofMillis 40)).run 40 timedPipeline { pool := lonePool } = .ok (some x) ∧
      schedule.criticalPath.duration = .ofMillis 50 ∧ x.result.metrics.elapsed = .ofMillis 80 ∧
      schedule.criticalPath.duration ≤ x.result.metrics.elapsed := by
  refine ⟨_, _, rfl, rfl, rfl, rfl, ?_⟩
  have hplan : timedPipeline.plan ({ pool := lonePool } : World).pool = .ok _ := rfl
  refine (Engine.critical_path_bounds_runs (engineTaking (.ofMillis 40)) hplan).2 40 _ rfl rfl ?_
  intro k hk
  rcases List.mem_cons.mp hk with rfl | hk
  · decide
  · obtain rfl := List.mem_singleton.mp hk
    decide

end Foreman
