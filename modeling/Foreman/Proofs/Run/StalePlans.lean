import Foreman.Proofs.Run.Concurrency
import Foreman.Proofs.Run.DependencySafety

/-!
# `Foreman.Proofs.Run.StalePlans` — the execution of a plan for another workflow

A plan may be executed after the workflow has changed. The workflow is validated again and the planned
agents must still be registered, but the levels are those of the plan. So the execution keeps the order
of the plan, whatever the workflow says: a task is called after every declared task of the levels before
its own has landed as a success, and before any task of a later level has landed
(`Follows`). For a dependency that was one when the plan was made this is what has to be
waited for. A dependency that is new is respected just if the plan happens to hold it in an earlier
level; if it holds it in a later one, the task is always called too early.

The invariant (`Progress`) goes along with that of the tasks of all levels (`Traffic`), which says that
nothing was done about the levels ahead: as long as no task has failed, all declared tasks of the levels
behind have landed as successes.

## Contents
- **`PlannedBefore`**, `Succeeded`, **`Follows`**; what a plan holds (`plannedBefore_of_plan`).
- What setting a status leaves alone.
- **`Progress`** with one lemma for each kind of move.
- **`PlanKept`**, **`Engine.plan_order_is_kept`**, and `stale_plan_calls_too_early` for a dependency added later.
-/

namespace Foreman

open Machine

variable {w w₀ : Workflow} {s : Setup} {m m' : Machine} {levels past : List Level} {level : Level}
  {stage : Stage} {t d : TaskId} {rest : List TaskId} {journal : List Event} {call : Call}
  {schedule : Schedule} {world : World} {first : List Call}

/-! ## The order of a plan -/

/-- Some level holds `t`, and a level before it holds `d`. -/
def PlannedBefore (levels : List Level) (d t : TaskId) : Prop :=
  ∃ past level later, levels = past ++ level :: later ∧ d ∈ tasksOf past ∧ t ∈ level.tasks

/-- A task has landed as a success. -/
def Succeeded (journal : List Event) (t : TaskId) : Prop :=
  ∃ r, .landed r ∈ journal ∧ r.task = t ∧ r.isSuccess = true

theorem Succeeded.append (h : Succeeded journal t) (events : List Event) :
    Succeeded (events ++ journal) t := by
  obtain ⟨r, hr, hrt⟩ := h
  exact ⟨r, List.mem_append_right _ hr, hrt⟩

/-- A call comes after all that the plan holds in earlier levels, and before all that it holds in
    later ones. -/
structure Follows (w : Workflow) (levels : List Level) (call : Call) (before : List Event) : Prop where
  earlier : ∀ d ∈ w.taskIds, PlannedBefore levels d call.task → Succeeded before d
  later : ∀ d, PlannedBefore levels call.task d → ∀ r, .landed r ∈ before → r.task ≠ d

/-- In levels without repetitions, the level of a task does not come again later. -/
theorem eq_nil_of_mem_level {extra later later' : List Level} {level' : Level}
    (hnodup : (tasksOf (level :: later)).Nodup) (h : level :: later = extra ++ level' :: later')
    (ht : t ∈ level.tasks) (ht' : t ∈ level'.tasks) : extra = [] := by
  cases extra with
  | nil => rfl
  | cons l extra =>
      obtain ⟨rfl, rfl⟩ := List.cons.inj h
      rw [tasksOf_cons, List.nodup_append] at hnodup
      exact absurd rfl (hnodup.2.2 t ht t (by simp [ht']))

/-- In levels without repetitions, a task determines what comes before its level, and what after it. -/
theorem split_at_level_unique {past' later later' : List Level} {level' : Level}
    (hnodup : (tasksOf levels).Nodup) (h : levels = past ++ level :: later)
    (h' : levels = past' ++ level' :: later') (ht : t ∈ level.tasks) (ht' : t ∈ level'.tasks) :
    past = past' ∧ later = later' := by
  have hrest : ∀ {xs ys : List Level}, levels = xs ++ ys → (tasksOf ys).Nodup := by
    rintro xs ys rfl
    rw [tasksOf_append] at hnodup
    exact (List.nodup_append.mp hnodup).2.1
  have heq := h.symm.trans h'
  obtain rfl : past = past' := by
    rcases List.append_eq_append_iff.mp heq with ⟨extra, rfl, hsplit⟩ | ⟨extra, rfl, hsplit⟩
    · rw [eq_nil_of_mem_level (hrest h) hsplit ht ht', List.append_nil]
    · rw [eq_nil_of_mem_level (hrest h') hsplit ht' ht, List.append_nil]
  exact ⟨rfl, (List.cons.inj (List.append_cancel_left heq)).2⟩

/-- A plan holds everything that its own workflow declares, in levels before those that wait for it. -/
theorem plannedBefore_of_plan {p : Pool} (hplan : w₀.plan p = .ok schedule)
    (hd : d ∈ w₀.dependenciesOf t) : PlannedBefore schedule.levels d t := by
  have hl := layered_of_plan hplan
  have hwaits := (Workflow.wellFormed_of_isValid (isValid_of_plan hplan).1).waitsFor_of_mem hd
  obtain ⟨level, hlevel, ht⟩ := List.mem_flatMap.mp ((hl.mem_iff t).mpr hwaits.1)
  obtain ⟨past, later, hsplit⟩ := List.append_of_mem hlevel
  exact ⟨past, level, later, hsplit, hl.below _ _ _ hsplit t ht d hwaits, ht⟩

/-! ## What setting a status leaves alone -/

namespace Machine

/-- What no step of a row changes, the row does not change. -/
theorem foldl_keeps {α β : Type} (view : Machine → β) {f : Machine → α → Machine}
    (h : ∀ m a, view (f m a) = view m) (l : List α) (m : Machine) : view (l.foldl f m) = view m := by
  induction l generalizing m with
  | nil => rfl
  | cons a l ih => exact (ih (f m a)).trans (h m a)

/-- A legal or an illegal step changes at most a status. -/
theorem resetStatuses_setStatus (m : Machine) (t : TaskId) (a : TaskStatus) :
    (m.setStatus t a).workflow.resetStatuses = m.workflow.resetStatuses := by
  cases hk : m.workflow.task? t with
  | none => simp only [setStatus, Workflow.transition, hk]
  | some k =>
      cases hlegal : k.status.canBecome a with
      | false => simp [setStatus, Workflow.transition, hk, Task.become, hlegal]
      | true =>
          simp only [setStatus, Workflow.transition_of_canBecome hk hlegal]
          exact Workflow.resetStatuses_restatus hk

theorem failed_setStatus (m : Machine) (t : TaskId) (a : TaskStatus) :
    (m.setStatus t a).failed = m.failed := by
  unfold setStatus
  split <;> rfl

theorem levels_setStatus (m : Machine) (t : TaskId) (a : TaskStatus) :
    (m.setStatus t a).levels = m.levels := by
  unfold setStatus
  split <;> rfl

theorem resetStatuses_takeResult (m : Machine) (r : TaskResult) :
    (m.takeResult r).workflow.resetStatuses = m.workflow.resetStatuses :=
  resetStatuses_setStatus m r.task _

theorem levels_takeResult (m : Machine) (r : TaskResult) : (m.takeResult r).levels = m.levels :=
  levels_setStatus m r.task _

/-- The tasks of results that are no successes are failed, whatever their status was. -/
theorem failed_foldl_takeResult (rs : List TaskResult) (m : Machine) :
    (rs.foldl takeResult m).failed = m.failed ++ failuresOf rs := by
  induction rs generalizing m with
  | nil => simp [failuresOf]
  | cons r rs ih =>
      have hone : (m.takeResult r).failed = m.failed ++ failuresOf [r] := by
        show (if r.isSuccess then (m.setStatus r.task _).failed
          else (m.setStatus r.task _).failed ++ [r.task]) = _
        rw [failed_setStatus]
        cases hsuccess : r.isSuccess <;> simp [failuresOf, hsuccess]
      rw [List.foldl_cons, ih, hone, List.append_assoc]
      congr 1
      cases hsuccess : r.isSuccess <;> simp [failuresOf, hsuccess]

end Machine

/-! ## What a moment of the execution has behind it -/

/-- The levels that have not ended. -/
def Machine.ahead (m : Machine) : List Level :=
  match m.stage with
  | none => m.levels
  | some stage => stage.level :: m.levels

/-- **What has happened so far** while a workflow is executed along some levels; `first` are the calls
    made before. -/
structure Progress (w : Workflow) (levels : List Level) (first : List Call) (m : Machine) : Prop where
  same : m.workflow.resetStatuses = w.resetStatuses
  calls : m.world.calls = m.journal.filterMap Event.call? ++ first
  follows : ∀ call before, .called call :: before <:+ m.journal → Follows w levels call before
  /-- As long as no task has failed, everything behind has landed as a success. -/
  behind : m.failed = [] → ∀ past, levels = past ++ m.ahead →
    ∀ d ∈ tasksOf past, d ∈ w.taskIds → Succeeded m.journal d
  /-- A level is under way only as long as no task has failed, and all its tasks are attended to. -/
  current : ∀ stage, m.stage = some stage → m.failed = [] ∧ ∀ t ∈ stage.level.tasks, t ∈ w.taskIds →
    t ∈ stage.landedTasks ++ stage.airborne ++ stage.waiting

theorem Machine.ahead_of_stage (hstage : m.stage = some stage) :
    m.ahead = stage.level :: m.levels := by
  rw [ahead, hstage]

theorem Machine.ahead_of_stage_none (hstage : m.stage = none) : m.ahead = m.levels := by
  rw [ahead, hstage]

namespace Progress

/-- Nothing is called, and what is behind afterwards has landed as a success. -/
theorem quietly {events : List Event} (h : Progress w levels first m)
    (hsame : m'.workflow.resetStatuses = m.workflow.resetStatuses)
    (hcalls : m'.world.calls = m.world.calls) (hjournal : m'.journal = events ++ m.journal)
    (hnone : ∀ c, .called c ∉ events)
    (hbehind : m'.failed = [] → ∀ past, levels = past ++ m'.ahead →
      ∀ d ∈ tasksOf past, d ∈ w.taskIds → Succeeded m'.journal d)
    (hcurrent : ∀ stage, m'.stage = some stage → m'.failed = [] ∧ ∀ t ∈ stage.level.tasks,
      t ∈ w.taskIds → t ∈ stage.landedTasks ++ stage.airborne ++ stage.waiting) :
    Progress w levels first m' := by
  refine ⟨hsame.trans h.same, ?_, fun call before hsuffix => ?_, hbehind, hcurrent⟩
  · have hcall? : events.filterMap Event.call? = [] := by
      refine List.filterMap_eq_nil_iff.mpr fun e he => ?_
      cases e with
      | called c => exact absurd he (hnone c)
      | _ => rfl
    rw [hcalls, hjournal, List.filterMap_append, hcall?, List.nil_append, h.calls]
  · rw [hjournal] at hsuffix
    exact h.follows call before (called_suffix_of_append hnone hsuffix)

/-- While the same levels are ahead, the same ones are behind. -/
theorem behind_of_same {events : List Event} (h : Progress w levels first m)
    (hahead : m'.ahead = m.ahead) (hjournal : m'.journal = events ++ m.journal)
    (hfailed : m'.failed = m.failed) : m'.failed = [] → ∀ past, levels = past ++ m'.ahead →
      ∀ d ∈ tasksOf past, d ∈ w.taskIds → Succeeded m'.journal d := by
  intro hnone past hsplit d hd hdeclared
  rw [hahead] at hsplit
  rw [hjournal]
  exact (h.behind (hfailed.symm.trans hnone) past hsplit d hd hdeclared).append events

/-- Nothing is noted, and the same levels are ahead. -/
theorem silently (h : Progress w levels first m) (hahead : m'.ahead = m.ahead)
    (hsame : m'.workflow = m.workflow) (hcalls : m'.world.calls = m.world.calls)
    (hjournal : m'.journal = m.journal) (hfailed : m'.failed = m.failed)
    (hcurrent : ∀ stage, m'.stage = some stage → m'.failed = [] ∧ ∀ t ∈ stage.level.tasks,
      t ∈ w.taskIds → t ∈ stage.landedTasks ++ stage.airborne ++ stage.waiting) :
    Progress w levels first m' := by
  have hnothing : m'.journal = [] ++ m.journal := hjournal
  exact h.quietly (congrArg Workflow.resetStatuses hsame) hcalls hnothing
    (fun _ => List.not_mem_nil) (h.behind_of_same hahead hnothing hfailed) hcurrent

/-- Notes about illegal steps are no calls. -/
theorem called_not_mem_map_illegalStep (steps : List IllegalStep) (c : Call) :
    .called c ∉ steps.map Event.illegalStep := by
  simp

/-- A level begins, or is cancelled after a failure. -/
theorem begin {rest : List Level} (h : Progress w levels first m) (hstage : m.stage = none)
    (hlevels : m.levels = level :: rest) : Progress w levels first (m.beginLevel level rest) := by
  unfold beginLevel
  split
  · next hnone =>
    refine h.silently ?_ rfl rfl rfl rfl ?_
    · rw [ahead_of_stage_none hstage, hlevels]
      rfl
    · rintro _ ⟨⟩
      exact ⟨List.isEmpty_iff.mp hnone, fun t ht _ => List.mem_append_right _ ht⟩
  · next hsome =>
    have hrecords := OnlyRecords.cancel level.tasks m
    obtain ⟨steps, hjournal⟩ := hrecords.journal
    have hfailed := foldl_keeps Machine.failed (fun m t => failed_setStatus m t .cancelled)
      level.tasks m
    have hsame := foldl_keeps (fun m => m.workflow.resetStatuses)
      (fun m t => resetStatuses_setStatus m t .cancelled) level.tasks m
    -- a task has failed before, so nothing is left to show about what is behind
    refine h.quietly hsame (congrArg World.calls hrecords.world) hjournal
      (called_not_mem_map_illegalStep steps) (fun hnone => ?_) fun stage hnow => ?_
    · exact absurd (List.isEmpty_iff.mpr (hfailed.symm.trans hnone)) hsome
    · cases (hrecords.stage.trans hstage).symm.trans hnow

/-- A task of the level is dispatched, or skipped if there is none of that id. -/
theorem dispatch (h : Progress w levels first m) (hstage : m.stage = some stage)
    (hwaiting : stage.waiting = t :: rest) : Progress w levels first
      ((dispatchOne s m stage t rest).1.withStage (dispatchOne s m stage t rest).2) := by
  obtain ⟨hnone, hall⟩ := h.current stage hstage
  rw [hwaiting] at hall
  cases hk : m.workflow.task? t with
  | none =>
      -- a task that is not there any more is skipped, and need not be attended to
      have hundeclared : t ∉ w.taskIds := by
        rw [← Workflow.taskIds_eq_of_reset h.same, ← Workflow.exists_statusOf_iff, Workflow.statusOf, hk]
        rintro ⟨a, ha⟩
        cases ha
      rw [dispatchOne_of_none hk]
      refine h.silently (ahead_of_stage hstage).symm rfl rfl rfl rfl ?_
      rintro _ ⟨⟩
      refine ⟨hnone, fun u hu hdeclared => ?_⟩
      rcases List.mem_append.mp (hall u hu hdeclared) with hflown | hwait
      · exact List.mem_append_left _ hflown
      · rcases List.mem_cons.mp hwait with rfl | hwait
        · exact absurd hdeclared hundeclared
        · exact List.mem_append_right _ hwait
  | some k =>
      obtain rfl : k.id = t := Workflow.id_of_task? hk
      have hrecords := OnlyRecords.dispatchOne s m stage k.id rest
      rw [dispatchOne_of_some hk] at hrecords ⊢
      obtain ⟨steps, hjournal⟩ := hrecords.journal
      have hfailed := (failed_setStatus (m.setStatus k.id .scheduled) k.id .running).trans
        (failed_setStatus m k.id .scheduled)
      have hlevels := (levels_setStatus (m.setStatus k.id .scheduled) k.id .running).trans
        (levels_setStatus m k.id .scheduled)
      have hsame := (resetStatuses_setStatus (m.setStatus k.id .scheduled) k.id .running).trans
        (resetStatuses_setStatus m k.id .scheduled)
      refine h.quietly hsame (congrArg World.calls hrecords.world) hjournal
        (called_not_mem_map_illegalStep steps) ?_ ?_
      · refine h.behind_of_same ?_ hjournal hfailed
        rw [ahead_of_stage hstage]
        exact congrArg (stage.level :: ·) hlevels
      · rintro _ ⟨⟩
        refine ⟨hfailed.trans hnone, fun u hu hdeclared => ?_⟩
        have hold := hall u hu hdeclared
        rw [Stage.Underway.airborne_boarding]
        simpa [jobOf, Stage.boarding, Stage.landedTasks, or_assoc] using hold

/-- The clock moves on. -/
theorem tick (h : Progress w levels first m) (hstage : m.stage = some stage) (due : Nat) :
    Progress w levels first (m.tick stage due) := by
  refine h.silently (ahead_of_stage hstage).symm rfl rfl rfl rfl ?_
  rintro _ ⟨⟩
  exact h.current stage hstage

/-- A call of a task in flight follows the plan. -/
theorem follows_airborne (hnodup : (tasksOf levels).Nodup) (h : Progress w levels first m)
    (htraffic : Traffic s levels m) (hstage : m.stage = some stage)
    (hair : call.task ∈ stage.airborne) : Follows w levels call m.journal := by
  obtain ⟨past, hsplit, hmanned, hahead⟩ := htraffic.exists_during hstage
  have hmem : call.task ∈ stage.level.tasks :=
    hmanned.subset (List.mem_append_left _ (List.mem_append_right _ hair))
  constructor
  case earlier =>
    rintro d hdeclared ⟨past', level', later', hsplit', hd, ht⟩
    -- the level of the call is the one under way, so the levels before it are behind
    obtain ⟨rfl, -⟩ := split_at_level_unique hnodup hsplit hsplit' hmem ht
    refine h.behind (h.current stage hstage).1 past ?_ d hd hdeclared
    rw [ahead_of_stage hstage]
    exact hsplit
  case later =>
    rintro d ⟨past', level', later', hsplit', ht, hd⟩
    -- the level under way is one of those before the level of `d`
    obtain ⟨level, hlevel, htask⟩ := List.mem_flatMap.mp ht
    obtain ⟨earlier, between, rfl⟩ := List.append_of_mem hlevel
    rw [List.append_assoc, List.cons_append] at hsplit'
    obtain ⟨-, hlater⟩ := split_at_level_unique hnodup hsplit hsplit' hmem htask
    exact (hahead d (by simp [hlater, hd])).unlanded

/-- A flight of the level has its turn. -/
theorem turn {id : Nat} (hnodup : (tasksOf levels).Nodup) (horderly : stage.Orderly)
    (h : Progress w levels first m) (htraffic : Traffic s levels m) (hstage : m.stage = some stage) :
    Progress w levels first (m.turn s stage id (stage.active.erase id)) := by
  obtain ⟨hnone, hall⟩ := h.current stage hstage
  obtain ⟨world, stage', events, heq, hsame, hturn⟩ := turn_cases s m horderly id
  rw [heq]
  have hahead : (m.after world stage' events).ahead = m.ahead :=
    (congrArg (· :: m.levels) hsame.level).trans (ahead_of_stage hstage).symm
  have hbehind := h.behind_of_same hahead rfl rfl
  have hcurrent : (stage'.landedTasks ++ stage'.airborne).Perm (stage.landedTasks ++ stage.airborne) →
      ∀ x, some stage' = some x → m.failed = [] ∧ ∀ t ∈ x.level.tasks, t ∈ w.taskIds →
        t ∈ x.landedTasks ++ x.airborne ++ x.waiting := by
    rintro hflown _ ⟨⟩
    rw [hsame.level, hsame.waiting]
    exact ⟨hnone, fun t ht hdeclared =>
      (hflown.append_right _).mem_iff.mpr (hall t ht hdeclared)⟩
  rcases hturn with hgoes | ⟨r, hland⟩
  · -- the flight goes on, perhaps with a call of its task
    have hflown : (stage'.landedTasks ++ stage'.airborne).Perm
        (stage.landedTasks ++ stage.airborne) := by
      simp only [Stage.landedTasks, Stage.airborne, hgoes.landed, hgoes.roster]
      exact List.Perm.refl _
    rcases hgoes.calls with ⟨rfl, hcalls⟩ | ⟨call, hroster, rfl, hcalls⟩
    · exact h.silently hahead rfl hcalls rfl rfl (hcurrent hflown)
    · have hair : call.task ∈ stage.airborne := List.mem_map.mpr ⟨_, hroster, rfl⟩
      refine ⟨h.same, ?_, fun c before hsuffix => ?_, hbehind, hcurrent hflown⟩
      · show world.calls = _
        rw [hcalls, h.calls]
        rfl
      · rcases List.suffix_cons_iff.mp hsuffix with heq | hsuffix
        · cases heq
          exact h.follows_airborne hnodup htraffic hstage hair
        · exact h.follows c before hsuffix
  · -- the flight lands, so it stays among those attended to
    have hnocall : ∀ c, .called c ∉ events := by
      rcases hland.events with rfl | ⟨e, rfl⟩ <;> simp
    exact h.quietly rfl hland.calls rfl hnocall hbehind (hcurrent (hland.flown_perm horderly))

/-- The level ends. If nothing has failed, all its tasks have landed. -/
theorem settle (h : Progress w levels first m) (htraffic : Traffic s levels m)
    (hstage : m.stage = some stage) (hend : stage.AtEnd) :
    Progress w levels first (m.settle stage) := by
  obtain ⟨past, hsplit, hmanned, -⟩ := htraffic.exists_during hstage
  obtain ⟨hfailed, hall⟩ := h.current stage hstage
  have hrecords := OnlyRecords.settle m stage
  obtain ⟨steps, hjournal⟩ := hrecords.journal
  have hnostage : (m.settle stage).stage = none := hrecords.stage
  have hsame := foldl_keeps (fun m => m.workflow.resetStatuses) resetStatuses_takeResult stage.results
    { m with stage := none }
  have hlevels : (m.settle stage).levels = m.levels :=
    foldl_keeps Machine.levels levels_takeResult stage.results { m with stage := none }
  refine h.quietly hsame (congrArg World.calls hrecords.world) hjournal
    (called_not_mem_map_illegalStep steps) (fun hnone past' hsplit' => ?_) fun x hx => ?_
  · rw [settle_eq, failed_foldl_takeResult] at hnone
    have hsuccess := failuresOf_eq_nil_iff.mp (List.append_eq_nil_iff.mp hnone).2
    have hwaiting := Stage.Settled.waiting_of_success hend hsuccess
    rw [ahead_of_stage_none hnostage, hlevels] at hsplit'
    -- the level that has ended is the last one behind
    obtain rfl : past' = past ++ [stage.level] := by
      refine List.append_cancel_right (hsplit'.symm.trans (hsplit.trans ?_))
      rw [List.append_assoc, List.singleton_append]
    intro d hd hdeclared
    rw [tasksOf_append, tasksOf_cons, tasksOf_nil, List.append_nil, List.mem_append] at hd
    rw [show (m.settle stage).journal = _ from hjournal]
    refine Succeeded.append ?_ _
    rcases hd with hd | hd
    · exact h.behind hfailed past (hsplit.trans (by rw [ahead_of_stage hstage])) d hd hdeclared
    · have hlanded := hall d hd hdeclared
      rw [hend.airborne, hwaiting, List.append_nil, List.append_nil] at hlanded
      obtain ⟨r, hr, hrt⟩ := List.mem_map.mp hlanded
      exact ⟨r, hmanned.landed r hr, hrt, hsuccess r (stage.results_perm.mem_iff.mpr hr)⟩
  · cases hnostage.symm.trans hx

/-- **Every move.** -/
theorem move (hl : Layered w₀ levels) (horderly : m.Orderly) (htraffic : Traffic s levels m)
    (h : Progress w levels first m) (hm : Move s m m') : Progress w levels first m' := by
  cases hm with
  | begin hstage hlevels => exact h.begin hstage hlevels
  | dispatch hstage hwaiting _ _ => exact h.dispatch hstage hwaiting
  | turn hstage _ => exact h.turn hl.nodup (horderly _ hstage) htraffic hstage
  | tick due hstage => exact h.tick hstage due
  | settle hstage hflights hend => exact h.settle htraffic hstage ⟨hflights, hend⟩
  | surroundings hcalls => exact h.silently rfl rfl hcalls rfl rfl h.current

theorem start : Progress w schedule.levels world.calls (Machine.start w schedule world) := by
  refine ⟨?_, rfl, fun _ _ hsuffix => ?_, fun _ past hsplit d hd => ?_, fun _ hx => ?_⟩
  · simp [Machine.start, Workflow.resetStatuses, Function.comp_def]
  · simp [Machine.start] at hsuffix
  · -- no level is behind
    have hnil : past = [] := List.append_left_eq_self.mp hsplit.symm
    rw [hnil] at hd
    cases hd
  · cases hx

end Progress

/-! ## Executions of a plan -/

/-- **How an execution treats the dependencies of its workflow.** A task is called after those that the
    plan holds in earlier levels have landed as successes, and before any that it holds in a later level
    has; and all calls are noted. -/
structure PlanKept (w : Workflow) (levels : List Level) (world : World) (m : Machine) : Prop where
  awaited : ∀ after call before, m.journal = after ++ .called call :: before →
    ∀ d ∈ w.dependenciesOf call.task, PlannedBefore levels d call.task → Succeeded before d
  overtaken : ∀ after call before, m.journal = after ++ .called call :: before →
    ∀ d ∈ w.dependenciesOf call.task, PlannedBefore levels call.task d → ¬ Succeeded before d
  all : m.world.calls = m.journal.filterMap Event.call? ++ world.calls

theorem Progress.planKept (hvalid : w.WellFormed) (h : Progress w levels world.calls m) :
    PlanKept w levels world m := by
  refine ⟨?_, ?_, h.calls⟩
  · intro after call before hjournal d hd hplanned
    have hfollows := h.follows call before ⟨after, hjournal.symm⟩
    exact hfollows.earlier d (hvalid.waitsFor_of_mem hd).2.1 hplanned
  · rintro after call before hjournal d - hplanned ⟨r, hr, hrd, -⟩
    have hfollows := h.follows call before ⟨after, hjournal.symm⟩
    exact hfollows.later d hplanned r hr hrd

theorem planKept_of_interleaving (hl : Layered w₀ schedule.levels) (hvalid : w.WellFormed)
    (hm : Interleaving s (Machine.start w schedule world) m) :
    PlanKept w schedule.levels world m := by
  have hall := hm.invariant (P := fun m => m.Orderly ∧ Traffic s schedule.levels m ∧
      Progress w schedule.levels world.calls m)
    ⟨orderly_of_stage_none rfl, .start, .start⟩ fun _ _ h hmove =>
      ⟨h.1.move hmove, h.2.1.move hl h.1 hmove, h.2.2.move hl h.1 h.2.1 hmove⟩
  exact hall.2.2.planKept hvalid

/-- **A stale plan keeps its own order.** Let a plan of some workflow be executed for a valid one, while
    all planned agents are registered. Then the execution is not refused; and in whatever order flights
    take their turns, and whatever happens to pool and memory meanwhile, the dependencies that the plan
    holds in earlier levels have landed as successes before a task is called, among them all that were
    dependencies when the plan was made. Those that the plan holds in a later level have never landed
    then. The same holds at every moment of an execution by steps. -/
theorem Engine.plan_order_is_kept (e : Engine) {p : Pool} (hplan : w₀.plan p = .ok schedule)
    (hvalid : w.isValid = true) (hagents : schedule.verify world.pool = .ok ()) :
    (∀ fuel, e.runPlan fuel w schedule world = .ok (e.execute fuel w schedule world)) ∧
    (∀ t, ∀ d ∈ w₀.dependenciesOf t, PlannedBefore schedule.levels d t) ∧
    (∀ m, Interleaving (e.setup w schedule) (Machine.start w schedule world) m →
      PlanKept w schedule.levels world m) ∧
    ∀ m, Steps (e.setup w schedule) (Machine.start w schedule world) m →
      PlanKept w schedule.levels world m := by
  have hl := layered_of_plan hplan
  have hwell := Workflow.wellFormed_of_isValid hvalid
  refine ⟨fun fuel => ?_, fun t d hd => plannedBefore_of_plan hplan hd,
    fun m => planKept_of_interleaving hl hwell, fun m hm => ?_⟩
  · rw [runPlan, if_pos hvalid, hagents]
  · exact planKept_of_interleaving hl hwell (interleaving_of_steps (orderly_of_stage_none rfl) hm)

/-- The pipeline after it was planned: there is one more task. -/
def grownPipeline : Workflow := pipeline.addTask (stepNamed "docs") ["build"]

/-- The plan of the pipeline is executed for the grown one; the new task is not run. -/
theorem plan_order_is_kept_grownPipeline :
    ∃ schedule m, pipeline.plan lonePool = .ok schedule ∧ grownPipeline.isValid = true ∧
      schedule.verify lonePool = .ok () ∧
      Machine.run ((engineFailing []).setup grownPipeline schedule) 30
        (Machine.start grownPipeline schedule { pool := lonePool }) = some m ∧
      m.world.calls.map Call.task = ["test", "build"] ∧
      PlanKept grownPipeline schedule.levels { pool := lonePool } m := by
  refine ⟨_, _, rfl, by decide +kernel, rfl, rfl, rfl, ?_⟩
  have hkept := Engine.plan_order_is_kept (engineFailing []) (w := grownPipeline)
    (show pipeline.plan lonePool = .ok _ from rfl) (by decide +kernel)
    (show Schedule.verify _ ({ pool := lonePool } : World).pool = .ok () from rfl)
  exact hkept.2.2.2 _ (steps_of_run (show Machine.run _ 30 _ = some _ from rfl)).1

/-- The twins after they were planned: one of them has to wait for the other one. -/
def unequalTwins : Workflow := twins.addDependency "left" "right"

/-- **A dependency that is added after the planning may be overtaken.** The first twin is called while
    nothing has landed, although it has to wait for the second one. -/
theorem stale_plan_calls_too_early :
    ∃ schedule m x, twins.plan lonePool = .ok schedule ∧ unequalTwins.isValid = true ∧
      schedule.verify lonePool = .ok () ∧ "right" ∈ unequalTwins.dependenciesOf "left" ∧
      (engineFailing []).runPlan 30 unequalTwins schedule { pool := lonePool } = .ok (some x) ∧
      m = Machine.advance ((engineFailing []).setup unequalTwins schedule) 8
        (Machine.start unequalTwins schedule { pool := lonePool }) ∧
      m.world.calls.map Call.task = ["left"] ∧ ∀ r, .landed r ∉ m.journal := by
  refine ⟨_, _, _, rfl, by decide +kernel, rfl, by decide, rfl, rfl, rfl, fun r hr => ?_⟩
  -- the journal has just the call
  cases List.mem_singleton.mp (show Event.landed r ∈ [Event.called _] from hr)

end Foreman
