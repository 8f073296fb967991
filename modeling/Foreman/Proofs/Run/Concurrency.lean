import Foreman.Proofs.Run.Course

/-!
# `Foreman.Proofs.Run.Concurrency` — how many tasks are in flight, and of which level

A task is in flight from its dispatch until its result is in. The levels of a schedule are barriers for
flights, and the settings bound their number: whenever tasks are in flight, they are tasks of one level,
which has room for them, and nothing has been done about the tasks of the levels after it. A level begins
only when nobody is in flight.

All this is said in terms of statuses and of the results noted in the journal, and does not presuppose
that the executed workflow is the one that the schedule was made for: ids that it does not declare are
skipped. So the invariant (`Traffic`) relates statuses and journal to the flights of the level.

## Contents
- **`InFlight`**, `Untouched`.
- `Manned`: the tasks of the level under way; **`Traffic`**: the same for all levels.
- **`InBounds`** and **`Engine.concurrency_is_bounded`**.
-/

namespace Foreman

open Machine

variable {w x : Workflow} {s : Setup} {m m' : Machine} {levels past : List Level} {level : Level}
  {stage stage' : Stage} {t : TaskId} {r : TaskResult}

/-! ## Tasks in flight -/

/-- A task was dispatched, and no result of it is in. -/
structure InFlight (m : Machine) (t : TaskId) : Prop where
  running : m.workflow.statusOf t = some .running
  unlanded : ∀ r, .landed r ∈ m.journal → r.task ≠ t

/-- A task was never dispatched or cancelled, if there is such a task at all. -/
structure Untouched (m : Machine) (t : TaskId) : Prop where
  status : ∀ a, m.workflow.statusOf t = some a → a = .pending
  unlanded : ∀ r, .landed r ∈ m.journal → r.task ≠ t

/-- What happens to others does not touch a task. -/
theorem Untouched.congr (h : Untouched m t)
    (hstatus : m'.workflow.statusOf t = m.workflow.statusOf t)
    (hlandings : ∀ r, .landed r ∈ m'.journal → .landed r ∈ m.journal ∨ r.task ≠ t) :
    Untouched m' t :=
  ⟨fun a ha => h.status a (hstatus ▸ ha), fun r hr => (hlandings r hr).elim (h.unlanded r) id⟩

/-- A task of the workflow that is untouched can be dispatched. -/
theorem Untouched.pending (h : Untouched m t) {k : Task} (hk : m.workflow.task? t = some k) :
    m.workflow.statusOf t = some .pending := by
  have hstatus : m.workflow.statusOf t = some k.status :=
    Workflow.statusOf_eq_some_iff_task?.mpr ⟨k, hk, rfl⟩
  rw [hstatus, h.status _ hstatus]

/-! ## The level under way -/

/-- **What has become of the tasks of the level under way.** -/
structure Manned (s : Setup) (m : Machine) (stage : Stage) : Prop where
  nodup : (stage.landedTasks ++ stage.airborne ++ stage.waiting).Nodup
  subset : stage.landedTasks ++ stage.airborne ++ stage.waiting ⊆ stage.level.tasks
  running : ∀ t, m.workflow.statusOf t = some .running ↔ t ∈ stage.landedTasks ++ stage.airborne
  waiting : ∀ t ∈ stage.waiting, Untouched m t
  landed : ∀ r ∈ stage.landed, .landed r ∈ m.journal
  airborne : ∀ t ∈ stage.airborne, ∀ r, .landed r ∈ m.journal → r.task ≠ t
  room : stage.airborne.length ≤ bound s stage.level

namespace Manned

theorem mem_airborne_iff (h : Manned s m stage) : t ∈ stage.airborne ↔ InFlight m t := by
  constructor
  · intro ht
    exact ⟨(h.running t).mpr (List.mem_append_right _ ht), h.airborne t ht⟩
  · intro ht
    refine (List.mem_append.mp ((h.running t).mp ht.running)).resolve_left fun hlanded => ?_
    obtain ⟨r, hr, rfl⟩ := List.mem_map.mp hlanded
    exact ht.unlanded r (h.landed r hr) rfl

/-- A level begins, and nothing was done about its tasks. -/
theorem start (hnodup : level.tasks.Nodup) (hidle : ∀ t, m.workflow.statusOf t ≠ some .running)
    (huntouched : ∀ t ∈ level.tasks, Untouched m t) :
    Manned s m { level, waiting := level.tasks } where
  nodup := hnodup
  subset := List.Subset.refl _
  running t := by simpa [Stage.landedTasks, Stage.airborne, Stage.roster] using hidle t
  waiting := huntouched
  landed _ hr := by cases hr
  airborne _ ht := by simp [Stage.airborne, Stage.roster] at ht
  room := Nat.zero_le _

/-- Nobody boards or lands. -/
theorem congr (h : Manned s m stage) (hsame : SameCourse stage stage')
    (hroster : stage'.roster = stage.roster) (hlanded : stage'.landed = stage.landed)
    (hstatus : ∀ t, m'.workflow.statusOf t = m.workflow.statusOf t)
    (hlandings : ∀ r, .landed r ∈ m'.journal ↔ .landed r ∈ m.journal) : Manned s m' stage' := by
  have hl : stage'.landedTasks = stage.landedTasks := by
    rw [Stage.landedTasks, hlanded, Stage.landedTasks]
  have ha : stage'.airborne = stage.airborne := by rw [Stage.airborne, hroster, Stage.airborne]
  constructor
  case nodup =>
    rw [hl, ha, hsame.waiting]
    exact h.nodup
  case subset =>
    rw [hl, ha, hsame.waiting, hsame.level]
    exact h.subset
  case running =>
    intro t
    rw [hl, ha, hstatus]
    exact h.running t
  case waiting =>
    intro t ht
    rw [hsame.waiting] at ht
    exact (h.waiting t ht).congr (hstatus t) fun r hr => Or.inl ((hlandings r).mp hr)
  case landed =>
    intro r hr
    rw [hlanded] at hr
    exact (hlandings r).mpr (h.landed r hr)
  case airborne =>
    intro t ht r hr
    rw [ha] at ht
    exact h.airborne t ht r ((hlandings r).mp hr)
  case room =>
    rw [ha, hsame.level]
    exact h.room

/-- An id is skipped. -/
theorem skip {rest : List TaskId} (h : Manned s m stage) (hwaiting : stage.waiting = t :: rest) :
    Manned s (m.withStage { stage with waiting := rest }) { stage with waiting := rest } := by
  have hrest : rest.Sublist stage.waiting := hwaiting ▸ List.sublist_cons_self t rest
  refine ⟨h.nodup.sublist (hrest.append_left _), ?_, h.running, ?_, h.landed, h.airborne, h.room⟩
  · intro u hu
    exact h.subset ((hrest.append_left _).subset hu)
  · intro u hu
    exact (h.waiting u (hrest.subset hu)).congr rfl fun r hr => Or.inl hr

/-- A task is dispatched. -/
theorem board {rest : List TaskId} {f : Flight} {w' : Workflow} (h : Manned s m stage)
    (hwaiting : stage.waiting = f.job.task :: rest)
    (hroom : stage.flights.length < bound s stage.level)
    (hmoved : Moved [(f.job.task, .running)] m.workflow w') :
    Manned s { m with workflow := w', stage := some (stage.boarding f rest) }
      (stage.boarding f rest) := by
  have hair := Stage.Underway.airborne_boarding stage f rest
  have hparts : stage.landedTasks ++ (stage.airborne ++ [f.job.task]) ++ rest =
      stage.landedTasks ++ stage.airborne ++ stage.waiting := by
    simp [hwaiting]
  have hfresh := h.nodup
  rw [hwaiting, List.nodup_append] at hfresh
  obtain ⟨-, hwait, -⟩ := hfresh
  have hkept : ∀ t, t ≠ f.job.task → w'.statusOf t = m.workflow.statusOf t := fun t hne =>
    hmoved.kept t (by simpa using hne)
  constructor
  case nodup =>
    rw [hair]
    exact hparts ▸ h.nodup
  case subset =>
    rw [hair]
    exact hparts ▸ h.subset
  case running =>
    intro t
    rw [hair, ← List.append_assoc, List.mem_append, List.mem_singleton]
    by_cases heq : t = f.job.task
    · subst heq
      simpa using hmoved.moved f.job.task _ (List.mem_singleton.mpr rfl)
    · rw [hkept t heq, h.running t]
      simp [heq, Stage.landedTasks, Stage.boarding]
  case waiting =>
    -- ids do not repeat, so none of those left is the one just dispatched
    intro t ht
    have hne : t ≠ f.job.task := fun heq => (List.nodup_cons.mp hwait).1 (heq ▸ ht)
    have hold : t ∈ stage.waiting := hwaiting ▸ List.mem_cons_of_mem _ ht
    exact (h.waiting t hold).congr (hkept t hne) fun r hr => Or.inl hr
  case landed => exact h.landed
  case airborne =>
    intro t ht
    rw [hair, List.mem_append, List.mem_singleton] at ht
    rcases ht with ht | rfl
    · exact h.airborne t ht
    · exact (h.waiting _ (hwaiting ▸ List.mem_cons_self)).unlanded
  case room =>
    have hlength : stage.airborne.length = stage.flights.length := by
      simp [Stage.airborne, Stage.roster]
    rw [hair, List.length_append, List.length_singleton, hlength]
    exact hroom

/-- A flight lands. -/
theorem land {world : World} {id : Nat} {events : List Event} (h : Manned s m stage)
    (horderly : stage.Orderly) (hsame : SameCourse stage stage')
    (hland : Lands m stage id world stage' events r) :
    Manned s (m.after world stage' events) stage' := by
  have hair := hland.airborne_perm horderly
  have hflown := hland.flown_perm horderly
  have hnodup := h.nodup
  rw [List.nodup_append, List.nodup_append] at hnodup
  obtain ⟨⟨-, hairborne, -⟩, -, hapart⟩ := hnodup
  have hlandings : ∀ r', .landed r' ∈ (m.after world stage' events).journal ↔
      r' = r ∨ .landed r' ∈ m.journal := fun r' => by
    rcases hland.events with rfl | ⟨e, rfl⟩ <;> simp [after]
  have hrtask : r.task ∈ stage.airborne := hair.mem_iff.mpr List.mem_cons_self
  constructor
  case nodup =>
    rw [hsame.waiting]
    exact (hflown.append_right _).nodup_iff.mpr h.nodup
  case subset =>
    intro t ht
    rw [hsame.waiting] at ht
    rw [hsame.level]
    exact h.subset ((hflown.append_right _).mem_iff.mp ht)
  case running =>
    intro t
    rw [hflown.mem_iff]
    exact h.running t
  case waiting =>
    intro t ht
    rw [hsame.waiting] at ht
    refine (h.waiting t ht).congr rfl fun r' hr => ?_
    rcases (hlandings r').mp hr with rfl | hr
    · exact Or.inr (hapart _ (List.mem_append_right _ hrtask) t ht)
    · exact Or.inl hr
  case landed =>
    intro r' hr
    rw [hland.landed, List.mem_append, List.mem_singleton] at hr
    exact (hlandings r').mpr (hr.symm.imp_right (h.landed r'))
  case airborne =>
    -- the task that has landed is not among those still in flight
    intro t ht r' hr
    have hboth := (List.nodup_cons.mp (hair.nodup_iff.mp hairborne)).1
    rcases (hlandings r').mp hr with rfl | hr
    · rintro rfl
      exact hboth ht
    · exact h.airborne t (hair.mem_iff.mpr (List.mem_cons_of_mem _ ht)) r' hr
  case room =>
    have hlength := hair.length_eq
    rw [List.length_cons] at hlength
    rw [hsame.level]
    exact Nat.le_trans (by omega) h.room

end Manned

/-! ## All levels -/

/-- **The tasks of all levels**, between two levels or during one: nothing was done about the tasks of
    the levels ahead, and only tasks of the current level are running. -/
inductive Traffic (s : Setup) (levels : List Level) (m : Machine) : Prop
  | between (past : List Level) (hstage : m.stage = none) (hsplit : levels = past ++ m.levels)
      (hidle : ∀ t, m.workflow.statusOf t ≠ some .running)
      (hahead : ∀ t ∈ tasksOf m.levels, Untouched m t)
  | during (past : List Level) (stage : Stage) (hstage : m.stage = some stage)
      (hsplit : levels = past ++ stage.level :: m.levels) (hmanned : Manned s m stage)
      (hahead : ∀ t ∈ tasksOf m.levels, Untouched m t)

namespace Traffic

theorem start {schedule : Schedule} {world : World} :
    Traffic s schedule.levels (Machine.start x schedule world) := by
  have hpending : ∀ t a, x.resetStatuses.statusOf t = some a → a = .pending := fun t a ha => by
    have ht : t ∈ x.taskIds :=
      Workflow.taskIds_resetStatuses x ▸ Workflow.exists_statusOf_iff.mp ⟨a, ha⟩
    exact Option.some.inj (ha.symm.trans (Workflow.statusOf_resetStatuses ht))
  refine .between [] rfl rfl (fun t ht => ?_) fun t _ => ⟨hpending t, fun r hr => ?_⟩
  · cases hpending t _ ht
  · cases hr

theorem exists_during (h : Traffic s levels m) (hstage : m.stage = some stage) :
    ∃ past, levels = past ++ stage.level :: m.levels ∧ Manned s m stage ∧
      ∀ t ∈ tasksOf m.levels, Untouched m t := by
  cases h with
  | between past hnone _ _ _ => cases hnone.symm.trans hstage
  | during past stage' hstage' hsplit hmanned hahead =>
      obtain rfl := Option.some.inj (hstage'.symm.trans hstage)
      exact ⟨past, hsplit, hmanned, hahead⟩

/-- A level begins, or is cancelled. -/
theorem begin {rest : List Level} (hl : Layered w levels) (h : Traffic s levels m)
    (hstage : m.stage = none) (hlevels : m.levels = level :: rest) :
    Traffic s levels (m.beginLevel level rest) := by
  cases h with
  | during past stage hstage' _ _ _ => cases hstage.symm.trans hstage'
  | between past _ hsplit hidle hahead =>
      rw [hlevels] at hsplit hahead
      obtain ⟨hnodup, -, hrest⟩ := hl.apart hsplit
      have hlevel : ∀ t ∈ level.tasks, Untouched m t := fun t ht => hahead t (by simp [ht])
      have hlater : ∀ t ∈ tasksOf rest, Untouched m t := fun t ht => hahead t (by simp [ht])
      unfold beginLevel
      split
      · refine .during past _ rfl hsplit ?_ fun t ht => (hlater t ht).congr rfl fun r hr => Or.inl hr
        exact .start hnodup hidle fun t ht => (hlevel t ht).congr rfl fun r hr => Or.inl hr
      · have hrecords := OnlyRecords.cancel level.tasks m
        refine .between (past ++ [level]) (hrecords.stage.trans hstage) ?_ (fun t ht => ?_)
          fun t ht => (hlater t ht).congr ?_ fun r hr => Or.inl ((hrecords.landings r).mp hr)
        · rw [hsplit, List.append_assoc, List.singleton_append]
        · rcases statusOf_foldl_cancel level.tasks m t with hkept | ⟨-, hcancelled⟩
          · exact hidle t (hkept.symm.trans ht)
          · cases hcancelled.symm.trans ht
        · exact (statusOf_foldl_cancel level.tasks m t).resolve_right fun hmem => hrest t ht hmem.1

/-- A task of the level is dispatched, or skipped if there is none of that id. -/
theorem dispatch {rest : List TaskId} (hl : Layered w levels) (h : Traffic s levels m)
    (hstage : m.stage = some stage) (hwaiting : stage.waiting = t :: rest)
    (hroom : stage.flights.length < bound s stage.level) :
    Traffic s levels
      ((dispatchOne s m stage t rest).1.withStage (dispatchOne s m stage t rest).2) := by
  obtain ⟨past, hsplit, hmanned, hahead⟩ := h.exists_during hstage
  obtain ⟨-, -, hlater⟩ := hl.apart hsplit
  have hmem : t ∈ stage.level.tasks := hmanned.subset (by simp [hwaiting])
  cases hk : m.workflow.task? t with
  | none =>
      rw [dispatchOne_of_none hk]
      exact .during past _ rfl hsplit (hmanned.skip hwaiting)
        fun u hu => (hahead u hu).congr rfl fun r hr => Or.inl hr
  | some k =>
      obtain rfl : k.id = t := Workflow.id_of_task? hk
      obtain ⟨w', heq, hmoved⟩ :=
        setStatus_dispatch ((hmanned.waiting k.id (by simp [hwaiting])).pending hk)
      rw [dispatchOne_of_some hk, heq]
      refine .during past _ rfl hsplit (hmanned.board hwaiting hroom hmoved) fun u hu => ?_
      refine (hahead u hu).congr (hmoved.kept u ?_) fun r hr => Or.inl hr
      rintro hu'
      obtain rfl : u = k.id := by simpa using hu'
      exact hlater _ hu hmem

/-- A flight of the level has its turn. -/
theorem turn {id : Nat} (hl : Layered w levels) (horderly : stage.Orderly) (h : Traffic s levels m)
    (hstage : m.stage = some stage) :
    Traffic s levels (m.turn s stage id (stage.active.erase id)) := by
  obtain ⟨past, hsplit, hmanned, hahead⟩ := h.exists_during hstage
  obtain ⟨-, -, hlater⟩ := hl.apart hsplit
  obtain ⟨world, stage', events, heq, hsame, hgoes | ⟨r, hland⟩⟩ := turn_cases s m horderly id
  · have hlandings : ∀ r, .landed r ∈ (m.after world stage' events).journal ↔
        .landed r ∈ m.journal := fun r => by
      rcases hgoes.calls with ⟨rfl, -⟩ | ⟨call, -, rfl, -⟩ <;> simp [after]
    rw [heq]
    exact .during past stage' rfl (hsame.level ▸ hsplit)
      (hmanned.congr hsame hgoes.roster hgoes.landed (fun _ => rfl) hlandings)
      fun t ht => (hahead t ht).congr rfl fun r hr => Or.inl ((hlandings r).mp hr)
  · have hlandings : ∀ r', .landed r' ∈ (m.after world stage' events).journal →
        .landed r' ∈ m.journal ∨ r' = r := fun r' hr => by
      rcases hland.events with hevents | ⟨e, hevents⟩ <;> simpa [after, hevents, or_comm] using hr
    have hrtask : r.task ∈ stage.level.tasks := by
      refine hmanned.subset (List.mem_append_left _ (List.mem_append_right _ ?_))
      exact List.mem_map_of_mem hland.mem
    rw [heq]
    refine .during past stage' rfl (hsame.level ▸ hsplit) (hmanned.land horderly hsame hland)
      fun t ht => (hahead t ht).congr rfl fun r' hr => (hlandings r' hr).imp_right ?_
    rintro rfl rfl
    exact hlater _ ht hrtask

/-- The level ends, and its tasks with it. -/
theorem settle (hl : Layered w levels) (h : Traffic s levels m) (hstage : m.stage = some stage)
    (hflights : stage.flights = []) : Traffic s levels (m.settle stage) := by
  obtain ⟨past, hsplit, hmanned, hahead⟩ := h.exists_during hstage
  obtain ⟨-, -, hlater⟩ := hl.apart hsplit
  have hperm := stage.results_perm.map TaskResult.task
  have hnone : stage.airborne = [] := by simp [Stage.airborne, Stage.roster, hflights]
  have hrunning : ∀ t, m.workflow.statusOf t = some .running ↔
      t ∈ stage.results.map TaskResult.task := fun t => by
    rw [hmanned.running, hnone, List.append_nil, hperm.mem_iff]
    rfl
  have hnodup : (stage.results.map TaskResult.task).Nodup := by
    have hparts := hmanned.nodup
    rw [hnone, List.append_nil] at hparts
    exact hperm.nodup_iff.mpr (List.nodup_append.mp hparts).1
  obtain ⟨w', heq, hmoved⟩ := foldl_takeResult (m := { m with stage := none }) hnodup
    fun t ht => (hrunning t).mpr ht
  have hkept : ∀ t, t ∉ stage.results.map TaskResult.task → w'.statusOf t = m.workflow.statusOf t :=
    fun t ht => hmoved.kept t (by simpa [Function.comp_def] using ht)
  rw [settle_eq, heq]
  refine .between (past ++ [stage.level]) rfl ?_ (fun t ht => ?_) fun t ht => ?_
  · rw [hsplit, List.append_assoc, List.singleton_append]
  · by_cases hmem : t ∈ stage.results.map TaskResult.task
    · obtain ⟨r, hr, rfl⟩ := List.mem_map.mp hmem
      have hverdict := hmoved.moved r.task r.verdict (List.mem_map.mpr ⟨r, hr, rfl⟩)
      have hrun := r.isOutcome_verdict
      rw [Option.some.inj (hverdict.symm.trans ht)] at hrun
      cases hrun
    · exact hmem ((hrunning t).mp ((hkept t hmem).symm.trans ht))
  · refine (hahead t ht).congr (hkept t fun hmem => ?_) fun r hr => Or.inl hr
    refine hlater t ht (hmanned.subset ?_)
    exact List.mem_append_left _ (List.mem_append_left _ (hperm.mem_iff.mp hmem))

/-- **Every move.** -/
theorem move (hl : Layered w levels) (horderly : m.Orderly) (h : Traffic s levels m)
    (hm : Move s m m') : Traffic s levels m' := by
  cases hm with
  | begin hstage hlevels => exact h.begin hl hstage hlevels
  | dispatch hstage hwaiting hgo hroom => exact h.dispatch hl hstage hwaiting hroom
  | turn hstage hactive => exact h.turn hl (horderly _ hstage) hstage
  | settle hstage hflights hend => exact h.settle hl hstage hflights
  | tick due hstage =>
      obtain ⟨past, hsplit, hmanned, hahead⟩ := h.exists_during hstage
      refine .during past _ rfl hsplit ?_ fun t ht => (hahead t ht).congr rfl fun r hr => Or.inl hr
      exact hmanned.congr ⟨rfl, rfl, rfl, fun _ _ hatt => mem_attended_wake _ hatt⟩ rfl rfl
        (fun _ => rfl) fun _ => Iff.rfl
  | surroundings hcalls =>
      cases h with
      | between past hstage hsplit hidle hahead =>
          exact .between past hstage hsplit hidle
            fun t ht => (hahead t ht).congr rfl fun r hr => Or.inl hr
      | during past stage hstage hsplit hmanned hahead =>
          exact .during past stage hstage hsplit
            (hmanned.congr ⟨rfl, rfl, rfl, fun _ _ hatt => hatt⟩ rfl rfl (fun _ => rfl)
              fun _ => Iff.rfl)
            fun t ht => (hahead t ht).congr rfl fun r hr => Or.inl hr

end Traffic

/-! ## Bounds -/

/-- **The tasks in flight at a moment**, and the bounds that they keep. -/
structure InBounds (s : Setup) (levels : List Level) (m : Machine) (current : List TaskId) :
    Prop where
  nodup : current.Nodup
  mem_iff : ∀ t, t ∈ current ↔ InFlight m t
  /-- They belong to one level, which has room for them, and nothing was done about later levels. -/
  confined : current = [] ∨ ∃ past level later, levels = past ++ level :: later ∧
    current ⊆ level.tasks ∧
    current.length ≤ (if level.parallel then max 1 s.config.maxConcurrency else 1) ∧
    ∀ t ∈ tasksOf later, Untouched m t
  /-- A level begins only when nobody is in flight. -/
  barrier : ∀ m', Move s m m' ∨ step s m = some m' → m.levelsExecuted < m'.levelsExecuted →
    current = []

/-- A level begins only after the level before has ended. -/
theorem stage_eq_none_of_lt (h : Move s m m' ∨ step s m = some m')
    (hlt : m.levelsExecuted < m'.levelsExecuted) : m.stage = none := by
  -- whatever happens during a level, the number of levels stays the same
  by_contra hstage
  refine Nat.ne_of_gt hlt ?_
  rcases h with hmove | hstep
  · cases hmove with
    | begin hnone _ => exact absurd hnone hstage
    | @dispatch stage t rest _ _ _ _ => exact (OnlyRecords.dispatchOne s m stage t rest).levelsExecuted
    | @turn stage id _ _ =>
        obtain ⟨world, after, events, heq⟩ := exists_after s m stage id
        rw [heq, Machine.after]
    | @settle stage _ _ _ => exact (OnlyRecords.settle m stage).levelsExecuted
    | tick _ _ | surroundings _ => rfl
  · cases stepped hstep with
    | begin hnone _ => exact absurd hnone hstage
    | @dispatch stage _ _ _ => exact (OnlyRecords.dispatch s stage.waiting m stage).levelsExecuted
    | @turn stage id _ _ =>
        obtain ⟨world, after, events, heq⟩ := exists_after s m stage id
        rw [heq, Machine.after]
    | @settle stage _ _ _ _ => exact (OnlyRecords.settle m stage).levelsExecuted
    | tick _ _ _ => rfl

/-- Between levels nobody is in flight, and during one, those on its roster are. -/
theorem Traffic.exists_inBounds (h : Traffic s levels m) : ∃ current, InBounds s levels m current := by
  cases h with
  | between past hstage hsplit hidle hahead =>
      refine ⟨[], List.nodup_nil, ?_, Or.inl rfl, fun _ _ _ => rfl⟩
      intro t
      exact iff_of_false List.not_mem_nil fun ht => hidle t ht.running
  | during past stage hstage hsplit hmanned hahead =>
      refine ⟨stage.airborne, ?_, fun t => hmanned.mem_airborne_iff, Or.inr ?_, ?_⟩
      · exact (List.nodup_append.mp (List.nodup_append.mp hmanned.nodup).1).2.1
      · refine ⟨past, stage.level, m.levels, hsplit, ?_, ?_, hahead⟩
        · intro t ht
          exact hmanned.subset (List.mem_append_left _ (List.mem_append_right _ ht))
        · have hroom := hmanned.room
          unfold bound at hroom
          rwa [Nat.max_comm]
      · -- no level begins during another one
        intro m' hm hlt
        cases (stage_eq_none_of_lt hm hlt).symm.trans hstage

/-- **The bounds on concurrency hold at every moment.** The levels are those of a schedule, validated or
    not; the workflow that is executed, the agents, the settings, the runner and the faults are
    arbitrary. In whatever order flights take their turns, and whatever happens to pool and memory
    meanwhile, the tasks in flight keep the bounds, and so they do in an execution by steps. -/
theorem Engine.concurrency_is_bounded (e : Engine) {p : Pool} {schedule : Schedule}
    (hschedule : w.schedule p = .ok schedule) (x : Workflow) (world : World) :
    (∀ m, Interleaving (e.setup x schedule) (Machine.start x schedule world) m →
      ∃ current, InBounds (e.setup x schedule) schedule.levels m current) ∧
    ∀ m, Steps (e.setup x schedule) (Machine.start x schedule world) m →
      ∃ current, InBounds (e.setup x schedule) schedule.levels m current := by
  have hl := layered_of_schedule hschedule
  have hall : ∀ m, Interleaving (e.setup x schedule) (Machine.start x schedule world) m →
      ∃ current, InBounds (e.setup x schedule) schedule.levels m current := fun m hm => by
    have h := hm.invariant (P := fun m => m.Orderly ∧ Traffic (e.setup x schedule) schedule.levels m)
      ⟨orderly_of_stage_none rfl, .start⟩ fun _ _ h hmove => ⟨h.1.move hmove, h.2.move hl h.1 hmove⟩
    exact h.2.exists_inBounds
  exact ⟨hall, fun m hm => hall m (interleaving_of_steps (orderly_of_stage_none rfl) hm)⟩

/-- Three tasks that do not wait for each other. -/
def triplets : Workflow :=
  ((({ id := "review", name := "Review" } : Workflow).addTask (stepNamed "left") []).addTask
    (stepNamed "middle") []).addTask (stepNamed "right") []

/-- An engine that has two tasks in flight at most, and whose runner takes some time. -/
def twoAtATime : Engine :=
  { config := { maxConcurrency := 2 }
    runner := fun _ _ => ⟨[.pause (.ofMillis 5)], .succeed ⟨none, []⟩⟩ }

/-- With two tasks at a time, the third one of a level has to wait, even though an agent is free. -/
theorem concurrency_is_bounded_twoAtATime :
    ∃ schedule m current, triplets.schedule widePool = .ok schedule ∧
      m = Machine.advance (twoAtATime.setup triplets schedule) 4
        (Machine.start triplets schedule { pool := widePool }) ∧
      m.flights.map (fun e => e.2.job.task) = ["left", "middle"] ∧
      InBounds (twoAtATime.setup triplets schedule) schedule.levels m current := by
  have hschedule : triplets.schedule widePool = .ok _ := rfl
  obtain ⟨current, hcurrent⟩ := (Engine.concurrency_is_bounded twoAtATime hschedule triplets
    { pool := widePool }).2 _ (steps_advance _ 4 _)
  exact ⟨_, _, current, hschedule, rfl, rfl, hcurrent⟩

end Foreman
