import Foreman.Proofs.Run.Turns
import Mathlib.Logic.Relation

/-!
# `Foreman.Proofs.Run.Moves` — executions with a free order of moves

`Machine.step` fixes the order in which flights take their turns, and nothing but the execution
itself touches the pool and the memory service. Properties of an execution should rest on neither.
A `Move` is one turn of any active flight, one dispatch, a change of the clock, the beginning or the
end of a level, or a change of the surroundings by somebody else; an `Interleaving` is any sequence of
moves. Every execution by steps is one (`interleaving_of_steps`), and one in which nobody else uses the
pool or the memory service (`sole_of_steps`).

What a turn leaves of the level, and what it notes, is said by `turn_cases`.

## Contents
- **`Move`**, **`Interleaving`**; **`OwnInterleaving`**, where nobody else uses the pool; and
  **`SoleInterleaving`**, where nobody else uses the pool or the memory service.
- `turn_cases`: what a turn changes.
- `OnlyRecords`: what moves of tasks and the taking of results leave alone.
- **`NoTurn`**, with `Move.noTurn_or_turn`: what all other moves do to flights.
- `Machine.Orderly`, kept by every move, and with it `sole_of_steps`, `own_of_steps` and
  `interleaving_of_steps`.
- `Engine.exists_machine`, `Engine.exists_machine_of_execute`: the steps behind a run of an engine.
-/

namespace Foreman

variable {s : Setup} {m m' : Machine} {stage stage' : Stage} {t : TaskId} {rest : List TaskId}

namespace Machine

/-! ## Who is attended to -/

/-- Whoever sleeps goes on sleeping, or wakes up. -/
theorem asleep_or_active_wake (selected : Sleeper → Bool) {z : Sleeper} (hz : z ∈ stage.asleep) :
    z ∈ (wake stage selected).asleep ∨ z.flight ∈ (wake stage selected).active := by
  cases hsel : selected z with
  | true =>
      have hwoken := List.mem_filter.mpr ⟨hz, hsel⟩
      exact Or.inr (List.mem_append_right _ (List.mem_map_of_mem hwoken))
  | false => exact Or.inl (List.mem_filter.mpr ⟨hz, by simp [hsel]⟩)

/-- Waking flights forgets nobody. -/
theorem mem_attended_wake {n : Nat} (selected : Sleeper → Bool) (h : n ∈ stage.attended) :
    n ∈ (wake stage selected).attended := by
  rcases List.mem_append.mp h with h | h
  · exact List.mem_append_left _ (List.mem_append_left _ h)
  · obtain ⟨z, hz, rfl⟩ := List.mem_map.mp h
    rcases asleep_or_active_wake selected hz with hasleep | hactive
    · exact List.mem_append_right _ (List.mem_map_of_mem hasleep)
    · exact List.mem_append_left _ hactive

/-! ## Moves -/

/-- The machine with another current level. -/
def withStage (m : Machine) (stage : Stage) : Machine := { m with stage := some stage }

/-- An id without a task is skipped. -/
theorem dispatchOne_of_none (h : m.workflow.task? t = none) :
    dispatchOne s m stage t rest = (m, { stage with waiting := rest }) := by
  simp only [dispatchOne, h]

/-- A dispatched task is running and has a flight. -/
theorem dispatchOne_of_some {k : Task} (h : m.workflow.task? t = some k) :
    dispatchOne s m stage t rest = ((m.setStatus t .scheduled).setStatus t .running,
      stage.boarding { job := jobOf s k, startedAt := m.clock, phase := .seeking } rest) := by
  simp only [dispatchOne, h, Stage.boarding]

/-- One move of an execution, in no particular order. -/
inductive Move (s : Setup) : Machine → Machine → Prop
  /-- The next level begins, or is cancelled. -/
  | begin {m : Machine} {level : Level} {rest : List Level} (hstage : m.stage = none)
      (hlevels : m.levels = level :: rest) : Move s m (m.beginLevel level rest)
  /-- The next task of the level is dispatched. -/
  | dispatch {m : Machine} {stage : Stage} {t : TaskId} {rest : List TaskId}
      (hstage : m.stage = some stage) (hwaiting : stage.waiting = t :: rest)
      (hgo : stopped stage = false) (hroom : stage.flights.length < bound s stage.level) :
      Move s m ((dispatchOne s m stage t rest).1.withStage (dispatchOne s m stage t rest).2)
  /-- Some active flight has its turn. -/
  | turn {m : Machine} {stage : Stage} {id : Nat} (hstage : m.stage = some stage)
      (hactive : id ∈ stage.active) : Move s m (m.turn s stage id (stage.active.erase id))
  /-- The clock moves on. -/
  | tick {m : Machine} {stage : Stage} (due : Nat) (hstage : m.stage = some stage) :
      Move s m (m.tick stage due)
  /-- The level ends: no flight is left, and no task will be dispatched. -/
  | settle {m : Machine} {stage : Stage} (hstage : m.stage = some stage)
      (hflights : stage.flights = []) (hend : stage.waiting = [] ∨ stopped stage = true) :
      Move s m (m.settle stage)
  /-- Somebody else uses the pool or the memory service. -/
  | surroundings {m : Machine} {world : World} (hcalls : world.calls = m.world.calls) :
      Move s m { m with world }

/-- **Any number of moves.** -/
abbrev Interleaving (s : Setup) : Machine → Machine → Prop := Relation.ReflTransGen (Move s)

/-- What holds at first and is kept by every move holds all along. -/
theorem Interleaving.invariant {P : Machine → Prop} (h : Interleaving s m m') (hstart : P m)
    (hmove : ∀ m m', P m → Move s m m' → P m') : P m' := by
  induction h with
  | refl => exact hstart
  | tail _ hlast ih => exact hmove _ _ ih hlast

/-- A move of the execution alone: nobody else uses the pool or the memory service. -/
structure SoleMove (s : Setup) (m m' : Machine) : Prop where
  move : Move s m m'
  world : m'.world = m.world ∨
    ∃ stage id, m.stage = some stage ∧ m' = m.turn s stage id (stage.active.erase id)

/-- **Any number of moves while nobody else uses the pool or the memory service.** -/
abbrev SoleInterleaving (s : Setup) : Machine → Machine → Prop := Relation.ReflTransGen (SoleMove s)

theorem SoleInterleaving.interleaving (h : SoleInterleaving s m m') : Interleaving s m m' :=
  Relation.ReflTransGen.mono (fun _ _ => SoleMove.move) _ _ h

/-- A move of the execution itself: the pool is as before, unless a flight had its turn. -/
structure OwnMove (s : Setup) (m m' : Machine) : Prop where
  move : Move s m m'
  pool : m'.world.pool = m.world.pool ∨
    ∃ stage id, m.stage = some stage ∧ m' = m.turn s stage id (stage.active.erase id)

/-- **Any number of moves while nobody else uses the pool.** -/
abbrev OwnInterleaving (s : Setup) : Machine → Machine → Prop := Relation.ReflTransGen (OwnMove s)

theorem OwnInterleaving.interleaving (h : OwnInterleaving s m m') : Interleaving s m m' :=
  Relation.ReflTransGen.mono (fun _ _ => OwnMove.move) _ _ h

theorem SoleInterleaving.own (h : SoleInterleaving s m m') : OwnInterleaving s m m' :=
  Relation.ReflTransGen.mono (fun _ _ hm => ⟨hm.move, hm.world.imp_left (congrArg World.pool)⟩) _ _ h

/-! ## Turns -/

/-- What a turn leaves of a level: only flights, who is attended to, and results change. -/
structure SameCourse (stage stage' : Stage) : Prop where
  level : stage'.level = stage.level
  waiting : stage'.waiting = stage.waiting
  nextFlight : stage'.nextFlight = stage.nextFlight
  attended : ∀ e ∈ stage'.roster, e.1 ∈ stage.attended → e.1 ∈ stage'.attended

/-- A turn of a flight that goes on, perhaps after a call. -/
structure GoesOn (m : Machine) (stage : Stage) (id : Nat) (world : World) (stage' : Stage)
    (events : List Event) : Prop where
  roster : stage'.roster = stage.roster
  landed : stage'.landed = stage.landed
  calls : events = [] ∧ world.calls = m.world.calls ∨
    ∃ call : Call, (id, call.task) ∈ stage.roster ∧ events = [.called call] ∧
      world.calls = call :: m.world.calls

/-- A turn of a flight that ends with a result, perhaps with an agent that is not taken back. -/
structure Lands (m : Machine) (stage : Stage) (id : Nat) (world : World) (stage' : Stage)
    (events : List Event) (r : TaskResult) : Prop where
  mem : (id, r.task) ∈ stage.roster
  roster : stage'.roster = stage.roster.filter (·.1 ≠ id)
  landed : stage'.landed = stage.landed ++ [r]
  events : events = [.landed r] ∨ ∃ e, events = [.landed r, .releaseRefused e]
  calls : world.calls = m.world.calls

/-- A flight that goes on with its job is the same entry of the roster. -/
theorem roster_setFlight {id : Nat} {f f' : Flight} (horderly : stage.Orderly)
    (hmem : (id, f) ∈ stage.flights) (hjob : f'.job = f.job) :
    (setFlight stage id f').roster = stage.roster := by
  simp only [Stage.roster, setFlight, List.map_map]
  refine List.map_congr_left fun e he => ?_
  by_cases hid : e.1 = id
  · obtain rfl : e = (id, f) := List.inj_on_of_nodup_map horderly.distinct he hmem hid
    simp [hjob]
  · simp [hid]

/-- Who was attended to apart from one flight, before that flight has its turn. -/
theorem attended_of_ne {id n : Nat} (h : n ∈ stage.attended) (hne : n ≠ id) :
    n ∈ stage.active.erase id ++ stage.asleep.map Sleeper.flight := by
  rcases List.mem_append.mp h with h | h
  · exact List.mem_append_left _ ((List.mem_erase_of_ne hne).mpr h)
  · exact List.mem_append_right _ h

/-- A flight that goes on is active or falls asleep after its turn, like everyone before. -/
theorem sameCourse_setFlight {id : Nat} (f : Flight) {active : List Nat} {asleep : List Sleeper}
    (hid : id ∈ active ++ asleep.map Sleeper.flight)
    (hactive : stage.active.erase id ⊆ active) (hasleep : stage.asleep ⊆ asleep) :
    SameCourse stage { setFlight stage id f with active, asleep } := by
  refine ⟨rfl, rfl, rfl, fun e _ hatt => ?_⟩
  by_cases hne : e.1 = id
  · exact hne ▸ hid
  · rcases List.mem_append.mp (attended_of_ne hatt hne) with h | h
    · exact List.mem_append_left _ (hactive h)
    · exact List.mem_append_right _ (List.map_subset _ hasleep h)

/-- A flight that ended is not missed. -/
theorem sameCourse_landing (stage : Stage) (id : Nat) (r : TaskResult) :
    SameCourse stage (stage.landing id r) := by
  refine ⟨rfl, rfl, rfl, fun e he hatt => attended_of_ne hatt ?_⟩
  rw [Stage.roster_landing] at he
  simpa using (List.mem_filter.mp he).2

/-- Waking flights changes who is active, and nothing else. -/
theorem SameCourse.wakeAfter (h : SameCourse stage stage') (leased : Option AgentId) :
    SameCourse stage (wakeAfter stage' leased) := by
  unfold Machine.wakeAfter
  split
  · exact ⟨h.level, h.waiting, h.nextFlight, fun e he hatt =>
      mem_attended_wake _ (h.attended e he hatt)⟩
  · exact h

/-- **What a turn changes.** -/
theorem turn_cases (s : Setup) (m : Machine) (horderly : stage.Orderly) (id : Nat) :
    ∃ world stage' events, m.turn s stage id (stage.active.erase id) = m.after world stage' events ∧
      SameCourse stage stage' ∧
        (GoesOn m stage id world stage' events ∨
          ∃ r, Lands m stage id world stage' events r) := by
  have hentry : ∀ f, (id, f) ∈ stage.flights → (id, f.job.task) ∈ stage.roster :=
    fun f hmem => List.mem_map.mpr ⟨_, hmem, rfl⟩
  have hturned := turned s m stage id
  generalize m.turn s stage id (stage.active.erase id) = after at hturned ⊢
  cases hturned with
  | absent habsent =>
      refine ⟨_, _, _, rfl, ⟨rfl, rfl, rfl, ?_⟩, Or.inl ⟨rfl, rfl, Or.inl ⟨rfl, rfl⟩⟩⟩
      intro e he hatt
      obtain ⟨entry, hentry, rfl⟩ := List.mem_map.mp he
      refine attended_of_ne hatt ?_
      rintro rfl
      exact habsent entry.2 hentry
  | @goesOn f f' next world events hmem hresume hnext hcalls =>
      have hjob : f'.job = f.job := by
        have habout := (Flight.resumes_resume s m.clock f m.world).about
        rw [hresume] at habout
        exact habout.job_eq hnext
      refine ⟨_, _, _, rfl, ?_, Or.inl ⟨roster_setFlight horderly hmem hjob, rfl, ?_⟩⟩
      · refine sameCourse_setFlight f' ?_ (next.subset_queue id _) (List.subset_append_left _ _)
        rcases next.mem_queue_or_sleepers id (stage.active.erase id) hnext with hactive | ⟨z, hz, hid⟩
        · exact List.mem_append_left _ hactive
        · exact List.mem_append_right _ (List.mem_map.mpr ⟨z, List.mem_append_right _ hz, hid⟩)
      · refine hcalls.imp_right ?_
        rintro ⟨call, htask, hevents, hworld⟩
        exact ⟨call, htask ▸ hentry f hmem, hevents, hworld⟩
  | @lands f r leased world hmem hresume =>
      have hresumes := Flight.resumes_resume s m.clock f m.world
      rw [hresume] at hresumes
      have htask : r.task = f.job.task := hresumes.about
      -- a flight that ends has made no call
      have hcalls : world.calls = m.world.calls := hresumes.calls.resolve_right fun h => by cases h.1
      refine ⟨_, _, _, rfl, (sameCourse_landing stage id r).wakeAfter leased, Or.inr ⟨r, ?_⟩⟩
      refine ⟨htask ▸ hentry f hmem, ?_, ?_, ?_, ?_⟩
      · exact (roster_wakeAfter _ _).trans (stage.roster_landing id r)
      · exact landed_wakeAfter _ _
      · rcases world.handBack_events f.job.task leased with hnone | ⟨e, he⟩
        · exact Or.inl (by rw [hnone])
        · exact Or.inr ⟨e, by rw [he]⟩
      · exact (world.calls_handBack f.job.task leased).trans hcalls

/-! ## Records -/

/-- Only statuses, results and notes about illegal steps have changed. -/
structure OnlyRecords (m m' : Machine) : Prop where
  clock : m'.clock = m.clock
  stage : m'.stage = m.stage
  world : m'.world = m.world
  levelsExecuted : m'.levelsExecuted = m.levelsExecuted
  journal : ∃ steps : List IllegalStep, m'.journal = steps.map .illegalStep ++ m.journal

namespace OnlyRecords

theorem refl (m : Machine) : OnlyRecords m m := ⟨rfl, rfl, rfl, rfl, [], rfl⟩

theorem trans {m₁ m₂ m₃ : Machine} (h₁ : OnlyRecords m₁ m₂) (h₂ : OnlyRecords m₂ m₃) :
    OnlyRecords m₁ m₃ := by
  obtain ⟨hclock₁, hstage₁, hworld₁, hlevels₁, steps₁, hjournal₁⟩ := h₁
  obtain ⟨hclock₂, hstage₂, hworld₂, hlevels₂, steps₂, hjournal₂⟩ := h₂
  refine ⟨hclock₂.trans hclock₁, hstage₂.trans hstage₁, hworld₂.trans hworld₁,
    hlevels₂.trans hlevels₁, steps₂ ++ steps₁, ?_⟩
  rw [hjournal₂, hjournal₁, List.map_append, List.append_assoc]

/-- What is no illegal step is noted just if it was noted before. -/
theorem mem_journal_iff (h : OnlyRecords m m') {event : Event}
    (hevent : ∀ step, event ≠ .illegalStep step) : event ∈ m'.journal ↔ event ∈ m.journal := by
  obtain ⟨steps, hjournal⟩ := h.journal
  rw [hjournal, List.mem_append]
  refine or_iff_right fun hmem => ?_
  obtain ⟨step, -, rfl⟩ := List.mem_map.mp hmem
  exact hevent step rfl

theorem refusals (h : OnlyRecords m m') (e : PoolError) :
    .releaseRefused e ∈ m'.journal ↔ .releaseRefused e ∈ m.journal :=
  h.mem_journal_iff fun _ heq => by cases heq

theorem landings (h : OnlyRecords m m') (r : TaskResult) :
    .landed r ∈ m'.journal ↔ .landed r ∈ m.journal :=
  h.mem_journal_iff fun _ heq => by cases heq

theorem foldl {α : Type} {f : Machine → α → Machine} (hf : ∀ m a, OnlyRecords m (f m a))
    (l : List α) (m : Machine) : OnlyRecords m (l.foldl f m) := by
  induction l generalizing m with
  | nil => exact refl m
  | cons a l ih => exact (hf m a).trans (ih (f m a))

theorem setStatus (m : Machine) (t : TaskId) (a : TaskStatus) : OnlyRecords m (m.setStatus t a) := by
  unfold Machine.setStatus
  split
  · exact ⟨rfl, rfl, rfl, rfl, [], rfl⟩
  · next e _ => exact ⟨rfl, rfl, rfl, rfl, [e], rfl⟩

theorem cancel (ts : List TaskId) (m : Machine) :
    OnlyRecords m (ts.foldl (fun m t => m.setStatus t .cancelled) m) :=
  foldl (fun m t => setStatus m t .cancelled) ts m

theorem takeResult (m : Machine) (r : TaskResult) : OnlyRecords m (m.takeResult r) := by
  have h := setStatus m r.task (if r.isSuccess then .completed else .failed)
  exact ⟨h.clock, h.stage, h.world, h.levelsExecuted, h.journal⟩

/-- The end of a level takes its results, and the level is gone. -/
theorem settle (m : Machine) (stage : Stage) :
    OnlyRecords { m with stage := none } (m.settle stage) := by
  unfold Machine.settle
  exact foldl takeResult _ _

theorem dispatchOne (s : Setup) (m : Machine) (stage : Stage) (t : TaskId) (rest : List TaskId) :
    OnlyRecords m (dispatchOne s m stage t rest).1 := by
  unfold Machine.dispatchOne
  split
  · exact refl m
  · exact (setStatus m t .scheduled).trans (setStatus _ t .running)

theorem dispatch (s : Setup) (ts : List TaskId) (m : Machine) (stage : Stage) :
    OnlyRecords m (dispatch s ts m stage).1 := by
  induction ts generalizing m stage with
  | nil => exact refl m
  | cons t rest ih =>
      unfold Machine.dispatch
      split
      · exact (dispatchOne s m stage t rest).trans (ih _ _)
      · exact refl m

end OnlyRecords

/-- A level begins without flights and results. -/
theorem flights_beginLevel (hstage : m.stage = none) (level : Level) (levels : List Level) :
    (m.beginLevel level levels).flights = [] ∧ (m.beginLevel level levels).landed = [] := by
  unfold beginLevel
  split
  · exact ⟨rfl, rfl⟩
  · have hnone := (OnlyRecords.cancel level.tasks m).stage.trans hstage
    exact ⟨flights_of_stage_none hnone, landed_of_stage_none hnone⟩

/-! ## Moves that are not turns -/

/-- **What a move that is no turn leaves of the flights**: all of them, with those that have just been
    dispatched. Flights wake up, but do not fall asleep. -/
structure NoTurn (s : Setup) (m m' : Machine) (dispatched : List (Nat × Flight)) : Prop where
  flights : m'.flights = m.flights ++ dispatched
  landed : m'.landed ⊆ m.landed
  fresh : ∀ e ∈ dispatched, ∃ t k, m.workflow.task? t = some k ∧
    e.2 = { job := jobOf s k, startedAt := m.clock, phase := .seeking }
  linedUp : ∀ stage', m'.stage = some stage' → ∀ e ∈ dispatched, e.1 ∈ stage'.active
  attended : ∀ stage stage', m.stage = some stage → m'.stage = some stage' →
    stage.active ⊆ stage'.active ∧ ∀ z ∈ stage.asleep, z ∈ stage'.asleep ∨ z.flight ∈ stage'.active
  refusals : ∀ e, .releaseRefused e ∈ m'.journal ↔ .releaseRefused e ∈ m.journal

namespace NoTurn

/-- A level begins or ends, without flights. -/
theorem of_flights_eq_nil (hflights : m.flights = []) (hflights' : m'.flights = [])
    (hlanded : m'.landed = []) (hstage : m.stage = none ∨ m'.stage = none)
    (hrefusals : ∀ e, .releaseRefused e ∈ m'.journal ↔ .releaseRefused e ∈ m.journal) :
    NoTurn s m m' [] where
  flights := by rw [hflights, hflights', List.append_nil]
  landed := by simp [hlanded]
  fresh _ he := by cases he
  linedUp _ _ _ he := by cases he
  attended _ _ hnow hnext := by
    rcases hstage with hnone | hnone
    · cases hnone.symm.trans hnow
    · cases hnone.symm.trans hnext
  refusals := hrefusals

/-- Flights and results of a level stay as they are, and whoever was attended to still is. -/
theorem of_stage (hstage : m.stage = some stage) (hstage' : m'.stage = some stage')
    (hflights : stage'.flights = stage.flights) (hlanded : stage'.landed = stage.landed)
    (hactive : stage.active ⊆ stage'.active)
    (hasleep : ∀ z ∈ stage.asleep, z ∈ stage'.asleep ∨ z.flight ∈ stage'.active)
    (hjournal : m'.journal = m.journal) : NoTurn s m m' [] where
  flights := by
    rw [flights_of_stage hstage, flights_of_stage hstage', hflights, List.append_nil]
  landed := by
    rw [landed_of_stage hstage, landed_of_stage hstage', hlanded]
    exact List.Subset.refl _
  fresh _ he := by cases he
  linedUp _ _ _ he := by cases he
  attended x x' hx hx' := by
    obtain rfl := Option.some.inj (hstage.symm.trans hx)
    obtain rfl := Option.some.inj (hstage'.symm.trans hx')
    exact ⟨hactive, hasleep⟩
  refusals e := by rw [hjournal]

/-- A task is dispatched. -/
theorem boarding {k : Task} (hstage : m.stage = some stage) (hk : m.workflow.task? t = some k)
    (hstage' : m'.stage = some (stage.boarding
      { job := jobOf s k, startedAt := m.clock, phase := .seeking } rest))
    (hrefusals : ∀ e, .releaseRefused e ∈ m'.journal ↔ .releaseRefused e ∈ m.journal) :
    NoTurn s m m'
      [(stage.nextFlight, { job := jobOf s k, startedAt := m.clock, phase := .seeking })] where
  flights := by
    rw [flights_of_stage hstage, flights_of_stage hstage']
    rfl
  landed := by
    rw [landed_of_stage hstage, landed_of_stage hstage']
    exact List.Subset.refl _
  fresh e he := by
    rw [List.mem_singleton.mp he]
    exact ⟨t, k, hk, rfl⟩
  linedUp x' hx' e he := by
    obtain rfl := Option.some.inj (hstage'.symm.trans hx')
    rw [List.mem_singleton.mp he]
    exact List.mem_append_right _ (List.mem_singleton.mpr rfl)
  attended x x' hx hx' := by
    obtain rfl := Option.some.inj (hstage.symm.trans hx)
    obtain rfl := Option.some.inj (hstage'.symm.trans hx')
    exact ⟨List.subset_append_left _ _, fun z hz => Or.inl hz⟩
  refusals := hrefusals

/-- A flight that has just been dispatched looks for an agent. -/
theorem seeking {dispatched : List (Nat × Flight)} (h : NoTurn s m m' dispatched) :
    ∀ e ∈ dispatched, e.2.phase = .seeking := fun e he => by
  obtain ⟨t, k, -, hfresh⟩ := h.fresh e he
  rw [hfresh]

end NoTurn

/-- **A move is a turn, or leaves the flights alone.** -/
theorem Move.noTurn_or_turn (hm : Move s m m') :
    (∃ dispatched, NoTurn s m m' dispatched) ∨
      ∃ stage id, m.stage = some stage ∧ m' = m.turn s stage id (stage.active.erase id) := by
  cases hm with
  | turn hstage _ => exact Or.inr ⟨_, _, hstage, rfl⟩
  | @begin level rest hstage hlevels =>
      obtain ⟨hflights, hlanded⟩ := flights_beginLevel hstage level rest
      refine Or.inl ⟨[], .of_flights_eq_nil (flights_of_stage_none hstage) hflights hlanded
        (Or.inl hstage) fun e => ?_⟩
      unfold beginLevel
      split
      · rfl
      · exact (OnlyRecords.cancel level.tasks m).refusals e
  | @dispatch stage t rest hstage hwaiting hgo hroom =>
      have hrecords := OnlyRecords.dispatchOne s m stage t rest
      cases hk : m.workflow.task? t with
      | none =>
          rw [dispatchOne_of_none hk]
          exact Or.inl ⟨[], .of_stage hstage rfl rfl rfl (List.Subset.refl _)
            (fun z hz => Or.inl hz) rfl⟩
      | some k =>
          rw [dispatchOne_of_some hk] at hrecords ⊢
          exact Or.inl ⟨_, .boarding hstage hk rfl hrecords.refusals⟩
  | @tick stage due hstage =>
      exact Or.inl ⟨[], .of_stage hstage rfl rfl rfl (List.subset_append_left _ _)
        (fun z hz => asleep_or_active_wake _ hz) rfl⟩
  | @settle stage hstage hflights hend =>
      have hrecords := OnlyRecords.settle m stage
      have hnone : (m.settle stage).stage = none := hrecords.stage
      refine Or.inl ⟨[], .of_flights_eq_nil ?_ (flights_of_stage_none hnone)
        (landed_of_stage_none hnone) (Or.inr hnone) hrecords.refusals⟩
      rw [flights_of_stage hstage, hflights]
  | @surroundings world hcalls =>
      refine Or.inl ⟨[], ?_⟩
      obtain hstage | ⟨stage, hstage⟩ := Option.eq_none_or_eq_some m.stage
      · have hflights := flights_of_stage_none hstage
        exact .of_flights_eq_nil hflights hflights (landed_of_stage_none hstage) (Or.inl hstage)
          fun _ => Iff.rfl
      · exact .of_stage hstage hstage rfl rfl (List.Subset.refl _) (fun z hz => Or.inl hz) rfl

/-- The same while nobody else uses the pool. -/
theorem OwnMove.noTurn_or_turn (hm : OwnMove s m m') :
    (m'.world.pool = m.world.pool ∧ ∃ dispatched, NoTurn s m m' dispatched) ∨
      ∃ stage id, m.stage = some stage ∧ m' = m.turn s stage id (stage.active.erase id) := by
  rcases hm.pool with hpool | hturn
  · exact hm.move.noTurn_or_turn.imp_left fun h => ⟨hpool, h⟩
  · exact Or.inr hturn

/-! ## Order among flights -/

/-- The flights of the current level, if there is one, are in order. -/
def Orderly (m : Machine) : Prop := ∀ stage, m.stage = some stage → stage.Orderly

theorem orderly_of_stage_none (h : m.stage = none) : m.Orderly := by
  intro stage hstage
  rw [h] at hstage
  cases hstage

theorem orderly_beginLevel {level : Level} {rest : List Level} (hstage : m.stage = none) :
    (m.beginLevel level rest).Orderly := by
  unfold beginLevel
  split
  · rintro stage ⟨⟩
    exact ⟨List.nodup_nil, by simp [Stage.roster], by simp [Stage.roster]⟩
  · exact orderly_of_stage_none ((OnlyRecords.cancel _ _).stage.trans hstage)

theorem orderly_dispatchOne (h : stage.Orderly) : (dispatchOne s m stage t rest).2.Orderly := by
  cases ht : m.workflow.task? t with
  | none =>
      rw [dispatchOne_of_none ht]
      exact ⟨h.nodup, h.numbered, h.attended⟩
  | some k =>
      rw [dispatchOne_of_some ht]
      exact h.boarding _ rest

theorem orderly_turn {id : Nat} (h : stage.Orderly) :
    (m.turn s stage id (stage.active.erase id)).Orderly := by
  obtain ⟨world, stage', events, heq, hsame, hturn⟩ := turn_cases s m h id
  -- a turn takes at most one entry off the roster
  have hsub : stage'.roster.Sublist stage.roster := by
    rcases hturn with hgo | ⟨r, hland⟩
    · rw [hgo.roster]
    · rw [hland.roster]
      exact List.filter_sublist
  rw [heq]
  rintro _ ⟨⟩
  exact ⟨h.nodup.sublist (hsub.map _), fun e he => hsame.nextFlight ▸ h.numbered e (hsub.subset he),
    fun e he => hsame.attended e he (h.attended e (hsub.subset he))⟩

theorem Orderly.move (h : m.Orderly) (hm : Move s m m') : m'.Orderly := by
  cases hm with
  | begin hstage hlevels => exact orderly_beginLevel hstage
  | dispatch hstage _ _ _ =>
      rintro _ ⟨⟩
      exact orderly_dispatchOne (h _ hstage)
  | turn hstage _ => exact orderly_turn (h _ hstage)
  | tick due hstage =>
      rintro _ ⟨⟩
      have ho := h _ hstage
      exact ⟨ho.nodup, ho.numbered, fun e he => mem_attended_wake _ (ho.attended e he)⟩
  | settle _ _ _ => exact orderly_of_stage_none (OnlyRecords.settle _ _).stage
  | surroundings _ => exact h

/-! ## Executions by steps -/

theorem setStatus_withStage (m : Machine) (stage : Stage) (t : TaskId) (a : TaskStatus) :
    (m.withStage stage).setStatus t a = (m.setStatus t a).withStage stage := by
  unfold setStatus withStage
  dsimp only
  split <;> rfl

/-- A dispatch does not look at the level that the machine holds. -/
theorem dispatchOne_withStage (m : Machine) (x stage : Stage) (t : TaskId) (rest : List TaskId) :
    dispatchOne s (m.withStage x) stage t rest =
      ((dispatchOne s m stage t rest).1.withStage x, (dispatchOne s m stage t rest).2) := by
  cases ht : m.workflow.task? t with
  | none => rw [dispatchOne_of_none ht, dispatchOne_of_none (m := m.withStage x) ht]
  | some k =>
      rw [dispatchOne_of_some ht, dispatchOne_of_some (m := m.withStage x) ht,
        setStatus_withStage, setStatus_withStage]
      rfl

theorem waiting_dispatchOne (s : Setup) (m : Machine) (stage : Stage) (t : TaskId)
    (rest : List TaskId) :
    (dispatchOne s m stage t rest).2.waiting = rest := by
  unfold dispatchOne
  split <;> rfl

theorem stopped_dispatchOne (s : Setup) (m : Machine) (stage : Stage) (t : TaskId)
    (rest : List TaskId) :
    stopped (dispatchOne s m stage t rest).2 = stopped stage := by
  unfold dispatchOne
  split <;> rfl

theorem world_beginLevel (m : Machine) (level : Level) (rest : List Level) :
    (m.beginLevel level rest).world = m.world := by
  unfold beginLevel
  split
  · rfl
  · exact (OnlyRecords.cancel _ _).world

/-- Dispatches in a row. -/
theorem sole_dispatch (ts : List TaskId) (hgo : stopped stage = false)
    (hwaiting : stage.waiting = ts) :
    SoleInterleaving s (m.withStage stage)
      ((dispatch s ts m stage).1.withStage (dispatch s ts m stage).2) := by
  induction ts generalizing m stage with
  | nil => exact .refl
  | cons t rest ih =>
      unfold dispatch
      split
      · next hroom =>
          have hmove := Move.dispatch (s := s) (m := m.withStage stage) rfl hwaiting hgo hroom
          rw [dispatchOne_withStage] at hmove
          have hworld := (OnlyRecords.dispatchOne s m stage t rest).world
          have hrest := ih (m := (dispatchOne s m stage t rest).1)
            ((stopped_dispatchOne s m stage t rest).trans hgo) (waiting_dispatchOne s m stage t rest)
          exact .head ⟨hmove, Or.inl hworld⟩ hrest
      · exact .refl

theorem bound_pos (s : Setup) (level : Level) : 0 < bound s level := by
  unfold bound
  split
  · exact Nat.le_max_right _ _
  · exact Nat.one_pos

/-- A level with nobody to attend to is empty. -/
theorem flights_eq_nil (h : stage.Orderly) (hatt : stage.attended = []) : stage.flights = [] := by
  refine List.eq_nil_iff_forall_not_mem.mpr fun e he => ?_
  have hmem := h.attended _ (List.mem_map_of_mem he)
  rw [hatt] at hmem
  cases hmem

theorem nextDue_eq_none_iff {zs : List Sleeper} : nextDue zs = none ↔ zs = [] := by
  cases zs <;> simp [nextDue]

/-- **What a step is**, and when it is that. -/
inductive Stepped (s : Setup) (m : Machine) : Machine → Prop
  | begin {level : Level} {rest : List Level} (hstage : m.stage = none)
      (hlevels : m.levels = level :: rest) : Stepped s m (m.beginLevel level rest)
  | turn {stage : Stage} {id : Nat} (hstage : m.stage = some stage) (hactive : id ∈ stage.active) :
      Stepped s m (m.turn s stage id (stage.active.erase id))
  | dispatch {stage : Stage} (hstage : m.stage = some stage) (hactive : stage.active = [])
      (hcan : canDispatch s stage = true) :
      Stepped s m ((dispatch s stage.waiting m stage).1.withStage (dispatch s stage.waiting m stage).2)
  | tick {stage : Stage} {due : Nat} (hstage : m.stage = some stage) (hactive : stage.active = [])
      (hdue : nextDue stage.asleep = some due) : Stepped s m (m.tick stage due)
  | settle {stage : Stage} (hstage : m.stage = some stage) (hactive : stage.active = [])
      (hcan : ¬ canDispatch s stage = true) (hasleep : stage.asleep = []) :
      Stepped s m (m.settle stage)

theorem stepped (h : step s m = some m') : Stepped s m m' := by
  unfold step at h
  split at h
  · next hstage =>
      split at h
      · cases h
      · next hlevels =>
          cases h
          exact .begin hstage hlevels
  · next stage hstage =>
      split at h
      · next id rest hactive =>
          cases h
          have hmem : id ∈ stage.active := hactive ▸ List.mem_cons_self
          have hturn : Stepped s m _ := .turn hstage hmem
          rwa [hactive, List.erase_cons_head] at hturn
      · next hactive =>
          split at h
          · next hcan =>
              cases h
              exact .dispatch hstage hactive hcan
          · next hcan =>
              split at h
              · next hdue =>
                  cases h
                  exact .tick hstage hactive hdue
              · next hdue =>
                  cases h
                  exact .settle hstage hactive hcan (nextDue_eq_none_iff.mp hdue)

/-- **A step is a few moves**, and nobody else uses the pool or the memory service meanwhile. -/
theorem sole_step (ho : m.Orderly) (h : step s m = some m') : SoleInterleaving s m m' := by
  cases stepped h with
  | begin hstage hlevels => exact .single ⟨.begin hstage hlevels, Or.inl (world_beginLevel ..)⟩
  | turn hstage hactive => exact .single ⟨.turn hstage hactive, Or.inr ⟨_, _, hstage, rfl⟩⟩
  | tick hstage _ _ => exact .single ⟨.tick _ hstage, Or.inl rfl⟩
  | @dispatch stage hstage _ hcan =>
      simp only [canDispatch, Bool.and_eq_true, Bool.not_eq_true'] at hcan
      have hself : m.withStage stage = m := by rw [withStage, ← hstage]
      have hmoves := sole_dispatch (s := s) (m := m) stage.waiting hcan.1.2 rfl
      rwa [hself] at hmoves
  | @settle stage hstage hactive hcan hasleep =>
      -- nobody is attended to, so no flight is left
      have hflights : stage.flights = [] :=
        flights_eq_nil (ho _ hstage) (by simp [Stage.attended, hactive, hasleep])
      refine .single ⟨.settle hstage hflights ?_, Or.inl (OnlyRecords.settle m stage).world⟩
      -- there is room, so what keeps a dispatch from happening is something else
      have hroom : stage.flights.length < bound s stage.level := by
        simpa [hflights] using bound_pos s stage.level
      simpa [canDispatch, hroom, Decidable.or_iff_not_imp_left] using hcan

theorem Orderly.interleaving (h : m.Orderly) (hm : Interleaving s m m') : m'.Orderly :=
  hm.invariant h fun _ _ => Orderly.move

/-- **Any number of steps.** -/
abbrev Steps (s : Setup) : Machine → Machine → Prop :=
  Relation.ReflTransGen fun m m' => step s m = some m'

/-- The machine after a number of steps, unless the execution ends before. -/
def advance (s : Setup) : Nat → Machine → Machine
  | 0, m => m
  | n + 1, m =>
    match step s m with
    | none => m
    | some m => advance s n m

theorem steps_advance (s : Setup) (n : Nat) (m : Machine) : Steps s m (advance s n m) := by
  induction n generalizing m with
  | zero => exact .refl
  | succ n ih =>
      unfold advance
      split
      · exact .refl
      · next m₁ hstep => exact .head hstep (ih m₁)

/-- **In an execution by steps, nobody else uses the pool or the memory service.** -/
theorem sole_of_steps (ho : m.Orderly) (h : Steps s m m') : SoleInterleaving s m m' := by
  induction h with
  | refl => exact .refl
  | tail _ hlast ih => exact ih.trans (sole_step (ho.interleaving ih.interleaving) hlast)

/-- In an execution by steps, nobody else uses the pool. -/
theorem own_of_steps (ho : m.Orderly) (h : Steps s m m') : OwnInterleaving s m m' :=
  (sole_of_steps ho h).own

/-- **An execution by steps is an interleaving.** -/
theorem interleaving_of_steps (ho : m.Orderly) (h : Steps s m m') : Interleaving s m m' :=
  (own_of_steps ho h).interleaving

/-- A run takes steps until the execution has ended. -/
theorem steps_of_run {fuel : Nat} (h : run s fuel m = some m') :
    Steps s m m' ∧ m'.isDone = true := by
  induction fuel generalizing m with
  | zero =>
      unfold run at h
      split at h
      · next hdone =>
          cases h
          exact ⟨.refl, hdone⟩
      · cases h
  | succ fuel ih =>
      unfold run at h
      split at h
      · next hnone =>
          cases h
          exact ⟨.refl, isDone_iff_step_eq_none.mpr hnone⟩
      · next m₁ hstep =>
          obtain ⟨hrest, hdone⟩ := ih h
          exact ⟨.head hstep hrest, hdone⟩

end Machine

/-- The run behind a run of an engine. -/
theorem Engine.exists_run {e : Engine} {fuel : Nat} {w : Workflow} {world : World}
    {schedule : Schedule} {x : Execution} (hplan : w.plan world.pool = .ok schedule)
    (h : e.run fuel w world = .ok (some x)) :
    ∃ m, Machine.run (e.setup w schedule) fuel (Machine.start w schedule world) = some m ∧
      x = { result := m.result (e.setup w schedule), workflow := m.workflow, world := m.world } := by
  rw [run, hplan] at h
  have hexecute : e.execute fuel w schedule world = some x := Except.ok.inj h
  obtain ⟨m, hrun, rfl⟩ := Option.map_eq_some_iff.mp hexecute
  exact ⟨m, hrun, rfl⟩

/-- What an execution comes from. -/
theorem Engine.exists_machine_of_execute {e : Engine} {fuel : Nat} {w : Workflow} {world : World}
    {schedule : Schedule} {x : Execution} (h : e.execute fuel w schedule world = some x) :
    ∃ m, Machine.Steps (e.setup w schedule) (Machine.start w schedule world) m ∧ m.isDone = true ∧
      x = { result := m.result (e.setup w schedule), workflow := m.workflow, world := m.world } := by
  obtain ⟨m, hrun, rfl⟩ := Option.map_eq_some_iff.mp h
  obtain ⟨hsteps, hdone⟩ := Machine.steps_of_run hrun
  exact ⟨m, hsteps, hdone, rfl⟩

/-- What a run of an engine comes from. -/
theorem Engine.exists_machine {e : Engine} {fuel : Nat} {w : Workflow} {world : World}
    {schedule : Schedule} {x : Execution} (hplan : w.plan world.pool = .ok schedule)
    (h : e.run fuel w world = .ok (some x)) :
    ∃ m, Machine.Steps (e.setup w schedule) (Machine.start w schedule world) m ∧ m.isDone = true ∧
      x = { result := m.result (e.setup w schedule), workflow := m.workflow, world := m.world } := by
  rw [run, hplan] at h
  exact Engine.exists_machine_of_execute (Except.ok.inj h)

/-- A run executes the plan of its workflow. -/
theorem Engine.exists_execute_of_run {e : Engine} {fuel : Nat} {w : Workflow} {world : World}
    {x : Execution} (h : e.run fuel w world = .ok (some x)) :
    ∃ schedule, w.plan world.pool = .ok schedule ∧ e.execute fuel w schedule world = some x := by
  unfold run at h
  cases hplan : w.plan world.pool with
  | error error =>
      rw [hplan] at h
      cases h
  | ok schedule =>
      rw [hplan] at h
      exact ⟨schedule, rfl, Except.ok.inj h⟩

/-- An execution of an earlier plan that ends is one without the checks. -/
theorem Engine.execute_of_runPlan {e : Engine} {fuel : Nat} {w : Workflow} {world : World}
    {schedule : Schedule} {x : Execution} (h : e.runPlan fuel w schedule world = .ok (some x)) :
    e.execute fuel w schedule world = some x := by
  unfold runPlan at h
  split at h
  · split at h
    · cases h
    · exact Except.ok.inj h
  · cases h

end Foreman
