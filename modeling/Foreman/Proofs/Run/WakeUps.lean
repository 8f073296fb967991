import Foreman.Proofs.Pool.Index
import Foreman.Proofs.Run.Leases

/-!
# `Foreman.Proofs.Run.WakeUps` — no release of an agent is missed

A flight that finds every agent busy falls asleep until somebody gives an agent back. It must not miss
that: while it sleeps, no agent that could run its task has room. This holds because it falls asleep
only if there is no such agent (`Flight.atOnce_or_wait`), because an assignment to somebody else never
makes room (`Suitable.of_assign`), and because the only thing that does, a release, wakes all sleeping
searches. So at every moment a flight without an agent is either about to have its turn or has nobody to
hope for (`Waits`), and when time moves on, nobody has a turn.

As for the agents that are given back, nobody else may use the pool.

## Contents
- `Pool.Suitable.of_assign`: an assignment makes nobody suitable.
- `Flight.atOnce_or_wait`: searches in vain.
- **`Waits`**, with `Waits.turn` and `Waits.move`.
- **`Engine.waiting_is_work_conserving`**.
-/

namespace Foreman

open Machine

variable {w : Workflow} {s : Setup} {m m' : Machine} {stage : Stage} {f f' : Flight} {next : Next}
  {world world' : World} {p q : Pool} {agent : AgentId} {task : TaskId} {r : Requirements}
  {job : Job} {n : Nat}

/-! ## Suitable agents and assignments -/

namespace Pool

/-- An assignment makes nobody suitable. -/
theorem Suitable.of_assign {a : Agent} (h : q.Suitable r a) (hassign : p.assign agent task = .ok q) :
    ∃ b, p.Suitable r b := by
  obtain ⟨b, hb, ⟨-, rfl⟩ | ⟨-, hroom, rfl⟩⟩ := exists_of_assign hassign
  · exact ⟨a, h⟩
  · have hregistered := h.registered
    rw [NameMap.find?_insert] at hregistered
    split at hregistered
    · next hid =>
        -- the agent that got the task, as it was before
        obtain rfl := Option.some.inj hregistered
        exact ⟨b, by rw [← hid] at hb; exact hb, h.covers, hroom⟩
    · exact ⟨a, hregistered, h.covers, h.room⟩

end Pool

/-! ## Searches in vain -/

/-- **A flight that goes on without an agent** does so at once, or waits for a release since nobody has
    room for it. -/
theorem Flight.atOnce_or_wait {now : Nat} (hindexed : world.pool.Indexed)
    (hresume : f.resume s now world = (next, world')) (hnext : next.flight? = some f')
    (hnone : f'.phase.lease = none) :
    next = .atOnce f' ∨ (∃ due, next = .wait due f') ∧ world'.pool = world.pool ∧
      ∀ a, ¬ world.pool.Suitable f'.job.requirements a := by
  -- it held nobody before
  have hfree : f.phase.lease = none := by
    rw [Option.eq_none_iff_forall_ne_some]
    intro agent hagent
    have hlease := (resumes_resume s now f world).lease agent hagent
    rw [hresume, Next.lease_of_flight? hnext, hnone] at hlease
    cases hlease
  have hsearches := searches_resume s now hfree world
  rw [hresume] at hsearches
  cases hsearches with
  | leased _ _ | found _ _ _ | lost _ _ =>
      cases hnext
      exact Or.inl rfl
  | busy _ h hfind _ =>
      cases hnext
      exact Or.inr ⟨⟨_, rfl⟩, h.pool, hindexed.findSuitable_eq_none_iff.mp hfind⟩
  | impossible _ _ _ _ => cases hnext

/-! ## Waiting along an execution -/

/-- A flight has its turn coming, or sleeps until a release and could not use anyone now. -/
def Stage.Attends (stage : Stage) (p : Pool) (n : Nat) (r : Requirements) : Prop :=
  n ∈ stage.active ∨ (∃ due, ⟨n, due, true⟩ ∈ stage.asleep) ∧ ∀ a, ¬ p.Suitable r a

/-- **Whoever is without an agent is attended to**, and nobody else uses the pool. -/
structure Waits (m : Machine) : Prop where
  indexed : m.world.pool.Indexed
  spares : ∀ e ∈ m.flights, ∀ activity ∈ e.2.phase.course, activity.SparesPool
  attends : ∀ stage, m.stage = some stage → ∀ e ∈ stage.flights, e.2.phase.lease = none →
    stage.Attends m.world.pool e.1 e.2.job.requirements

namespace Stage.Attends

variable {stage' : Stage}

/-- Nobody is forgotten as long as the level still knows him and nobody becomes suitable. -/
theorem mono (h : stage.Attends p n r) (hactive : n ∈ stage.active → n ∈ stage'.active)
    (hasleep : stage.asleep ⊆ stage'.asleep)
    (hpool : ∀ a, q.Suitable r a → ∃ b, p.Suitable r b) : stage'.Attends q n r := by
  rcases h with h | ⟨⟨due, hdue⟩, hnone⟩
  · exact Or.inl (hactive h)
  · refine Or.inr ⟨⟨due, hasleep hdue⟩, fun a ha => ?_⟩
    obtain ⟨b, hb⟩ := hpool a ha
    exact hnone b hb

/-- **A release wakes everyone who waits for it**, whatever it does to the pool. -/
theorem wake_onRelease (h : stage.Attends p n r) (q : Pool) :
    (Machine.wake stage Sleeper.onRelease).Attends q n r := by
  rcases h with h | ⟨⟨due, hdue⟩, -⟩
  · exact Or.inl (List.mem_append_left _ h)
  · refine Or.inl (List.mem_append_right _ ?_)
    exact List.mem_map.mpr ⟨_, List.mem_filter.mpr ⟨hdue, rfl⟩, rfl⟩

end Stage.Attends

namespace Waits

/-- **Whatever else happens**: flights that have just been dispatched, and those that wake up, have a
    turn coming, and nobody becomes suitable. -/
theorem elsewhere (h : Waits m) {dispatched : List (Nat × Flight)} (hno : NoTurn s m m' dispatched)
    (hpool : m'.world.pool = m.world.pool) : Waits m' := by
  constructor
  case indexed =>
    rw [hpool]
    exact h.indexed
  case spares =>
    intro e he
    rcases List.mem_append.mp (hno.flights ▸ he) with hold | hnew
    · exact h.spares e hold
    · simp [hno.seeking e hnew, Phase.course]
  case attends =>
    intro stage' hstage' e he hnone
    rw [← flights_of_stage hstage', hno.flights, List.mem_append] at he
    rcases he with hold | hnew
    · obtain hnone | ⟨stage, hstage⟩ := Option.eq_none_or_eq_some m.stage
      · rw [flights_of_stage_none hnone] at hold
        cases hold
      · obtain ⟨hactive, hasleep⟩ := hno.attended stage stage' hstage hstage'
        rw [flights_of_stage hstage] at hold
        rcases h.attends stage hstage e hold hnone with hin | ⟨⟨due, hdue⟩, hnobody⟩
        · exact Or.inl (hactive hin)
        · rw [hpool]
          exact (hasleep _ hdue).symm.imp_right fun hsleeps => ⟨⟨due, hsleeps⟩, hnobody⟩
    · exact Or.inl (hno.linedUp stage' hstage' e hnew)

/-- What an activity that leases an agent, if any, leaves of the pool. -/
theorem pool_of_leases {out : Next × World} (h : f.Leases world out) (hindexed : world.pool.Indexed) :
    out.2.pool.Indexed ∧ ∀ r a, out.2.pool.Suitable r a → ∃ b, world.pool.Suitable r b := by
  obtain ⟨-, hsame⟩ | ⟨-, agent, -, hassign⟩ := h.lease
  · rw [hsame]
    exact ⟨hindexed, fun r a ha => ⟨a, ha⟩⟩
  · exact ⟨hindexed.change (Pool.change_of_assign hassign), fun r a ha => ha.of_assign hassign⟩

theorem indexed_handBack (h : world.pool.Indexed) (task : TaskId) (leased : Option AgentId) :
    (world.handBack task leased).1.pool.Indexed := by
  rcases world.handBack_world task leased with hsame | ⟨agent, pool, hrelease, hreleased⟩
  · rw [hsame]
    exact h
  · rw [hreleased]
    exact h.change (Pool.change_of_release hrelease)

/-- **A turn**: the flight itself has looked at the pool, and the others learn of a release. -/
theorem turn (h : Waits m) (hrunner : s.runner.SparesPool) (hstage : m.stage = some stage) (n : Nat) :
    Waits (m.turn s stage n (stage.active.erase n)) := by
  have hspares : ∀ e ∈ stage.flights, ∀ activity ∈ e.2.phase.course, activity.SparesPool := by
    rw [← flights_of_stage hstage]
    exact h.spares
  have hleases : ∀ f, (n, f) ∈ stage.flights →
      f.Leases m.world (f.resume s m.clock m.world) := fun f hmem =>
    Flight.leases_resume hrunner (hspares _ hmem) m.clock m.world
  have hactive : ∀ e : Nat × Flight, e.1 ≠ n → e.1 ∈ stage.active → e.1 ∈ stage.active.erase n :=
    fun e hne => (List.mem_erase_of_ne hne).mpr
  have hturned := turned s m stage n
  generalize m.turn s stage n (stage.active.erase n) = after at hturned ⊢
  cases hturned with
  | absent habsent =>
      refine ⟨h.indexed, hspares, ?_⟩
      rintro _ ⟨⟩ e he hnone
      have hne : e.1 ≠ n := by
        rintro rfl
        exact habsent e.2 he
      exact (h.attends stage hstage e he hnone).mono (hactive e hne) (List.Subset.refl _)
        fun a ha => ⟨a, ha⟩
  | @goesOn f f' next world events hmem hresume hnext hcalls =>
      have hlease := hleases f hmem
      have hpool := pool_of_leases hlease h.indexed
      have hcourse := hlease.spares
      rw [hresume] at hpool hcourse
      rw [Next.course_of_flight? hnext] at hcourse
      refine ⟨hpool.1, ?_, ?_⟩
      · intro e he
        rcases mem_setFlight he with rfl | ⟨hold, -⟩
        · exact hcourse
        · exact hspares e hold
      · rintro _ ⟨⟩ e he hnone
        rcases mem_setFlight he with rfl | ⟨hold, hne⟩
        · -- if it does not go on at once, it has just found that nobody has room
          obtain rfl | ⟨⟨due, rfl⟩, hsame, hnobody⟩ :=
            Flight.atOnce_or_wait h.indexed hresume hnext hnone
          · exact Or.inl (List.mem_cons_self ..)
          · refine Or.inr ⟨⟨due, List.mem_append_right _ (List.mem_singleton.mpr rfl)⟩, ?_⟩
            rw [← hsame] at hnobody
            exact hnobody
        · exact (h.attends stage hstage e hold hnone).mono
            (fun hin => next.subset_queue n _ (hactive e hne hin)) (List.subset_append_left _ _)
            (hpool.2 _)
  | @lands f r leased world hmem hresume =>
      have hlease := hleases f hmem
      have hpool := pool_of_leases hlease h.indexed
      rw [hresume] at hpool
      have hothers : ∀ e ∈ (stage.landing n r).flights, e ∈ stage.flights ∧ e.1 ≠ n := fun e he =>
        ⟨(List.mem_filter.mp he).1, by simpa using (List.mem_filter.mp he).2⟩
      refine ⟨indexed_handBack hpool.1 _ _, ?_, ?_⟩
      · intro e he
        rw [flights, after, Option.map_some, Option.getD_some, flights_wakeAfter] at he
        exact hspares e (hothers e he).1
      · rintro _ ⟨⟩ e he hnone
        rw [flights_wakeAfter] at he
        obtain ⟨hold, hne⟩ := hothers e he
        have hlanding : (stage.landing n r).Attends world.pool e.1 e.2.job.requirements :=
          (h.attends stage hstage e hold hnone).mono (hactive e hne) (List.Subset.refl _)
            (hpool.2 _)
        -- the agent that is given back may suit others, but then all of them wake up
        cases leased with
        | none => exact hlanding
        | some agent => exact hlanding.wake_onRelease _

/-- **Every move of an execution by itself.** -/
theorem move (hrunner : s.runner.SparesPool) (h : Waits m) (hm : OwnMove s m m') : Waits m' := by
  rcases hm.noTurn_or_turn with ⟨hpool, dispatched, hno⟩ | ⟨stage, id, hstage, rfl⟩
  · exact h.elsewhere hno hpool
  · exact h.turn hrunner hstage id

end Waits

/-! ## At the end of every moment -/

/-- No flight is without an agent while there is a suitable one. -/
def NobodyWaitsInVain (m : Machine) : Prop :=
  ∀ e ∈ m.flights, e.2.phase.lease = none → ∀ a, ¬ m.world.pool.Suitable e.2.job.requirements a

/-- Nobody has a turn. -/
def Idle (m : Machine) : Prop := ∀ stage, m.stage = some stage → stage.active = []

theorem Waits.nobodyWaitsInVain (h : Waits m) (hidle : Idle m) : NobodyWaitsInVain m := by
  intro e he hnone
  cases hstage : m.stage with
  | none => simp [flights, hstage] at he
  | some stage =>
      rw [flights_of_stage hstage] at he
      rcases h.attends stage hstage e he hnone with hactive | ⟨-, hnobody⟩
      · rw [hidle stage hstage] at hactive
        cases hactive
      · exact hnobody

/-- Time does not pass while somebody has a turn. -/
theorem idle_of_clock_lt (h : step s m = some m') (hclock : m.clock < m'.clock) : Idle m := by
  intro stage hstage
  cases stepped h with
  | begin hnone _ => cases hnone.symm.trans hstage
  | @turn stage' id _ _ =>
      obtain ⟨world, after, events, heq⟩ := exists_after s m stage' id
      rw [heq] at hclock
      exact absurd hclock (Nat.lt_irrefl _)
  | dispatch hstage' hactive _ | tick hstage' hactive _ | settle hstage' hactive _ _ =>
      obtain rfl := Option.some.inj (hstage'.symm.trans hstage)
      exact hactive

/-- **Waiting for an agent is work-conserving.** The runner makes no calls of the pool, which has come
    about by calls. Then, whatever the workflow, its schedule, the settings, the faults of the memory
    service and the assignments lost to others are: in any order of moves while nobody else uses the
    pool, no task waits while a registered agent covers its requirements and has room, unless somebody
    has a turn; and so it is in an execution by steps whenever the clock is about to move on. -/
theorem Engine.waiting_is_work_conserving (e : Engine) (w : Workflow) (schedule : Schedule)
    {calls : List PoolCall} (hpool : world.pool = Pool.empty.afterCalls calls)
    (hrunner : e.runner.SparesPool) :
    (∀ m, OwnInterleaving (e.setup w schedule) (Machine.start w schedule world) m →
      Idle m → NobodyWaitsInVain m) ∧
    ∀ m m', Steps (e.setup w schedule) (Machine.start w schedule world) m →
      Machine.step (e.setup w schedule) m = some m' → m.clock < m'.clock → NobodyWaitsInVain m := by
  have hstart : Waits (Machine.start w schedule world) :=
    ⟨hpool ▸ Pool.Indexed.afterCalls calls, by simp [Machine.start, flights],
      fun _ hstage => by cases hstage⟩
  have hall : ∀ m, OwnInterleaving (e.setup w schedule) (Machine.start w schedule world) m →
      Waits m := fun m hm => by
    induction hm with
    | refl => exact hstart
    | tail _ hlast ih => exact ih.move hrunner hlast
  refine ⟨fun m hm => (hall m hm).nobodyWaitsInVain, fun m m' hm hstep hclock => ?_⟩
  have hown := own_of_steps (orderly_of_stage_none rfl) hm
  exact (hall m hown).nobodyWaitsInVain (idle_of_clock_lt hstep hclock)

/-- An engine whose runner takes some time. -/
def engineTaking (length : Duration) : Engine :=
  { runner := fun _ _ => ⟨[.pause length], .succeed ⟨none, []⟩⟩ }

/-- The only agent is at work, and the other task waits for it. -/
theorem waiting_is_work_conserving_twins :
    ∃ schedule m, twins.plan lonePool = .ok schedule ∧
      m = Machine.advance ((engineTaking (.ofMillis 5)).setup twins schedule) 8
        (Machine.start twins schedule { pool := lonePool }) ∧
      m.flights.map (fun e => (e.2.job.task, e.2.phase.lease)) =
        [("left", some "solo"), ("right", none)] ∧ NobodyWaitsInVain m := by
  refine ⟨_, _, rfl, rfl, rfl, ?_⟩
  have hpool : ({ pool := lonePool } : World).pool = Pool.empty.afterCalls
      [.register { id := "solo", capabilities := .ofList ["rust"] }] := rfl
  have hrunner : (engineTaking (.ofMillis 5)).runner.SparesPool := fun _ _ activity hcourse => by
    obtain rfl := List.mem_singleton.mp hcourse
    trivial
  exact (Engine.waiting_is_work_conserving _ twins _ hpool hrunner).2 _ _ (steps_advance _ 8 _) rfl
    (by decide)

end Foreman
