import Foreman.Proofs.Run.Attempts

/-!
# `Foreman.Proofs.Run.AttemptLog` — the calls of an execution, and what results tell of them

Flights account for the attempts of their tasks one by one (`Flight.tells_resume`). In an execution they
take turns, and the calls of all of them are in one list. Since a task has one flight at most, each call
belongs to the flight of its task or to a result (`Logged`), so attempts of other tasks do not matter to a
flight. Neither does time that passes while it sleeps: it goes on when it is due, or earlier if it still
looks for an agent (`Stage.Accounts`). For that, nobody may be attended to twice (`Stage.Queued`).

At the end every result tells of the attempts of its task. It has counted them, unless its bookkeeping was
cut off by a panic of the memory service: then it reports none, whether there were any or not
(`Engine.attempts_are_counted`, `attempts_are_lost_to_panics`).

## Contents
- `Machine.calls`, and `Move.world_calls`: no call is missed.
- `Stage.Queued`: nobody is attended to twice.
- `Stage.Accounts` and **`Logged`**, with one lemma for each kind of move.
- **`CutMove`**: moves in which only some panics occur; `logged_of_moves`.
- **`Counted`**, **`Engine.attempts_are_counted`** and **`attempts_are_lost_to_panics`**.
-/

namespace Foreman

open Machine Relation

variable {w : Workflow} {s : Setup} {m m' : Machine} {stage : Stage} {f f' : Flight} {next : Next}
  {schedule : Schedule} {world : World} {first : List Call} {as : List Attempt} {r : TaskResult}
  {cut : String → Prop} {n most now now' : Nat} {t : TaskId} {rest : List TaskId}

/-! ## Calls so far -/

/-- The calls of the runner in an execution so far, the latest first. -/
def Machine.calls (m : Machine) : List Call := m.journal.filterMap Event.call?

/-- The tasks in flight. -/
def Machine.airborne (m : Machine) : List TaskId := m.flights.map fun e => e.2.job.task

namespace Machine

theorem calls_append {events : List Event} (h : m'.journal = events ++ m.journal) :
    m'.calls = events.filterMap Event.call? ++ m.calls := by
  rw [calls, calls, h, List.filterMap_append]

theorem calls_after (m : Machine) (world : World) (stage : Stage) (events : List Event) :
    (m.after world stage events).calls = events.filterMap Event.call? ++ m.calls := calls_append rfl

theorem landings_after (m : Machine) (world : World) (stage : Stage) (events : List Event) :
    (m.after world stage events).landings = m.landings ++ events.reverse.filterMap Event.result? :=
  landings_append rfl

/-- Notes about illegal steps are no calls. -/
theorem OnlyRecords.calls_eq (h : OnlyRecords m m') : m'.calls = m.calls := by
  obtain ⟨steps, hjournal⟩ := h.journal
  have hnone : (steps.map Event.illegalStep).filterMap Event.call? = [] := by
    rw [List.filterMap_map]
    exact List.filterMap_eq_nil_iff.mpr fun _ _ => rfl
  rw [calls_append hjournal, hnone, List.nil_append]

theorem airborne_of_stage (hstage : m.stage = some stage) : m.airborne = stage.airborne := by
  rw [airborne, flights_of_stage hstage, Stage.airborne, Stage.roster, List.map_map]
  rfl

theorem airborne_after (m : Machine) (world : World) (stage : Stage) (events : List Event) :
    (m.after world stage events).airborne = stage.airborne := airborne_of_stage rfl

theorem airborne_subset {stage' : Stage} (hstage : m.stage = some stage)
    (hstage' : m'.stage = some stage') (hsub : stage.airborne ⊆ stage'.airborne) :
    m.airborne ⊆ m'.airborne := by
  rw [airborne_of_stage hstage, airborne_of_stage hstage']
  exact hsub

theorem calls_beginLevel (m : Machine) (level : Level) (rest : List Level) :
    (m.beginLevel level rest).calls = m.calls := by
  unfold beginLevel
  split
  · rfl
  · exact (OnlyRecords.cancel level.tasks m).calls_eq

/-- The runner is called in turns only. -/
theorem Move.calls_eq_or_turn (hm : Move s m m') :
    (m'.calls = m.calls ∧ m'.world.calls = m.world.calls) ∨
      ∃ stage id, m.stage = some stage ∧ m' = m.turn s stage id (stage.active.erase id) := by
  cases hm with
  | turn hstage _ => exact Or.inr ⟨_, _, hstage, rfl⟩
  | @begin level rest _ _ =>
      exact Or.inl ⟨calls_beginLevel m level rest, congrArg World.calls (world_beginLevel m level rest)⟩
  | @dispatch stage t rest _ _ _ _ =>
      have hrecords := OnlyRecords.dispatchOne s m stage t rest
      exact Or.inl ⟨hrecords.calls_eq, congrArg World.calls hrecords.world⟩
  | @settle stage _ _ _ =>
      have hrecords := OnlyRecords.settle m stage
      exact Or.inl ⟨hrecords.calls_eq, congrArg World.calls hrecords.world⟩
  | tick _ _ => exact Or.inl ⟨rfl, rfl⟩
  | surroundings hcalls => exact Or.inl ⟨rfl, hcalls⟩

/-- **No call is missed.** -/
theorem Move.world_calls (hm : Move s m m') (h : m.world.calls = m.calls ++ first) :
    m'.world.calls = m'.calls ++ first := by
  rcases hm.calls_eq_or_turn with ⟨hcalls, hworld⟩ | ⟨stage, id, -, rfl⟩
  · rw [hcalls, hworld, h]
  · have hturned := turned s m stage id
    generalize m.turn s stage id (stage.active.erase id) = after at hturned ⊢
    cases hturned with
    | absent _ => exact h
    | @goesOn f f' next world events hmem hresume hnext hcalls =>
        rw [calls_after]
        rcases hcalls with ⟨rfl, hsame⟩ | ⟨call, -, rfl, hcons⟩
        · exact hsame.trans h
        · show world.calls = call :: m.calls ++ first
          rw [hcons, h, List.cons_append]
    | @lands f r leased world hmem hresume =>
        have hresumes := Flight.resumes_resume s m.clock f m.world
        rw [hresume] at hresumes
        have hsame : world.calls = m.world.calls := hresumes.calls.resolve_right fun h => by cases h.1
        have hnone : (.landed r :: (world.handBack f.job.task leased).2).filterMap Event.call? = [] := by
          rcases world.handBack_events f.job.task leased with hevents | ⟨e, hevents⟩ <;>
            rw [hevents] <;> rfl
        rw [calls_after, hnone, List.nil_append]
        exact (world.calls_handBack f.job.task leased).trans (hsame.trans h)

end Machine

/-! ## Nobody is attended to twice -/

/-- A level in which a flight has had its turn and goes on. -/
def Stage.resuming (stage : Stage) (n : Nat) (next : Next) (f : Flight) : Stage :=
  { setFlight stage n f with
    active := next.queue n (stage.active.erase n)
    asleep := stage.asleep ++ next.sleepers n }

namespace Next

/-- A flight that goes on is attended to once more, next to the others. -/
theorem queue_perm (hnext : next.flight? = some f) (n : Nat) (others asleep : List Nat) :
    (next.queue n others ++ (asleep ++ (next.sleepers n).map Sleeper.flight)).Perm
      (n :: (others ++ asleep)) := by
  cases next with
  | land r leased => cases hnext
  | atOnce f' => simp [queue, sleepers]
  | again f' => simp [queue, sleepers]
  | sleep due f' | wait due f' =>
      rw [← List.append_assoc]
      exact List.perm_append_singleton _ _

/-- Only the others and the flight itself are active. -/
theorem mem_queue {k : Nat} {others : List Nat} (h : k ∈ next.queue n others) : k = n ∨ k ∈ others := by
  cases next with
  | atOnce f' => exact List.mem_cons.mp h
  | again f' => exact (List.mem_append.mp h).symm.imp_left List.mem_singleton.mp
  | sleep due f' | wait due f' | land r leased => exact Or.inr h

end Next

/-- **Nobody is active or asleep twice**, and only flights that were dispatched are. -/
structure Stage.Queued (stage : Stage) : Prop where
  nodup : stage.attended.Nodup
  numbered : ∀ n ∈ stage.attended, n < stage.nextFlight

namespace Stage.Queued

variable {stage' : Stage}

theorem of_subperm (h : stage.Queued) (hsub : stage'.attended.Subperm stage.attended)
    (hnext : stage'.nextFlight = stage.nextFlight) : stage'.Queued := by
  refine ⟨?_, fun n hn => hnext ▸ h.numbered n (hsub.subset hn)⟩
  obtain ⟨l, hl, hsub⟩ := hsub
  exact hl.nodup_iff.mp (h.nodup.sublist hsub)

/-- Waking flights changes their places only. -/
theorem wake (h : stage.Queued) (selected : Sleeper → Bool) : (wake stage selected).Queued := by
  refine h.of_subperm (List.Perm.subperm ?_) rfl
  have hperm := (List.filter_append_perm selected stage.asleep).map Sleeper.flight
  rw [List.map_append] at hperm
  rw [attended, attended, Machine.wake, List.append_assoc]
  exact hperm.append_left stage.active

theorem wakeAfter (h : stage.Queued) (leased : Option AgentId) : (wakeAfter stage leased).Queued := by
  unfold Machine.wakeAfter
  split
  · exact h.wake _
  · exact h

/-- A flight has its turn, and is active or asleep again. -/
theorem turn (h : stage.Queued) (hactive : n ∈ stage.active) (hnext : next.flight? = some f') :
    (stage.resuming n next f').Queued := by
  refine h.of_subperm (List.Perm.subperm ?_) rfl
  rw [attended, Stage.resuming, List.map_append]
  exact (Next.queue_perm hnext n _ _).trans ((List.perm_cons_erase hactive).symm.append_right _)

/-- A flight has its turn, and is not attended to any more. -/
theorem leave (h : stage.Queued) (hactive : stage'.active = stage.active.erase n)
    (hasleep : stage'.asleep = stage.asleep) (hnext : stage'.nextFlight = stage.nextFlight) :
    stage'.Queued := by
  refine h.of_subperm ?_ hnext
  rw [attended, attended, hactive, hasleep]
  exact (List.erase_sublist.append_right _).subperm

/-- A flight is dispatched. -/
theorem boarding (h : stage.Queued) (f : Flight) (rest : List TaskId) :
    (stage.boarding f rest).Queued := by
  have hperm : (stage.boarding f rest).attended.Perm (stage.nextFlight :: stage.attended) := by
    rw [attended, Stage.boarding, List.append_assoc, attended]
    exact List.perm_middle
  constructor
  case nodup =>
    refine hperm.nodup_iff.mpr (List.nodup_cons.mpr ⟨fun hmem => ?_, h.nodup⟩)
    exact Nat.lt_irrefl _ (h.numbered _ hmem)
  case numbered =>
    intro n hn
    rcases List.mem_cons.mp (hperm.mem_iff.mp hn) with rfl | hn
    · exact Nat.lt_succ_self _
    · exact Nat.lt_succ_of_lt (h.numbered n hn)

/-- Who is active does not sleep. -/
theorem not_asleep (h : stage.Queued) (hactive : n ∈ stage.active) :
    n ∉ stage.active.erase n ∧ ∀ z ∈ stage.asleep, z.flight ≠ n := by
  obtain ⟨hnodup, -, hapart⟩ := List.nodup_append.mp h.nodup
  refine ⟨hnodup.not_mem_erase, ?_⟩
  rintro z hz rfl
  exact hapart _ hactive _ (List.mem_map_of_mem hz) rfl

end Stage.Queued

/-! ## Accounts of all flights -/

/-- **A flight of a level accounts for the attempts of its task**: for now if it is active, and otherwise
    for the time at which it is due. Only while it looks for an agent may a release wake it before. -/
structure Stage.Accounts (stage : Stage) (most now : Nat) (as : List Attempt) (e : Nat × Flight) :
    Prop where
  active : e.1 ∈ stage.active → e.2.phase.Accounts most now as
  asleep : ∀ z ∈ stage.asleep, z.flight = e.1 →
    e.2.phase.Accounts most z.due as ∧ (z.onRelease = true → e.2.phase = .seeking)

namespace Stage.Accounts

variable {stage' : Stage} {e : Nat × Flight}

/-- With fewer flights attended to. -/
theorem of_subset (h : stage.Accounts most now as e) (hactive : stage'.active ⊆ stage.active)
    (hasleep : stage'.asleep = stage.asleep) : stage'.Accounts most now as e :=
  ⟨fun hin => h.active (hactive hin), hasleep ▸ h.asleep⟩

/-- Whoever wakes up is due, or still looks for an agent. -/
theorem wake {selected : Sleeper → Bool} (h : stage.Accounts most now as e) (hle : now ≤ now')
    (hselected : ∀ z, selected z = true → z.onRelease = true ∨ z.due ≤ now') :
    (wake stage selected).Accounts most now' as e := by
  refine ⟨fun hactive => ?_, fun z hz => h.asleep z (List.mem_filter.mp hz).1⟩
  rcases List.mem_append.mp hactive with hactive | hwoken
  · exact (h.active hactive).mono hle
  · obtain ⟨z, hz, hflight⟩ := List.mem_map.mp hwoken
    obtain ⟨hz, hsel⟩ := List.mem_filter.mp hz
    obtain ⟨haccounts, hseeking⟩ := h.asleep z hz hflight
    rcases hselected z hsel with hrelease | hdue
    · rw [hseeking hrelease] at haccounts ⊢
      exact haccounts
    · exact haccounts.mono hdue

/-- A release wakes those who wait for it. -/
theorem wakeAfter (h : stage.Accounts most now as e) (leased : Option AgentId) :
    (wakeAfter stage leased).Accounts most now as e := by
  unfold Machine.wakeAfter
  split
  · exact h.wake (Nat.le_refl _) fun z hz => Or.inl hz
  · exact h

/-- **After its own turn**, a flight is active or asleep again. -/
theorem of_tells (hnot : n ∉ stage.active.erase n ∧ ∀ z ∈ stage.asleep, z.flight ≠ n)
    (htells : next.Tells s cut now as) (hnext : next.flight? = some f') :
    (stage.resuming n next f').Accounts s.maxAttempts now as (n, f') := by
  cases next with
  | land r leased => cases hnext
  | atOnce f'' | again f'' =>
      obtain rfl := Option.some.inj hnext
      exact ⟨fun _ => htells, fun z hz hid =>
        absurd hid (hnot.2 z (by simpa [Stage.resuming, Next.sleepers] using hz))⟩
  | sleep due f'' =>
      obtain rfl := Option.some.inj hnext
      constructor
      case active => exact fun hactive => absurd hactive hnot.1
      case asleep =>
        intro z hz hid
        rcases List.mem_append.mp hz with hold | hnew
        · exact absurd hid (hnot.2 z hold)
        · rw [List.mem_singleton.mp hnew]
          exact ⟨htells, by simp⟩
  | wait due f'' =>
      obtain rfl := Option.some.inj hnext
      constructor
      case active => exact fun hactive => absurd hactive hnot.1
      case asleep =>
        intro z hz hid
        rcases List.mem_append.mp hz with hold | hnew
        · exact absurd hid (hnot.2 z hold)
        · exact ⟨htells.1 ▸ htells.2, fun _ => htells.1⟩

/-- Another flight has its turn, and is active or asleep again. -/
theorem of_other (h : stage.Accounts most now as e) (hne : e.1 ≠ n) (next : Next) (f' : Flight) :
    (stage.resuming n next f').Accounts most now as e := by
  have hsleepers : ∀ z ∈ next.sleepers n, z.flight = n := fun z hz => by
    cases next <;> simp_all [Next.sleepers]
  refine ⟨fun hactive => ?_, fun z hz hid => ?_⟩
  · rcases Next.mem_queue hactive with hself | hold
    · exact absurd hself hne
    · exact h.active (List.mem_of_mem_erase hold)
  · rcases List.mem_append.mp hz with hold | hnew
    · exact h.asleep z hold hid
    · exact absurd (hid.symm.trans (hsleepers z hnew)) hne

/-- Another flight is dispatched. -/
theorem boarding (h : stage.Accounts most now as e) (hne : e.1 ≠ stage.nextFlight) (f : Flight)
    (rest : List TaskId) : (stage.boarding f rest).Accounts most now as e := by
  refine ⟨fun hactive => h.active ?_, h.asleep⟩
  exact (List.mem_append.mp hactive).resolve_right fun hnew => hne (List.mem_singleton.mp hnew)

/-- A flight that was just dispatched. -/
theorem dispatched (hqueued : stage.Queued) (hphase : f.phase = .seeking) (rest : List TaskId) :
    (stage.boarding f rest).Accounts most now [] (stage.nextFlight, f) := by
  refine ⟨fun _ => by rw [hphase]; rfl, fun z hz hid => ?_⟩
  have hasleep : z.flight ∈ stage.attended := List.mem_append_right _ (List.mem_map_of_mem hz)
  exact absurd (hqueued.numbered _ hasleep) (by rw [hid]; exact Nat.lt_irrefl _)

end Stage.Accounts

/-- Whoever was in flight still is, apart from the one that has landed. -/
theorem Stage.Orderly.mem_airborne_landing (h : stage.Orderly) (hmem : (n, f) ∈ stage.flights)
    (r : TaskResult) (ht : t ∈ stage.airborne) :
    t = f.job.task ∨ t ∈ (stage.landing n r).airborne := by
  obtain ⟨e, he, rfl⟩ := List.mem_map.mp ht
  have hentry : (n, f.job.task) ∈ stage.roster := List.mem_map.mpr ⟨_, hmem, rfl⟩
  by_cases hne : e.1 = n
  · obtain rfl : e = (n, f.job.task) := List.inj_on_of_nodup_map h.nodup he hentry hne
    exact Or.inl rfl
  · refine Or.inr ?_
    rw [Stage.airborne, Stage.roster_landing]
    exact List.mem_map_of_mem (List.mem_filter.mpr ⟨he, by simpa using hne⟩)

/-- The tasks with results, those in flight and those still to be dispatched are all different. -/
theorem Filed.nodup_seen (h : Filed m) (hstage : m.stage = some stage) :
    (m.landings.map TaskResult.task ++ (stage.airborne ++ stage.waiting)).Nodup := by
  obtain ⟨filed, -, hperm, hnodup⟩ := h.landings
  rw [unfiled_of_stage hstage] at hnodup
  have hlandings := hperm.map TaskResult.task
  rw [landed_of_stage hstage, List.map_append] at hlandings
  refine (hlandings.append_right _).nodup_iff.mpr (hnodup.sublist ?_)
  simp only [Stage.landedTasks, List.append_assoc]
  exact (((List.sublist_append_left stage.waiting _).append_left _).append_left _).append_left _

/-- **All calls are accounted for**, by flights and by results. Before the execution, the calls were
    `first`. -/
structure Logged (s : Setup) (cut : String → Prop) (first : List Call) (m : Machine) : Prop where
  calls : m.world.calls = m.calls ++ first
  queued : ∀ stage, m.stage = some stage → stage.Queued
  flights : ∀ stage, m.stage = some stage → ∀ e ∈ stage.flights,
    stage.Accounts s.maxAttempts m.clock (attemptsOf s.runner first m.calls e.2.job.task) e
  landed : ∀ r ∈ m.landings, Told s cut (attemptsOf s.runner first m.calls r.task) r
  known : ∀ call ∈ m.calls, call.task ∈ m.landings.map TaskResult.task ++ m.airborne

/-- **What a turn of a flight does to the attempts of all tasks.** -/
structure Resumed (s : Setup) (cut : String → Prop) (first : List Call) (m : Machine) (f : Flight)
    (next : Next) (m' : Machine) : Prop where
  calls : m'.world.calls = m'.calls ++ first
  tells : next.Tells s cut m.clock (attemptsOf s.runner first m'.calls f.job.task)
  others : ∀ t, t ≠ f.job.task →
    attemptsOf s.runner first m'.calls t = attemptsOf s.runner first m.calls t
  own : ∀ call ∈ m'.calls, call ∈ m.calls ∨ call.task = f.job.task

namespace Logged

/-- Nobody calls or lands, and all flights are still there. -/
theorem quietly (h : Logged s cut first m) (hm : Move s m m') (hcalls : m'.calls = m.calls)
    (hlandings : m'.landings = m.landings) (hair : m.airborne ⊆ m'.airborne)
    (hqueued : ∀ stage, m'.stage = some stage → stage.Queued)
    (hflights : ∀ stage, m'.stage = some stage → ∀ e ∈ stage.flights,
      stage.Accounts s.maxAttempts m'.clock (attemptsOf s.runner first m.calls e.2.job.task) e) :
    Logged s cut first m' := by
  refine ⟨hm.world_calls h.calls, hqueued, hcalls ▸ hflights, ?_, ?_⟩
  · rw [hlandings, hcalls]
    exact h.landed
  · rw [hlandings, hcalls]
    intro call hcall
    exact (List.mem_append.mp (h.known call hcall)).elim (List.mem_append_left _)
      fun hin => List.mem_append_right _ (hair hin)

theorem start : Logged s cut world.calls (Machine.start w schedule world) where
  calls := rfl
  queued _ hstage := by cases hstage
  flights _ hstage := by cases hstage
  landed _ hr := by cases hr
  known _ hcall := by cases hcall

/-- Without flights, a level begins or ends. -/
theorem grounded (h : Logged s cut first m) (hm : Move s m m') (hcalls : m'.calls = m.calls)
    (hlandings : m'.landings = m.landings) (hflights : m.flights = [])
    (hfresh : ∀ stage, m'.stage = some stage → stage.attended = [] ∧ stage.flights = []) :
    Logged s cut first m' := by
  refine h.quietly hm hcalls hlandings ?_ (fun stage hstage => ?_) fun stage hstage e he => ?_
  · rw [Machine.airborne, hflights]
    exact List.nil_subset _
  · have hnobody := (hfresh stage hstage).1
    exact ⟨by rw [hnobody]; exact List.nodup_nil, by simp [hnobody]⟩
  · rw [(hfresh stage hstage).2] at he
    cases he

theorem begin {level : Level} {later : List Level} (h : Logged s cut first m) (hstage : m.stage = none)
    (hlevels : m.levels = level :: later) : Logged s cut first (m.beginLevel level later) := by
  refine h.grounded (.begin hstage hlevels) (calls_beginLevel ..) (landings_beginLevel ..)
    (flights_of_stage_none hstage) fun stage' hstage' => ?_
  unfold beginLevel at hstage'
  split at hstage'
  · obtain rfl := Option.some.inj hstage'
    exact ⟨rfl, rfl⟩
  · cases ((OnlyRecords.cancel level.tasks m).stage.trans hstage).symm.trans hstage'

/-- A task that is dispatched has made no attempt yet. -/
theorem dispatch (hfiled : Filed m) (horderly : stage.Orderly) (h : Logged s cut first m)
    (hstage : m.stage = some stage) (hwaiting : stage.waiting = t :: rest)
    (hm : Move s m ((dispatchOne s m stage t rest).1.withStage (dispatchOne s m stage t rest).2)) :
    Logged s cut first
      ((dispatchOne s m stage t rest).1.withStage (dispatchOne s m stage t rest).2) := by
  have hqueued := h.queued stage hstage
  have hflights := h.flights stage hstage
  have hair := airborne_of_stage hstage
  have hrecords := OnlyRecords.dispatchOne s m stage t rest
  cases hk : m.workflow.task? t with
  | none =>
      rw [dispatchOne_of_none hk] at hm ⊢
      refine h.quietly hm rfl rfl (airborne_subset hstage rfl fun _ ht => ht) ?_ ?_
      · rintro _ ⟨⟩
        exact ⟨hqueued.nodup, hqueued.numbered⟩
      · rintro _ ⟨⟩ e he
        exact (hflights e he).of_subset (List.Subset.refl _) rfl
  | some k =>
      obtain rfl : k.id = t := Workflow.id_of_task? hk
      have hseen := hfiled.nodup_seen hstage
      rw [← hair, hwaiting, ← List.append_assoc, List.nodup_append] at hseen
      have hnone : attemptsOf s.runner first m.calls k.id = [] :=
        attemptsOf_eq_nil fun call hcall htask =>
          hseen.2.2 _ (h.known call hcall) _ (List.mem_cons.mpr (Or.inl htask)) rfl
      rw [dispatchOne_of_some hk] at hm hrecords ⊢
      refine h.quietly hm hrecords.calls_eq hrecords.landings_eq ?_ ?_ ?_
      · refine airborne_subset hstage rfl ?_
        rw [Stage.Underway.airborne_boarding]
        exact List.subset_append_left _ _
      · rintro _ ⟨⟩
        exact hqueued.boarding _ rest
      · rintro _ ⟨⟩ e he
        have hclock : ((m.setStatus k.id .scheduled).setStatus k.id .running).clock = m.clock :=
          hrecords.clock
        show Stage.Accounts _ _ ((m.setStatus k.id .scheduled).setStatus k.id .running).clock _ _
        rw [hclock]
        rcases List.mem_append.mp he with hold | hnew
        · have hnumber := horderly.numbered _ (List.mem_map_of_mem hold)
          exact (hflights e hold).boarding (Nat.ne_of_lt hnumber) _ rest
        · rw [List.mem_singleton.mp hnew, show (jobOf s k).task = k.id from rfl, hnone]
          exact .dispatched hqueued rfl rest

/-- The clock moves on. -/
theorem tick (h : Logged s cut first m) (hstage : m.stage = some stage) (due : Nat) :
    Logged s cut first (m.tick stage due) := by
  refine h.quietly (.tick due hstage) rfl rfl (airborne_subset hstage rfl fun _ ht => ht) ?_ ?_
  · rintro _ ⟨⟩
    exact (h.queued stage hstage).wake _
  · rintro _ ⟨⟩ e he
    exact (h.flights stage hstage e he).wake (Nat.le_max_left _ _)
      fun z hz => Or.inr (of_decide_eq_true hz)

/-- **One activity of a flight, and the attempts of all tasks.** -/
theorem resumed (hmost : 0 < s.maxAttempts) (h : Logged s cut first m) (hm : Move s m m')
    (hstage : m.stage = some stage) (hmem : (n, f) ∈ stage.flights) (hactive : n ∈ stage.active)
    (hresume : f.resume s m.clock m.world = (next, world)) (hsame : m'.world.calls = world.calls)
    (hcut : ∀ text, Panicked s.faults m.world.memoryCalls world.memoryCalls text → cut text) :
    Resumed s cut first m f next m' := by
  have hcalls := hm.world_calls h.calls
  have haccounts := (h.flights stage hstage _ hmem).active hactive
  rw [show world = (f.resume s m.clock m.world).2 from congrArg Prod.snd hresume.symm] at hcut
  obtain ⟨made, hmade, hgrow, htells⟩ := Flight.tells_resume hmost h.calls haccounts hcut
  rw [hresume] at hmade htells
  obtain rfl : made = m'.calls :=
    List.append_cancel_right (hmade.symm.trans (hsame.symm.trans hcalls))
  rcases hgrow with hnone | ⟨call, htask, hcons⟩
  · exact ⟨hcalls, htells, fun t _ => by rw [hnone], fun call hcall => Or.inl (hnone ▸ hcall)⟩
  · refine ⟨hcalls, htells, fun t ht => ?_, fun c hc => ?_⟩
    · rw [hcons, attemptsOf_cons_of_ne (htask ▸ ht.symm)]
    · rw [hcons] at hc
      rcases List.mem_cons.mp hc with rfl | hold
      · exact Or.inr htask
      · exact Or.inl hold

/-- The tasks of other flights are other tasks. -/
theorem task_ne {e : Nat × Flight} (hfiled : Filed m) (hstage : m.stage = some stage)
    (hmem : (n, f) ∈ stage.flights) (he : e ∈ stage.flights) (hne : e.1 ≠ n) :
    e.2.job.task ≠ f.job.task := by
  have hnodup : (stage.flights.map fun e => e.2.job.task).Nodup := by
    have hair := (List.nodup_append.mp (List.nodup_append.mp (hfiled.nodup_seen hstage)).2.1).1
    simpa [Stage.airborne, Stage.roster, Function.comp_def] using hair
  intro htask
  exact hne (congrArg Prod.fst (List.inj_on_of_nodup_map hnodup he hmem htask))

/-- Who has landed is not in flight. -/
theorem landed_ne (hfiled : Filed m) (hstage : m.stage = some stage) (hmem : (n, f) ∈ stage.flights)
    (hr : r ∈ m.landings) : r.task ≠ f.job.task := by
  have hapart := (List.nodup_append.mp (hfiled.nodup_seen hstage)).2.2
  refine hapart r.task (List.mem_map_of_mem hr) f.job.task (List.mem_append_left _ ?_)
  exact List.mem_map.mpr ⟨_, List.mem_map_of_mem hmem, rfl⟩

/-- **A flight that has had its turn goes on.** -/
theorem goesOn {events : List Event} (hfiled : Filed m) (horderly : stage.Orderly)
    (h : Logged s cut first m) (hstage : m.stage = some stage) (hmem : (n, f) ∈ stage.flights)
    (hactive : n ∈ stage.active) (hnext : next.flight? = some f') (hjob : f'.job = f.job)
    (hquiet : events.reverse.filterMap Event.result? = [])
    (hresumed : Resumed s cut first m f next (m.after world (stage.resuming n next f') events)) :
    Logged s cut first (m.after world (stage.resuming n next f') events) := by
  have hqueued := h.queued stage hstage
  have hflights := h.flights stage hstage
  have hair : (stage.resuming n next f').airborne = m.airborne := by
    rw [airborne_of_stage hstage]
    exact congrArg (List.map Prod.snd) (roster_setFlight horderly hmem hjob)
  have hlandings : (m.after world (stage.resuming n next f') events).landings = m.landings := by
    rw [landings_after, hquiet, List.append_nil]
  constructor
  case calls => exact hresumed.calls
  case queued =>
    rintro _ ⟨⟩
    exact hqueued.turn hactive hnext
  case flights =>
    rintro _ ⟨⟩ e he
    rcases mem_setFlight he with rfl | ⟨hold, hne⟩
    · rw [hjob]
      exact .of_tells (hqueued.not_asleep hactive) hresumed.tells hnext
    · rw [hresumed.others _ (task_ne hfiled hstage hmem hold hne)]
      exact (hflights e hold).of_other hne next f'
  case landed =>
    rw [hlandings]
    intro r hr
    rw [hresumed.others _ (landed_ne hfiled hstage hmem hr)]
    exact h.landed r hr
  case known =>
    rw [hlandings, airborne_after, hair]
    intro call hcall
    rcases hresumed.own call hcall with hold | htask
    · exact h.known call hold
    · refine List.mem_append_right _ ?_
      rw [htask, Machine.airborne, flights_of_stage hstage]
      exact List.mem_map.mpr ⟨_, hmem, rfl⟩

/-- **A flight that has had its turn has landed.** -/
theorem lands {leased : Option AgentId} {events : List Event} (hfiled : Filed m)
    (horderly : stage.Orderly) (h : Logged s cut first m) (hstage : m.stage = some stage)
    (hmem : (n, f) ∈ stage.flights) (htask : r.task = f.job.task)
    (hlandings : (m.after world (wakeAfter (stage.landing n r) leased) events).landings =
      m.landings ++ [r])
    (hresumed : Resumed s cut first m f (.land r leased)
      (m.after world (wakeAfter (stage.landing n r) leased) events)) :
    Logged s cut first (m.after world (wakeAfter (stage.landing n r) leased) events) := by
  constructor
  case calls => exact hresumed.calls
  case queued =>
    rintro _ ⟨⟩
    have hleft : (stage.landing n r).Queued := (h.queued stage hstage).leave rfl rfl rfl
    exact hleft.wakeAfter leased
  case flights =>
    rintro _ ⟨⟩ e he
    rw [flights_wakeAfter] at he
    obtain ⟨hold, hne⟩ := List.mem_filter.mp he
    rw [hresumed.others _ (task_ne hfiled hstage hmem hold (by simpa using hne))]
    have hstays : (stage.landing n r).Accounts s.maxAttempts m.clock
        (attemptsOf s.runner first m.calls e.2.job.task) e :=
      (h.flights stage hstage e hold).of_subset List.erase_subset rfl
    exact hstays.wakeAfter leased
  case landed =>
    rw [hlandings]
    intro r' hr'
    rcases List.mem_append.mp hr' with hold | hnew
    · rw [hresumed.others _ (landed_ne hfiled hstage hmem hold)]
      exact h.landed r' hold
    · rw [List.mem_singleton.mp hnew, htask]
      exact hresumed.tells
  case known =>
    rw [hlandings, airborne_after, Stage.airborne, roster_wakeAfter, List.map_append]
    intro call hcall
    -- the calls of the flight belong to its result from now on
    have hnow : call.task = f.job.task → call.task ∈ m.landings.map TaskResult.task ++
        [r].map TaskResult.task ++ (stage.landing n r).airborne := fun heq =>
      List.mem_append_left _ (List.mem_append_right _ (by simp [heq, htask]))
    rcases hresumed.own call hcall with hold | heq
    · rcases List.mem_append.mp (h.known call hold) with hlanded | hflying
      · exact List.mem_append_left _ (List.mem_append_left _ hlanded)
      · rw [airborne_of_stage hstage] at hflying
        rcases horderly.mem_airborne_landing hmem r hflying with heq | hstill
        · exact hnow heq
        · exact List.mem_append_right _ hstill
    · exact hnow heq

/-- **A flight of the level has its turn.** -/
theorem turn (hmost : 0 < s.maxAttempts) (hfiled : Filed m) (horderly : stage.Orderly)
    (h : Logged s cut first m) (hstage : m.stage = some stage) (hactive : n ∈ stage.active)
    (hcut : ∀ text, Panicked s.faults m.world.memoryCalls
      (m.turn s stage n (stage.active.erase n)).world.memoryCalls text → cut text) :
    Logged s cut first (m.turn s stage n (stage.active.erase n)) := by
  have hm := Move.turn (s := s) hstage hactive
  have hturned := turned s m stage n
  generalize m.turn s stage n (stage.active.erase n) = after at hturned hcut hm ⊢
  cases hturned with
  | absent habsent =>
      refine h.quietly hm rfl rfl (airborne_subset hstage rfl fun _ ht => ht) ?_ ?_
      · rintro _ ⟨⟩
        exact (h.queued stage hstage).leave rfl rfl rfl
      · rintro _ ⟨⟩ e he
        exact (h.flights stage hstage e he).of_subset List.erase_subset rfl
  | @goesOn f f' next world events hmem hresume hnext hcalls =>
      have hquiet : events.reverse.filterMap Event.result? = [] := by
        rcases hcalls with ⟨rfl, -⟩ | ⟨call, -, rfl, -⟩ <;> rfl
      exact h.goesOn hfiled horderly hstage hmem hactive hnext (Flight.job_of_resume hresume hnext)
        hquiet (h.resumed hmost hm hstage hmem hactive hresume rfl hcut)
  | @lands f r leased world hmem hresume =>
      have hlandings : (m.after (world.handBack f.job.task leased).1
          (wakeAfter (stage.landing n r) leased)
          (.landed r :: (world.handBack f.job.task leased).2)).landings = m.landings ++ [r] := by
        rw [landings_after]
        rcases world.handBack_events f.job.task leased with hnone | ⟨e, he⟩
        · rw [hnone]; rfl
        · rw [he]; rfl
      exact h.lands hfiled horderly hstage hmem (Flight.task_of_resume hresume) hlandings
        (h.resumed hmost hm hstage hmem hactive hresume (world.calls_handBack f.job.task leased)
          (world.memoryCalls_handBack f.job.task leased ▸ hcut))

/-- **Every move**, as long as only panics with the property `cut` occur. -/
theorem move (hmost : 0 < s.maxAttempts) (horderly : m.Orderly) (hfiled : Filed m)
    (h : Logged s cut first m) (hm : Move s m m')
    (hcut : ∀ text, Panicked s.faults m.world.memoryCalls m'.world.memoryCalls text → cut text) :
    Logged s cut first m' := by
  cases hm with
  | begin hstage hlevels => exact h.begin hstage hlevels
  | @dispatch stage t rest hstage hwaiting hgo hroom =>
      exact h.dispatch hfiled (horderly _ hstage) hstage hwaiting (.dispatch hstage hwaiting hgo hroom)
  | turn hstage hactive => exact h.turn hmost hfiled (horderly _ hstage) hstage hactive hcut
  | tick due hstage => exact h.tick hstage due
  | @settle stage hstage hflights hend =>
      have hrecords := OnlyRecords.settle m stage
      refine h.grounded (.settle hstage hflights hend) hrecords.calls_eq hrecords.landings_eq
        ((flights_of_stage hstage).trans hflights) fun stage' hstage' => ?_
      cases hrecords.stage.symm.trans hstage'
  | surroundings hcalls =>
      exact h.quietly (.surroundings hcalls) rfl rfl (fun _ ht => ht) h.queued h.flights

/-- Every flight accounts for the attempts of its task, for now or for later. -/
theorem exists_accounts {e : Nat × Flight} (h : Logged s cut first m) (horderly : m.Orderly)
    (he : e ∈ m.flights) : ∃ due,
      e.2.phase.Accounts s.maxAttempts due (attemptsOf s.runner first m.calls e.2.job.task) := by
  obtain hnone | ⟨stage, hstage⟩ := Option.eq_none_or_eq_some m.stage
  · rw [flights_of_stage_none hnone] at he
    cases he
  · rw [flights_of_stage hstage] at he
    have haccounts := h.flights stage hstage e he
    have hattended := (horderly stage hstage).attended _ (List.mem_map_of_mem he)
    rcases List.mem_append.mp hattended with hactive | hasleep
    · exact ⟨m.clock, haccounts.active hactive⟩
    · obtain ⟨z, hz, hid⟩ := List.mem_map.mp hasleep
      exact ⟨z.due, (haccounts.asleep z hz hid).1⟩

end Logged

/-! ## Executions -/

/-- A move in which only panics with the property `cut` occur. -/
structure Machine.CutMove (s : Setup) (cut : String → Prop) (m m' : Machine) : Prop where
  move : Move s m m'
  panics : ∀ text, Panicked s.faults m.world.memoryCalls m'.world.memoryCalls text → cut text

/-- **All along, all calls are accounted for.** -/
theorem logged_of_moves (hmost : 0 < s.maxAttempts) (hnodup : (tasksOf schedule.levels).Nodup)
    (hm : ReflTransGen (CutMove s cut) (Machine.start w schedule world) m) :
    m.Orderly ∧ Filed m ∧ Logged s cut world.calls m := by
  induction hm with
  | refl => exact ⟨orderly_of_stage_none rfl, .start hnodup, .start⟩
  | tail _ hlast ih =>
      obtain ⟨horderly, hfiled, hlogged⟩ := ih
      exact ⟨horderly.move hlast.move, hfiled.move horderly hlast.move,
        hlogged.move hmost horderly hfiled hlast.move hlast.panics⟩

/-- At the end, the landings can be looked up. -/
theorem Filed.mem_landings_iff (h : Filed m) (hdone : m.isDone = true) :
    r ∈ m.landings ↔ m.results.find? r.task = some r := by
  obtain ⟨hperm, hnamed⟩ := h.results_perm hdone
  rw [hperm.mem_iff]
  constructor
  · intro hr
    obtain ⟨entry, hentry, rfl⟩ := List.mem_map.mp hr
    have hfind := NameMap.mem_entries_iff.mp (show (entry.1, entry.2) ∈ m.results.entries from hentry)
    rwa [hnamed _ _ hfind]
  · intro hr
    exact List.mem_map.mpr ⟨_, NameMap.mem_entries_iff.mpr hr, rfl⟩

/-! ## Counting attempts -/

/-- A memory service may panic with a text. -/
def FaultPattern.MayPanic (faults : FaultPattern) (text : String) : Prop :=
  ∃ before call, faults before call = some (.panic text)

/-- **A result of a task that was cut off** by a panic of the memory service. -/
def TaskResult.CutOff (faults : FaultPattern) (r : TaskResult) : Prop :=
  ∃ text, faults.MayPanic text ∧ r.agent = none ∧
    r.report = Report.ofAnswer 0 (.error (.system (panicText "task" text)))

/-- **Results count the calls of the runner for their tasks**, unless they were cut off. No task stops
    between two attempts. -/
def Counted (e : Engine) (w : Workflow) (first calls : List Call) (results : NameMap TaskResult) : Prop :=
  ∃ made, calls = made ++ first ∧ ∀ t r, results.find? t = some r →
    (r.attempts = made.countP (fun call => decide (call.task = t)) ∨ r.CutOff e.faults) ∧
    (attemptsOf e.runner first made t = [] ∨ ∃ g a,
      Decided (Nat.max w.metadata.maxAttempts 1) g a (attemptsOf e.runner first made t))

theorem Told.counted (h : Told s cut as r) :
    (r.attempts = as.length ∨ ∃ text, cut text ∧ r.agent = none ∧
      r.report = Report.ofAnswer 0 (.error (.system (panicText "task" text)))) ∧
    (as = [] ∨ ∃ g a, Decided s.maxAttempts g a as) := by
  cases h with
  | unserved hnone hagent hreport | refused hnone hagent hreport =>
      exact ⟨Or.inl (by rw [hnone]; exact TaskResult.attempts_of_report hreport), Or.inl hnone⟩
  | @decided g a hdecided hagent hreport =>
      exact ⟨Or.inl (TaskResult.attempts_of_report hreport), Or.inr ⟨g, a, hdecided⟩⟩
  | cutOff hcut hagent hreport hwhen => exact ⟨Or.inr ⟨_, hcut, hagent, hreport⟩, hwhen⟩

namespace Engine

variable {e : Engine} {fuel : Nat} {x : Execution}

theorem maxAttempts_pos (e : Engine) (w : Workflow) (schedule : Schedule) :
    0 < (e.setup w schedule).maxAttempts := Nat.le_max_right _ _

/-- An execution that has ended, in whatever order of moves. -/
theorem counted_of_isDone (hnodup : (tasksOf schedule.levels).Nodup)
    (hm : Interleaving (e.setup w schedule) (Machine.start w schedule world) m)
    (hdone : m.isDone = true) : Counted e w world.calls m.world.calls m.results := by
  have hmoves : ReflTransGen (CutMove (e.setup w schedule) e.faults.MayPanic)
      (Machine.start w schedule world) m :=
    ReflTransGen.mono (fun _ _ hmove => ⟨hmove, fun _ ⟨call, before, _, _, hpanic⟩ =>
      ⟨before, call, hpanic⟩⟩) _ _ hm
  obtain ⟨-, hfiled, hlogged⟩ := logged_of_moves (e.maxAttempts_pos w schedule) hnodup hmoves
  refine ⟨m.calls, hlogged.calls, fun t r hr => ?_⟩
  obtain rfl : r.task = t := (hfiled.results_perm hdone).2 t r hr
  have htold := (hlogged.landed r ((hfiled.mem_landings_iff hdone).mpr hr)).counted
  rw [length_attemptsOf] at htold
  exact htold

theorem counted_of_execute (hnodup : (tasksOf schedule.levels).Nodup)
    (hx : e.execute fuel w schedule world = some x) :
    Counted e w world.calls x.world.calls x.result.tasks := by
  obtain ⟨m, hsteps, hdone, rfl⟩ := Engine.exists_machine_of_execute hx
  exact counted_of_isDone hnodup (interleaving_of_steps (orderly_of_stage_none rfl) hsteps) hdone

end Engine

/-- **Attempts are counted**, whatever the memory service, the runner and the surroundings do. Once an
    execution of levels that do not repeat a task has ended, in whatever order flights have taken their
    turns, each result has counted the calls of the runner for its task, unless the bookkeeping of the
    task was cut off by a panic of the memory service. So it is after a run, and after the execution of
    an earlier plan. -/
theorem Engine.attempts_are_counted (e : Engine) (w : Workflow) (world : World) :
    (∀ schedule m, (tasksOf schedule.levels).Nodup →
      Interleaving (e.setup w schedule) (Machine.start w schedule world) m → m.isDone = true →
      Counted e w world.calls m.world.calls m.results) ∧
    (∀ fuel x, e.run fuel w world = .ok (some x) →
      Counted e w world.calls x.world.calls x.result.tasks) ∧
    ∀ schedule fuel x, (tasksOf schedule.levels).Nodup →
      e.runPlan fuel w schedule world = .ok (some x) →
      Counted e w world.calls x.world.calls x.result.tasks := by
  refine ⟨fun schedule m => counted_of_isDone, fun fuel x hrun => ?_,
    fun schedule fuel x hnodup hrun => counted_of_execute hnodup (execute_of_runPlan hrun)⟩
  obtain ⟨schedule, hplan, hexecute⟩ := exists_execute_of_run hrun
  exact counted_of_execute (layered_of_plan hplan).nodup hexecute

/-- The memory service panics when the session of the build is merged. -/
theorem attempts_are_counted_cutOff :
    ∃ x, engineCutOff.run 20 pipeline { pool := lonePool } = .ok (some x) ∧
      x.result.failedTasks = ["build"] ∧
      Counted engineCutOff pipeline [] x.world.calls x.result.tasks := by
  refine ⟨_, rfl, rfl, ?_⟩
  exact (Engine.attempts_are_counted engineCutOff pipeline { pool := lonePool }).2.1 20 _ rfl

/-- **The attempts of a task that was cut off are lost.** The build was called once, but its result has
    counted no attempt, and neither have the metrics. -/
theorem attempts_are_lost_to_panics :
    ∃ x r, engineCutOff.run 20 pipeline { pool := lonePool } = .ok (some x) ∧
      x.result.tasks.find? "build" = some r ∧
      (x.world.calls.countP fun call => decide (call.task = "build")) = 1 ∧
      r.attempts = 0 ∧ x.result.metrics.attempts = 0 := by
  exact ⟨_, _, rfl, rfl, rfl, rfl, rfl⟩

end Foreman
