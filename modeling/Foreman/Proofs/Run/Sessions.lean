import Foreman.Proofs.Run.AttemptLog
import Foreman.Proofs.Run.Elapsed

/-!
# `Foreman.Proofs.Run.Sessions` — every task has a session of its own

A flight that has found an agent opens a session, and keeps both until it has the answer of its last
attempt (`Flight.Holding`). The session is a new one, so as long as the memory service forgets none, no
two tasks ever use the same (`SessionsApart`). The runner is called by flights that hold a session, and
only by such that are not in an attempt (`Move.called`). And a flight that holds a session does not give
it up before it has called the runner; so at the end the tasks that were called are those that ever had a
session.

## Contents
- `Phase.engagement?`, **`Flight.Holding`** and `Flight.holding_resume`: what an activity does to what a
  flight holds.
- `Machine.Engages`, and **`Move.called`**, `Move.opened`, `Move.engages` for single moves.
- **`SessionsApart`**, kept by every move by which no session is forgotten.
- **`CalmMove`** and **`CalmPassage`**: executions without panics of the memory service, with
  `engaged_of_called` and `called_of_engaged`.
- `SoleInterleaving.exists_calmPassage`: executions while nobody else uses the memory service.
-/

namespace Foreman

open Machine

variable {w : Workflow} {s : Setup} {m m' start : Machine} {stage : Stage} {f f' : Flight}
  {g : Engagement} {world world' : World} {schedule : Schedule} {past : List Machine} {n : Nat}
  {t : TaskId} {h : Handle}

/-! ## What a flight holds -/

/-- The agent and the session that a flight has for its attempts. -/
def Phase.engagement? : Phase → Option Engagement
  | .calling g _ _ | .working g _ _ _ _ | .returned g _ _ _ | .rested g _ _ => some g
  | .seeking | .claiming _ | .opening _ _ | .closing _ _ _ => none

/-- The agent and the session that a flight has for its attempts as it goes on. -/
def Next.engagement? : Next → Option Engagement
  | .atOnce f | .again f | .sleep _ f | .wait _ f => f.phase.engagement?
  | .land .. => none

theorem Next.engagement?_of_flight? {next : Next} (hnext : next.flight? = some f) :
    next.engagement? = f.phase.engagement? := by
  cases next with
  | land r leased => cases hnext
  | atOnce f' | again f' | sleep due f' | wait due f' =>
      obtain rfl := Option.some.inj hnext
      rfl

/-- **What an activity of a flight does to what the flight holds**: it may open a session, and keeps it
    until it has the answer of an attempt. -/
structure Flight.Holding (f : Flight) (world : World) (out : Next × World) : Prop where
  opened : f.phase.engagement? = none → ∀ g, out.1.engagement? = some g → world.Opened out.2 g.session
  kept : ∀ g, f.phase.engagement? = some g → out.1.engagement? = some g ∨
    out.1.engagement? = none ∧ ∃ attempt delay answer, f.phase = .returned g attempt delay answer

namespace Flight

variable {out : Next × World}

/-- A flight that holds nothing may go on with nothing. -/
theorem Holding.of_none (hf : f.phase.engagement? = none) (hout : out.1.engagement? = none) :
    f.Holding world out :=
  ⟨fun _ g hg => (by cases hout.symm.trans hg), fun g hg => (by cases hf.symm.trans hg)⟩

/-- A flight that holds something may keep it. -/
theorem Holding.of_kept (hheld : f.phase.engagement? = some g) (hkept : out.1.engagement? = some g) :
    f.Holding world out := by
  refine ⟨fun hnone => (by cases hheld.symm.trans hnone), fun g' hg' => Or.inl ?_⟩
  rw [hkept, ← hheld, hg']

/-- A flight that is cut off by a call of the memory service holds nothing. -/
theorem engagement?_consult {α : Type} {agent : AgentId} {call : MemoryCall}
    {op : Memory → Except MemoryError (α × Memory)} {next : Except MemoryError α → Next}
    (hnext : ∀ answer, (next answer).engagement? = none) :
    (f.consult s agent call op next world).1.engagement? = none := by
  have hconsulted := consulted s f agent call op next world
  generalize f.consult s agent call op next world = out at hconsulted ⊢
  cases hconsulted with
  | cutOff _ => rfl
  | refused _ _ | done _ _ => exact hnext _

/-- A flight holds the session that it has opened, which is a new one. -/
theorem opened_consult {agent owner : AgentId} {scope : SessionScope} {call : MemoryCall}
    {next : Except MemoryError Handle → Next}
    (hrefused : ∀ e, (next (.error e)).engagement? = none)
    (hgranted : ∀ session, ∃ record, (next (.ok session)).engagement? = some ⟨owner, record, session⟩)
    (hg : (f.consult s agent call (fun m => m.createSession owner scope) next world).1.engagement? =
      some g) :
    world.Opened (f.consult s agent call (fun m => m.createSession owner scope) next world).2
      g.session := by
  have hconsulted := consulted s f agent call (fun m => m.createSession owner scope) next world
  generalize f.consult s agent call (fun m => m.createSession owner scope) next world = out
    at hconsulted hg ⊢
  cases hconsulted with
  | cutOff _ => cases hg
  | refused _ _ => cases (hrefused _).symm.trans hg
  | done _ hok =>
      obtain ⟨record, hgranted⟩ := hgranted _
      obtain rfl := Option.some.inj (hgranted.symm.trans hg)
      obtain ⟨hsession, hlength⟩ := Memory.createSession_eq_ok hok
      exact ⟨_, hsession, Nat.le_refl _, by rw [hlength]; exact Nat.lt_succ_self _⟩

/-- **The way to the first attempt**, on which a session is opened. -/
theorem holding_openUp (s : Setup) (now : Nat) (f : Flight) (agent : AgentId) (step : Opening)
    (hf : f.phase.engagement? = none) (world : World) :
    f.Holding world (f.openUp s now agent step world) := by
  cases step with
  | record => exact .of_none hf (engagement?_consult fun _ => rfl)
  | mark record =>
      cases record with
      | none => exact .of_none hf rfl
      | some record => exact .of_none hf (engagement?_consult fun _ => rfl)
  | session record =>
      refine ⟨fun _ g hg => ?_, fun g hg => (by cases hf.symm.trans hg)⟩
      exact opened_consult (fun _ => rfl) (fun session => ⟨record, rfl⟩) hg

/-- **The way to the end.** -/
theorem holding_closeUp (s : Setup) (now : Nat) (f : Flight) (agent : AgentId) (u : Upshot)
    (step : Closing) (hf : f.phase.engagement? = none) (world : World) :
    f.Holding world (f.closeUp s now agent u step world) := by
  refine .of_none hf ?_
  cases step with
  | merge record session => exact engagement?_consult fun _ => rfl
  | close record session => exact engagement?_consult fun _ => rfl
  | store record => exact engagement?_consult fun _ => rfl
  | sign record =>
      cases record with
      | none => rfl
      | some record => exact engagement?_consult fun _ => rfl

/-- An attempt pauses or returns. -/
theorem engagement?_workOn (now : Nat) (f : Flight) (g : Engagement) (attempt : Nat) (delay : Duration)
    (ending : Ending) (course : List Activity) (world : World) :
    (workOn now f g attempt delay ending course world).1.engagement? = some g := by
  induction course generalizing world with
  | nil => rfl
  | cons activity rest ih =>
      cases activity with
      | act action => exact ih _
      | pause length =>
          unfold workOn
          split
          · exact ih world
          · rfl

/-- **One activity of a flight, and what it holds.** -/
theorem holding_resume (s : Setup) (now : Nat) (f : Flight) (world : World) :
    f.Holding world (f.resume s now world) := by
  have hacts := acts_resume s now f world
  generalize f.resume s now world = out at hacts ⊢
  cases hacts with
  | searches hfree hsearches =>
      have hf : f.phase.engagement? = none := by
        cases hphase : f.phase <;> rw [hphase] at hfree <;> first | rfl | cases hfree
      cases hsearches with
      | leased _ _ | found _ _ _ | lost _ _ | impossible _ _ _ _ => exact .of_none hf rfl
      | busy _ _ _ _ => exact .of_none hf hf
  | opens hphase => exact holding_openUp s now f _ _ (by rw [hphase]; rfl) world
  | closes hphase => exact holding_closeUp s now f _ _ _ (by rw [hphase]; rfl) world
  | calls hphase => exact .of_kept (by rw [hphase]; rfl) (engagement?_workOn ..)
  | works hphase => exact .of_kept (by rw [hphase]; rfl) (engagement?_workOn ..)
  | rests hphase => exact .of_kept (by rw [hphase]; rfl) rfl
  | @answered g attempt delay answer _ hphase hanswered =>
      have hheld : f.phase.engagement? = some g := by rw [hphase]; rfl
      cases hanswered with
      | repeated _ _ | delayed _ _ => exact .of_kept hheld rfl
      | counts _ =>
          refine ⟨fun hnone => (by cases hheld.symm.trans hnone), fun g' hg' => Or.inr ⟨rfl, ?_⟩⟩
          obtain rfl := Option.some.inj (hheld.symm.trans hg')
          exact ⟨attempt, delay, answer, hphase⟩

end Flight

/-! ## Single moves -/

namespace Machine

/-- A task holds an agent and a session. -/
def Engages (m : Machine) (t : TaskId) (g : Engagement) : Prop :=
  ∃ e ∈ m.flights, e.2.job.task = t ∧ e.2.phase.engagement? = some g

/-- A task holds a session, or has called the runner with it. -/
def Uses (m : Machine) (t : TaskId) (h : Handle) : Prop :=
  (∃ call ∈ m.calls, call.task = t ∧ call.session = h) ∨ ∃ g, m.Engages t g ∧ g.session = h

/-- **A move makes one call at most**, and that of a flight that is to call the runner. -/
theorem Move.called (hm : Move s m m') : m'.calls = m.calls ∨
    ∃ e ∈ m.flights, ∃ g attempt delay, e.2.phase = .calling g attempt delay ∧
      m'.calls = e.2.callOf s m.clock g attempt :: m.calls := by
  rcases hm.calls_eq_or_turn with ⟨hcalls, -⟩ | ⟨stage, id, hstage, rfl⟩
  · exact Or.inl hcalls
  · have hturned := turned s m stage id
    generalize m.turn s stage id (stage.active.erase id) = after at hturned ⊢
    cases hturned with
    | absent _ => exact Or.inl rfl
    | @goesOn f f' next world events hmem hresume hnext hcalls =>
        rcases hcalls with ⟨rfl, -⟩ | ⟨call, -, rfl, hworld⟩
        · exact Or.inl rfl
        · refine Or.inr ⟨(id, f), flights_of_stage hstage ▸ hmem, ?_⟩
          rcases Flight.calls_resume s m.clock f m.world with
            ⟨g, attempt, delay, hphase, hcalled⟩ | ⟨-, hsame⟩
          · rw [hresume, hworld] at hcalled
            obtain rfl := (List.cons.inj hcalled).1
            exact ⟨g, attempt, delay, hphase, rfl⟩
          · rw [hresume, hworld] at hsame
            exact absurd hsame (List.cons_ne_self _ _)
    | @lands f r leased world hmem hresume =>
        refine Or.inl ((calls_after m _ _ _).trans ?_)
        rcases world.handBack_events f.job.task leased with hevents | ⟨e, hevents⟩ <;>
          rw [hevents] <;> rfl

/-- **Sessions are opened by the flight that has its turn**, and only new ones. -/
theorem Move.opened (hm : Move s m m') : ∃ t₀, ∀ t g, m'.Engages t g →
    m.Engages t g ∨ t = t₀ ∧ m.world.Opened m'.world g.session := by
  rcases hm.noTurn_or_turn with ⟨dispatched, hno⟩ | ⟨stage, id, hstage, rfl⟩
  · refine ⟨"", fun t g hengages => Or.inl ?_⟩
    obtain ⟨e, he, htask, hg⟩ := hengages
    rcases List.mem_append.mp (hno.flights ▸ he) with hold | hnew
    · exact ⟨e, hold, htask, hg⟩
    · rw [hno.seeking e hnew] at hg
      cases hg
  · have hflights := flights_of_stage hstage
    have hturned := turned s m stage id
    generalize m.turn s stage id (stage.active.erase id) = after at hturned ⊢
    cases hturned with
    | absent _ =>
        refine ⟨"", fun t g hengages => Or.inl ?_⟩
        obtain ⟨e, he, hrest⟩ := hengages
        exact ⟨e, hflights ▸ he, hrest⟩
    | @goesOn f f' next world events hmem hresume hnext hcalls =>
        have hholding := Flight.holding_resume s m.clock f m.world
        rw [hresume] at hholding
        refine ⟨f.job.task, fun t g hengages => ?_⟩
        obtain ⟨e, he, rfl, hg⟩ := hengages
        rcases mem_setFlight he with rfl | ⟨hold, -⟩
        · have htask : f'.job.task = f.job.task :=
            congrArg Job.task (Flight.job_of_resume hresume hnext)
          have hg' : next.engagement? = some g := (Next.engagement?_of_flight? hnext).trans hg
          cases hheld : f.phase.engagement? with
          | none => exact Or.inr ⟨htask, hholding.opened hheld g hg'⟩
          | some g₀ =>
              rcases hholding.kept g₀ hheld with hkept | ⟨hnone, -⟩
              · obtain rfl : g₀ = g := Option.some.inj (hkept.symm.trans hg')
                exact Or.inl ⟨(id, f), hflights ▸ hmem, htask.symm, hheld⟩
              · cases hnone.symm.trans hg'
        · exact Or.inl ⟨e, hflights ▸ hold, rfl, hg⟩
    | @lands f r leased world hmem hresume =>
        refine ⟨"", fun t g hengages => Or.inl ?_⟩
        obtain ⟨e, he, hrest⟩ := hengages
        have hold : e ∈ (wakeAfter (stage.landing id r) leased).flights := he
        rw [flights_wakeAfter] at hold
        exact ⟨e, hflights ▸ (List.mem_filter.mp hold).1, hrest⟩

/-- **A flight that holds a session keeps it**, until it has the answer of its last attempt. -/
theorem Move.engages (horderly : m.Orderly) (hm : Move s m m') (h : m.Engages t g) :
    m'.Engages t g ∨ ∃ e ∈ m.flights, e.2.job.task = t ∧
      ∃ attempt delay answer, e.2.phase = .returned g attempt delay answer := by
  obtain ⟨e, he, htask, hg⟩ := h
  rcases hm.noTurn_or_turn with ⟨dispatched, hno⟩ | ⟨stage, id, hstage, rfl⟩
  · exact Or.inl ⟨e, hno.flights ▸ List.mem_append_left _ he, htask, hg⟩
  · have hnumbers := (horderly stage hstage).distinct
    rw [flights_of_stage hstage] at he
    have hturned := turned s m stage id
    generalize m.turn s stage id (stage.active.erase id) = after at hturned ⊢
    cases hturned with
    | absent _ => exact Or.inl ⟨e, he, htask, hg⟩
    | @goesOn f f' next world events hmem hresume hnext hcalls =>
        have hholding := Flight.holding_resume s m.clock f m.world
        rw [hresume] at hholding
        by_cases hid : e.1 = id
        · obtain rfl : e = (id, f) := List.inj_on_of_nodup_map hnumbers he hmem hid
          rcases hholding.kept g hg with hkept | ⟨-, hreturned⟩
          · refine Or.inl ⟨(id, f'), List.mem_map.mpr ⟨_, hmem, if_pos rfl⟩, ?_,
              (Next.engagement?_of_flight? hnext).symm.trans hkept⟩
            exact (congrArg Job.task (Flight.job_of_resume hresume hnext)).trans htask
          · exact Or.inr ⟨(id, f), flights_of_stage hstage ▸ hmem, htask, hreturned⟩
        · exact Or.inl ⟨e, List.mem_map.mpr ⟨e, he, if_neg hid⟩, htask, hg⟩
    | @lands f r leased world hmem hresume =>
        by_cases hid : e.1 = id
        · obtain rfl : e = (id, f) := List.inj_on_of_nodup_map hnumbers he hmem hid
          have hholding := Flight.holding_resume s m.clock f m.world
          rw [hresume] at hholding
          rcases hholding.kept g hg with hkept | ⟨-, hreturned⟩
          · cases hkept
          · exact Or.inr ⟨(id, f), flights_of_stage hstage ▸ hmem, htask, hreturned⟩
        · refine Or.inl ⟨e, ?_, htask, hg⟩
          show e ∈ (wakeAfter (stage.landing id r) leased).flights
          rw [flights_wakeAfter]
          exact List.mem_filter.mpr ⟨he, by simpa using hid⟩

/-- The sessions in use after a move were in use before, or have just been opened for one task. -/
theorem Move.uses (hm : Move s m m') : ∃ t₀, ∀ t h, m'.Uses t h →
    m.Uses t h ∨ t = t₀ ∧ m.world.Opened m'.world h := by
  obtain ⟨t₀, hopened⟩ := hm.opened
  refine ⟨t₀, fun t h huses => ?_⟩
  rcases huses with ⟨call, hcall, htask, hsession⟩ | ⟨g, hengages, rfl⟩
  · refine Or.inl ?_
    rcases hm.called with hsame | ⟨e, he, g, attempt, delay, hphase, hcons⟩
    · exact Or.inl ⟨call, hsame ▸ hcall, htask, hsession⟩
    · rw [hcons] at hcall
      rcases List.mem_cons.mp hcall with rfl | hold
      · exact Or.inr ⟨g, ⟨e, he, htask, by rw [hphase]; rfl⟩, hsession⟩
      · exact Or.inl ⟨call, hold, htask, hsession⟩
  · exact (hopened t g hengages).imp_left fun hold => Or.inr ⟨g, hold, rfl⟩

end Machine

/-! ## Sessions of different tasks -/

/-- **No two tasks use the same session**, and the memory service knows all of them. -/
structure SessionsApart (m : Machine) : Prop where
  issued : ∀ t h, m.Uses t h → ∃ k, h = .issued k ∧ k < m.world.memory.sessions.length
  apart : ∀ t t' h, m.Uses t h → m.Uses t' h → t = t'

theorem sessionsApart_start (w : Workflow) (schedule : Schedule) (world : World) :
    SessionsApart (Machine.start w schedule world) := by
  have hnone : ∀ t h, ¬ (Machine.start w schedule world).Uses t h := by
    rintro t h (⟨call, hcall, -⟩ | ⟨g, ⟨e, he, -⟩, -⟩)
    · cases hcall
    · cases he
  exact ⟨fun t h huses => absurd huses (hnone t h), fun t t' h huses => absurd huses (hnone t h)⟩

/-- **Every move** by which no session is forgotten. -/
theorem SessionsApart.move (hs : SessionsApart m) (hm : Move s m m')
    (hle : m.world.memory.sessions.length ≤ m'.world.memory.sessions.length) : SessionsApart m' := by
  obtain ⟨t₀, huses⟩ := hm.uses
  -- a new session is none of those that are in use
  have hfresh : ∀ {t h}, m.Uses t h → ¬ m.world.Opened m'.world h := by
    rintro t h hold ⟨k, rfl, hk, -⟩
    obtain ⟨k', heq, hlt⟩ := hs.issued t _ hold
    obtain rfl := Handle.issued.inj heq
    exact Nat.lt_irrefl _ (Nat.lt_of_lt_of_le hlt hk)
  constructor
  case issued =>
    intro t h hnow
    rcases huses t h hnow with hold | ⟨-, k, hk, -, hlt⟩
    · obtain ⟨k, hk, hlt⟩ := hs.issued t h hold
      exact ⟨k, hk, Nat.lt_of_lt_of_le hlt hle⟩
    · exact ⟨k, hk, hlt⟩
  case apart =>
    intro t t' h ht ht'
    rcases huses t h ht with hold | ⟨rfl, hopened⟩ <;> rcases huses t' h ht' with hold' | ⟨rfl, hopened'⟩
    · exact hs.apart t t' h hold hold'
    · exact absurd hopened' (hfresh hold)
    · exact absurd hopened (hfresh hold')
    · rfl

/-! ## Executions without panics -/

/-- A move in which no call of the memory service panics, and by which no session is forgotten. -/
structure Machine.CalmMove (s : Setup) (m m' : Machine) : Prop where
  move : Move s m m'
  calm : ∀ text, ¬ Panicked s.faults m.world.memoryCalls m'.world.memoryCalls text
  sessions : m.world.memory.sessions.length ≤ m'.world.memory.sessions.length

/-- **An execution without panics of the memory service**, with all moments that it has passed, the
    latest first. -/
inductive CalmPassage (s : Setup) (start : Machine) : List Machine → Machine → Prop
  | start : CalmPassage s start [start] start
  | move {past : List Machine} {m m' : Machine} (h : CalmPassage s start past m)
      (hm : CalmMove s m m') : CalmPassage s start (m' :: past) m'

namespace CalmPassage

theorem moves (h : CalmPassage s start past m) :
    Relation.ReflTransGen (CutMove s fun _ => False) start m := by
  induction h with
  | start => exact .refl
  | move _ hm ih => exact ih.tail ⟨hm.move, fun text hpanic => (hm.calm text hpanic).elim⟩

theorem sessionsApart (h : CalmPassage s (Machine.start w schedule world) past m) :
    SessionsApart m := by
  induction h with
  | start => exact sessionsApart_start w schedule world
  | move _ hm ih => exact ih.move hm.move hm.sessions

/-- Moments that follow each other are a move apart. -/
theorem exists_move (h : CalmPassage s start past m) {later earlier : List Machine} {m₁ m₂ : Machine}
    (hpast : past = later ++ m₂ :: m₁ :: earlier) :
    CalmPassage s start (m₁ :: earlier) m₁ ∧ CalmMove s m₁ m₂ := by
  induction h generalizing later with
  | start =>
      have hlength := congrArg List.length hpast
      simp only [List.length_append, List.length_cons, List.length_nil] at hlength
      omega
  | @move past m m' hbefore hm ih =>
      cases later with
      | cons m'' later => exact ih (List.cons.inj hpast).2
      | nil =>
          obtain ⟨rfl, rfl⟩ := List.cons.inj hpast
          cases hbefore with
          | start => exact ⟨.start, hm⟩
          | move hbefore' hm' => exact ⟨hbefore'.move hm', hm⟩

theorem mem (h : CalmPassage s start past m) : m ∈ past := by
  cases h <;> exact List.mem_cons_self

/-- Who calls the runner has a session. -/
theorem engaged_of_called (h : CalmPassage s (Machine.start w schedule world) past m) :
    ∀ call ∈ m.calls, ∃ m₁ ∈ past, ∃ g, m₁.Engages call.task g := by
  induction h with
  | start => exact fun call hcall => by cases hcall
  | @move past m m' hbefore hm ih =>
      intro call hcall
      have hold : call ∈ m.calls → ∃ m₁ ∈ m' :: past, ∃ g, m₁.Engages call.task g := fun hin => by
        obtain ⟨m₁, hm₁, hengages⟩ := ih call hin
        exact ⟨m₁, List.mem_cons_of_mem _ hm₁, hengages⟩
      rcases hm.move.called with hsame | ⟨e, he, g, attempt, delay, hphase, hcons⟩
      · exact hold (hsame ▸ hcall)
      · rw [hcons] at hcall
        rcases List.mem_cons.mp hcall with rfl | hin
        · exact ⟨m, List.mem_cons_of_mem _ hbefore.mem, g, e, he, rfl, by rw [hphase]; rfl⟩
        · exact hold hin

/-- **Who has a session calls the runner** before it gives it up. -/
theorem called_of_engaged (hmost : 0 < s.maxAttempts) (hnodup : (tasksOf schedule.levels).Nodup)
    (h : CalmPassage s (Machine.start w schedule world) past m) {m₁ : Machine} (hm₁ : m₁ ∈ past)
    (hengages : m₁.Engages t g) : m.Engages t g ∨ ∃ call ∈ m.calls, call.task = t := by
  induction h with
  | start => exact Or.inl (List.mem_singleton.mp hm₁ ▸ hengages)
  | @move past m m' hbefore hm ih =>
      have hmore : m.calls ⊆ m'.calls := by
        rcases hm.move.called with hsame | ⟨e, -, g, attempt, delay, -, hcons⟩
        · exact fun _ hin => hsame ▸ hin
        · exact fun _ hin => hcons ▸ List.mem_cons_of_mem _ hin
      have hcalled : ∀ {t}, (∃ call ∈ m.calls, call.task = t) → ∃ call ∈ m'.calls, call.task = t :=
        fun ⟨call, hin, htask⟩ => ⟨call, hmore hin, htask⟩
      rcases List.mem_cons.mp hm₁ with rfl | hm₁
      · exact Or.inl hengages
      rcases ih hm₁ with hheld | hin
      · obtain ⟨horderly, -, hlogged⟩ := logged_of_moves hmost hnodup hbefore.moves
        rcases hm.move.engages horderly hheld with hstill | ⟨e, he, rfl, attempt, delay, answer, hphase⟩
        · exact Or.inl hstill
        · -- the answer is that of an attempt
          obtain ⟨due, haccounts⟩ := hlogged.exists_accounts horderly he
          rw [hphase] at haccounts
          obtain ⟨before, a, has, -⟩ := haccounts
          obtain ⟨hin, htask⟩ := mem_of_mem_attemptsOf
            (show a ∈ attemptsOf s.runner world.calls m.calls e.2.job.task by rw [has]; simp)
          exact Or.inr (hcalled ⟨_, hin, htask⟩)
      · exact Or.inr (hcalled hin)

end CalmPassage

/-! ## Executions by the execution alone -/

namespace Machine

/-- An execution by itself takes no call of the memory service back, and forgets no session. -/
theorem SoleMove.onward (hm : SoleMove s m m') : m.world.Onward m'.world := by
  rcases hm.world with hsame | ⟨stage, id, hstage, rfl⟩
  · rw [hsame]
    exact .refl _
  · have hturned := turned s m stage id
    generalize m.turn s stage id (stage.active.erase id) = after at hturned ⊢
    cases hturned with
    | absent _ => exact .refl _
    | @goesOn f f' next world events hmem hresume hnext hcalls =>
        have honward := Flight.onward_resume s m.clock f m.world
        rw [hresume] at honward
        exact honward
    | @lands f r leased world hmem hresume =>
        have honward := Flight.onward_resume s m.clock f m.world
        rw [hresume] at honward
        refine honward.trans ?_
        show world.Onward (world.handBack f.job.task leased).1
        rcases world.handBack_world f.job.task leased with hsame | ⟨agent, pool, -, hreleased⟩
        · rw [hsame]
          exact .refl _
        · rw [hreleased]
          exact ⟨List.suffix_refl _, Nat.le_refl _⟩

theorem SoleInterleaving.onward (h : SoleInterleaving s start m) : start.world.Onward m.world := by
  induction h with
  | refl => exact .refl _
  | tail _ hlast ih => exact ih.trans hlast.onward

/-- **While nobody else uses the memory service**, its log tells whether one of the calls has panicked. -/
theorem SoleInterleaving.exists_calmPassage (h : SoleInterleaving s start m)
    (hcalm : ∀ text, ¬ Panicked s.faults start.world.memoryCalls m.world.memoryCalls text) :
    ∃ past, CalmPassage s start past m := by
  induction h with
  | refl => exact ⟨_, .start⟩
  | @tail m₁ m₂ hmoves hlast ih =>
      have hbefore := (SoleInterleaving.onward hmoves).memoryCalls
      have hnext := hlast.onward
      obtain ⟨past, hpassage⟩ := ih fun text hpanic =>
        hcalm text (hpanic.mono (List.suffix_refl _) hnext.memoryCalls)
      exact ⟨_, hpassage.move ⟨hlast.move,
        fun text hpanic => hcalm text (hpanic.mono hbefore (List.suffix_refl _)), hnext.sessions⟩⟩

end Machine

end Foreman
