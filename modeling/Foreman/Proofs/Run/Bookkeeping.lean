import Foreman.Proofs.Ledger
import Foreman.Proofs.Run.Landings
import Foreman.Proofs.Run.Leases

/-!
# `Foreman.Proofs.Run.Bookkeeping` — the books mirror the results

If the memory service has no faults, then what an execution leaves there can be read off from its
results. A task that had an agent has left a record; if its session could be opened, it has also left
that session, merged and closed by now, and an episode; and nothing else was added (`Left`). Whether
sessions can be opened may change at any time, also by what attempts do.

What a flight has in the books depends on its phase (`Flight.Traced`): a record soon after it has got its
agent, then an open session, and so on. At any moment, what the books hold beyond what they held before is
that of the flights and that of the results so far (`Booked`). An activity of one flight makes at most one
call of the service and only touches its own part of the ledger, whatever the others have there
(`Flight.booked_resume`), and so every move keeps this.

## Contents
- **`Record.Tells`**, **`Session.Tells`**, **`Episode.Tells`**, and `Left`: what results leave.
- **`Flight.Traced`**, `Next.Booked`, and **`Flight.booked_resume`** for one activity.
- **`OwnBooksInterleaving`**, where nobody else writes the books; `Booked` with `Booked.move`.
- **`Mirrored`**, `MirroredByTask`, and **`Engine.books_mirror_results`**.
-/

namespace Foreman

open Machine

variable {α β : Type} {w : Workflow} {s : Setup} {m m' : Machine} {stage : Stage} {f f' : Flight}
  {world : World} {job : Job} {schedule : Schedule} {agent : AgentId} {r : TaskResult}
  {rs : List TaskResult} {before memory : Memory} {others traces : List Trace} {n : Nat}

/-! ## What results leave in the books -/

/-- Why a task fails whose session is refused. -/
def refusal : TaskError :=
  .serviceUnavailable ("could not open workspace: " ++
    (MemoryError.unavailable "session creation disabled").message)

/-- **A record tells of a result.** -/
structure Record.Tells (workflow : String) (r : TaskResult) (record : Record) : Prop where
  title : record.definition.title = r.task
  workspace : record.definition.workspace = some workflow
  history : record.history =
    [.pending, .inProgress, if r.isSuccess then .completed else .failed]
  status : record.status = if r.isSuccess then .completed else .failed
  metadata : record.metadata = { duration := some r.duration, notes := r.error }

/-- **A session was that of a task with a result**, and is over. -/
structure Session.Tells (workflow : String) (strategy : MergeStrategy) (r : TaskResult)
    (session : Session) : Prop where
  owner : r.agent = some session.owner
  scope : session.scope =
    { paths := ["workflows/" ++ workflow ++ "/tasks/" ++ r.task]
      readOnlyPaths := ["workflows/" ++ workflow] }
  merged : session.mergedWith = some strategy
  closed : session.closed = true

/-- **An episode tells of a result.** -/
structure Episode.Tells (r : TaskResult) (episode : Episode) : Prop where
  task : episode.task = r.task
  agent : r.agent = some episode.agent
  attempts : episode.attempts = r.attempts
  duration : episode.duration = r.duration
  error : episode.error = r.error
  outcome : episode.outcome = if r.isSuccess then .success else .failure

/-- **What a task with a result has left in the books**: nothing without an agent, a record with one, and
    a session and an episode, too, if its session was not refused. -/
inductive Left (s : Setup) (r : TaskResult) : List Trace → Prop
  | nothing (hagent : r.agent = none) (hattempts : r.attempts = 0) : Left s r []
  | refused {record : Option Handle × Record} (hagent : r.agent.isSome = true)
      (hattempts : r.attempts = 0) (herror : r.error = some refusal.message)
      (hrecord : record.2.Tells s.workflow r) : Left s r [⟨record, none, none⟩]
  | worked {record : Option Handle × Record} {session : Handle × Session} {episode : Episode}
      (hattempts : 0 < r.attempts) (hrecord : record.2.Tells s.workflow r)
      (hsession : session.2.Tells s.workflow s.config.mergeStrategy r) (hepisode : episode.Tells r) :
      Left s r [⟨record, some session, some episode⟩]

namespace Flight

/-- The record of a task at work. -/
def recordOf (s : Setup) (job : Job) : Record :=
  { definition := definitionOf s job, status := .inProgress, history := [.pending, .inProgress] }

/-- The session of a task at work. -/
def sessionOf (s : Setup) (job : Job) (agent : AgentId) : Session :=
  { owner := agent, scope := scopeOf s job }

/-- The record of a task with a result. -/
def closedRecord (s : Setup) (job : Job) (r : TaskResult) : Record :=
  (recordOf s job).updated (if r.isSuccess then .completed else .failed)
    { duration := some r.duration, notes := r.error }

/-- The session of a task with a result, once it is merged. -/
def mergedSession (s : Setup) (job : Job) (agent : AgentId) : Session :=
  { sessionOf s job agent with mergedWith := some s.config.mergeStrategy }

/-- The session of a task with a result, once it is over. -/
def closedSession (s : Setup) (job : Job) (agent : AgentId) : Session :=
  { mergedSession s job agent with closed := true }

theorem tells_closedRecord (htask : r.task = job.task) : (closedRecord s job r).Tells s.workflow r :=
  ⟨htask.symm, rfl, rfl, rfl, rfl⟩

theorem tells_closedSession (htask : r.task = job.task) (hagent : r.agent = some agent) :
    (closedSession s job agent).Tells s.workflow s.config.mergeStrategy r :=
  ⟨hagent, by rw [htask]; rfl, rfl, rfl⟩

theorem agent_resultOf (f : Flight) (agent : AgentId) (u : Upshot) :
    (f.resultOf agent u).agent = some agent := by
  unfold resultOf
  split <;> rfl

theorem attempts_resultOf (f : Flight) (agent : AgentId) (u : Upshot) :
    (f.resultOf agent u).attempts = u.attempts := by
  unfold resultOf
  split <;> rfl

theorem tells_episodeOf (f : Flight) (agent : AgentId) (u : Upshot) (now : Nat) :
    (f.episodeOf agent u now).Tells (f.resultOf agent u) :=
  ⟨(task_resultOf f agent u).symm, agent_resultOf f agent u, rfl, rfl, rfl, rfl⟩

end Flight

/-! ## Flights and their traces -/

/-- What a task at work has in the books. -/
def traceOf (s : Setup) (job : Job) (e : Engagement) : Trace :=
  ⟨(e.record, Flight.recordOf s job), some (e.session, Flight.sessionOf s job e.agent), none⟩

/-- **What a task has in the books that is about to close them**: everything that the steps so far have
    left there; or only its record, if its session was refused. -/
inductive Closing.Traced (s : Setup) (f : Flight) (agent : AgentId) (u : Upshot) :
    Closing → List Trace → Prop
  | merge {record : Option Handle} {session : Handle} (hattempts : 0 < u.attempts) :
      Traced s f agent u (.merge record session) [traceOf s f.job ⟨agent, record, session⟩]
  | close {record : Option Handle} {session : Handle} (hattempts : 0 < u.attempts) :
      Traced s f agent u (.close record session)
        [⟨(record, Flight.recordOf s f.job), some (session, Flight.mergedSession s f.job agent), none⟩]
  | store {record : Option Handle} {session : Handle} (hattempts : 0 < u.attempts) :
      Traced s f agent u (.store record)
        [⟨(record, Flight.recordOf s f.job), some (session, Flight.closedSession s f.job agent), none⟩]
  | sign {record : Option Handle} {session : Handle} {episode : Episode} (hattempts : 0 < u.attempts)
      (hepisode : episode.Tells (f.resultOf agent u)) :
      Traced s f agent u (.sign record) [⟨(record, Flight.recordOf s f.job),
        some (session, Flight.closedSession s f.job agent), some episode⟩]
  | refused {record : Option Handle} (hattempts : u.attempts = 0) (herror : u.answer = .error refusal) :
      Traced s f agent u (.sign record) [⟨(record, Flight.recordOf s f.job), none, none⟩]

/-- **What a flight has in the books.** The number of an attempt is one at least. -/
def Flight.Traced (s : Setup) (f : Flight) (traces : List Trace) : Prop :=
  match f.phase with
  | .seeking | .claiming _ | .opening _ .record => traces = []
  | .opening _ (.mark record) => traces = [⟨(record, { definition := definitionOf s f.job }), none, none⟩]
  | .opening _ (.session record) => traces = [⟨(record, recordOf s f.job), none, none⟩]
  | .calling e attempt _ | .working e attempt _ _ _ | .returned e attempt _ _ | .rested e attempt _ =>
    0 < attempt ∧ traces = [traceOf s f.job e]
  | .closing agent step u => step.Traced s f agent u traces

/-- **What a flight comes to, and the books with it**, apart from some other traces. -/
def Next.Booked (s : Setup) (before : Memory) (others : List Trace) (memory : Memory) : Next → Prop
  | .atOnce f | .again f | .sleep _ f | .wait _ f =>
    ∃ traces, f.Traced s traces ∧ Ledger before (traces ++ others) memory
  | .land r _ => ∃ left, Left s r left ∧ Ledger before (left ++ others) memory

namespace Flight

/-- A call of the memory service goes through, or is refused by the operation. -/
theorem booked_consult {call : MemoryCall} {op : Memory → Except MemoryError (α × Memory)}
    {next : Except MemoryError α → Next} (hfaults : s.faults = noFaults)
    (hop : (∃ e, op world.memory = .error e ∧ (next (.error e)).Booked s before others world.memory) ∨
      ∃ a memory, op world.memory = .ok (a, memory) ∧ (next (.ok a)).Booked s before others memory) :
    (f.consult s agent call op next world).1.Booked s before others
      (f.consult s agent call op next world).2.memory := by
  rw [consult_of_noFaults hfaults]
  rcases hop with ⟨e, hcase, hbooked⟩ | ⟨a, memory, hcase, hbooked⟩ <;>
    (rw [hcase]; exact hbooked)

/-- An update of a record in the ledger goes through, and what follows it. -/
theorem booked_updateRecord {call : MemoryCall} {record : Handle} {known : Record}
    {session : Option (Handle × Session)} {episode : Option Episode} {status : RecordStatus}
    {metadata : RecordMetadata} {next : Next} (hfaults : s.faults = noFaults)
    (hledger : Ledger before (⟨(some record, known), session, episode⟩ :: others) world.memory)
    (hnext : ∀ memory, Ledger before
      (⟨(some record, known.updated status metadata), session, episode⟩ :: others) memory →
      next.Booked s before others memory) :
    (f.consult s agent call (fun m => (m.updateRecord record status metadata).map fun m => ((), m))
        (fun _ => next) world).1.Booked s before others
      (f.consult s agent call (fun m => (m.updateRecord record status metadata).map fun m => ((), m))
        (fun _ => next) world).2.memory := by
  obtain ⟨_, memory, ⟨⟩, hupdate, hledger'⟩ := hledger.updateRecord status metadata
  exact booked_consult hfaults (Or.inr ⟨(), memory, by rw [hupdate]; rfl, hnext memory hledger'⟩)

/-- Every record in the ledger is known by a name. -/
theorem not_ledger_of_unnamed {known : Record} {session : Option (Handle × Session)}
    {episode : Option Episode} :
    ¬ Ledger before (⟨(none, known), session, episode⟩ :: others) memory := by
  intro hledger
  obtain ⟨_, _, hnone, -⟩ := hledger.updateRecord .failed {}
  cases hnone

/-- **The books are opened**, one entry after the other. -/
theorem booked_openUp (hfaults : s.faults = noFaults) (now : Nat) {step : Opening}
    (htraced : (f.enter (.opening agent step)).Traced s traces)
    (hledger : Ledger before (traces ++ others) world.memory) :
    (f.openUp s now agent step world).1.Booked s before others
      (f.openUp s now agent step world).2.memory := by
  cases step with
  | record =>
      obtain rfl : traces = [] := htraced
      exact booked_consult hfaults (Or.inr ⟨_, _, rfl, _, rfl, hledger.createRecord _⟩)
  | mark record =>
      obtain rfl : traces = [_] := htraced
      cases record with
      | none => exact absurd hledger not_ledger_of_unnamed
      | some record =>
          exact booked_updateRecord hfaults hledger fun memory hledger' => ⟨_, rfl, hledger'⟩
  | session record =>
      obtain rfl : traces = [_] := htraced
      refine booked_consult hfaults ?_
      rcases hledger.createSession agent (scopeOf s f.job) with hrefused | ⟨session, memory, hgranted, h⟩
      · refine Or.inl ⟨_, hrefused, _, ?_, hledger⟩
        exact Closing.Traced.refused rfl rfl
      · exact Or.inr ⟨session, memory, hgranted, _, ⟨Nat.one_pos, rfl⟩, h⟩

/-- **The books are closed**, one entry after the other. -/
theorem booked_closeUp (hfaults : s.faults = noFaults) (now : Nat) {step : Closing} {u : Upshot}
    (htraced : step.Traced s f agent u traces)
    (hledger : Ledger before (traces ++ others) world.memory) :
    (f.closeUp s now agent u step world).1.Booked s before others
      (f.closeUp s now agent u step world).2.memory := by
  have htask := task_resultOf f agent u
  cases htraced with
  | @merge record session hattempts =>
      obtain ⟨report, memory, hmerge, h⟩ := hledger.mergeSession rfl rfl s.config.mergeStrategy
      exact booked_consult hfaults (Or.inr ⟨report, memory, hmerge, _, .close hattempts, h⟩)
  | @close record session hattempts =>
      obtain ⟨memory, hclose, h⟩ := hledger.closeSession
      refine booked_consult hfaults (Or.inr ⟨(), memory, ?_, _, .store hattempts, h⟩)
      rw [show world.memory.closeSession session agent = .ok memory from hclose]
      rfl
  | @store record session hattempts =>
      exact booked_consult hfaults
        (Or.inr ⟨(), _, rfl, _, .sign hattempts (tells_episodeOf f agent u now), hledger.storeEpisode _⟩)
  | @sign record session episode hattempts hepisode =>
      cases record with
      | none => exact absurd hledger not_ledger_of_unnamed
      | some record =>
          refine booked_updateRecord hfaults hledger fun memory h => ⟨[_], ?_, h⟩
          exact Left.worked (by rwa [attempts_resultOf]) (tells_closedRecord htask)
            (tells_closedSession htask (agent_resultOf f agent u)) hepisode
  | @refused record hattempts herror =>
      cases record with
      | none => exact absurd hledger not_ledger_of_unnamed
      | some record =>
          refine booked_updateRecord hfaults hledger fun memory h => ⟨[_], ?_, h⟩
          refine Left.refused (by rw [agent_resultOf]; rfl) (by rwa [attempts_resultOf]) ?_
            (tells_closedRecord htask)
          rw [resultOf, herror]
          rfl

/-- What an attempt does to the service changes at most whether it opens sessions. -/
theorem sameBooks_onMemory (action : Action) (memory : Memory) :
    memory.SameBooks (action.onMemory memory) := by
  cases action <;> exact ⟨rfl, rfl, rfl, rfl⟩

/-- **An attempt** adds nothing to the books. -/
theorem booked_workOn (now : Nat) (f : Flight) (e : Engagement) {attempt : Nat} (hattempt : 0 < attempt)
    (delay : Duration) (ending : Ending) (course : List Activity)
    (hledger : Ledger before (traceOf s f.job e :: others) world.memory) :
    (workOn now f e attempt delay ending course world).1.Booked s before others
      (workOn now f e attempt delay ending course world).2.memory := by
  induction course generalizing world with
  | nil => exact ⟨_, ⟨hattempt, rfl⟩, hledger⟩
  | cons activity rest ih =>
      cases activity with
      | pause length =>
          unfold workOn
          split
          · exact ih hledger
          · exact ⟨_, ⟨hattempt, rfl⟩, hledger⟩
      | act action => exact ih (hledger.congr (sameBooks_onMemory action world.memory))

/-- A flight without an agent has nothing in the books. -/
theorem Traced.eq_nil (h : f.Traced s traces) (hfree : f.phase.lease = none) : traces = [] := by
  unfold Traced at h
  cases hphase : f.phase with
  | seeking | claiming agent =>
      rw [hphase] at h
      exact h
  | opening agent step | closing agent step u | calling e attempt delay
  | working e attempt delay rest ending | returned e attempt delay answer | rested e attempt delay =>
      rw [hphase] at hfree
      cases hfree

/-- **Every activity keeps the books.** -/
theorem booked_resume (hfaults : s.faults = noFaults) (htraced : f.Traced s traces) (now : Nat)
    (hledger : Ledger before (traces ++ others) world.memory) :
    (f.resume s now world).1.Booked s before others (f.resume s now world).2.memory := by
  have hacts := acts_resume s now f world
  generalize f.resume s now world = out at hacts ⊢
  have hphased := htraced
  unfold Traced at hphased
  cases hacts with
  | searches hfree hsearches =>
      obtain rfl := htraced.eq_nil hfree
      obtain ⟨found, h⟩ := hsearches.exists_searched
      rw [← h.memory] at hledger
      cases hsearches with
      | leased _ _ | found _ _ _ | lost _ _ => exact ⟨[], rfl, hledger⟩
      | busy _ _ _ _ => exact ⟨[], htraced, hledger⟩
      | impossible _ _ _ _ => exact ⟨[], .nothing rfl rfl, hledger⟩
  | @opens agent step hphase =>
      have henter : f.enter (.opening agent step) = f := by rw [← hphase]; rfl
      exact booked_openUp hfaults now (henter.symm ▸ htraced) hledger
  | closes hphase =>
      rw [hphase] at hphased
      exact booked_closeUp hfaults now hphased hledger
  | calls hphase =>
      rw [hphase] at hphased
      obtain ⟨hattempt, rfl⟩ := hphased
      exact booked_workOn now f _ hattempt _ _ _ hledger
  | works hphase =>
      rw [hphase] at hphased
      obtain ⟨hattempt, rfl⟩ := hphased
      exact booked_workOn now f _ hattempt _ _ _ hledger
  | rests hphase =>
      rw [hphase] at hphased
      exact ⟨traces, hphased, hledger⟩
  | answered hphase hanswered =>
      rw [hphase] at hphased
      obtain ⟨hattempt, rfl⟩ := hphased
      cases hanswered with
      | counts _ => exact ⟨_, Closing.Traced.merge hattempt, hledger⟩
      | repeated _ _ | delayed _ _ => exact ⟨_, ⟨Nat.succ_pos _, rfl⟩, hledger⟩

end Flight

theorem Next.Booked.of_flight? {next : Next} (h : next.Booked s before others memory)
    (hnext : next.flight? = some f) :
    ∃ traces, f.Traced s traces ∧ Ledger before (traces ++ others) memory := by
  cases next with
  | land r leased => cases hnext
  | atOnce f' | again f' | sleep due f' | wait due f' =>
      obtain rfl := Option.some.inj hnext
      exact h

/-! ## Lists one to one -/

/-- Two lists correspond one to one. -/
def OneToOne (R : α → β → Prop) (as : List α) (bs : List β) : Prop :=
  ∃ bs', List.Forall₂ R as bs' ∧ bs'.Perm bs

theorem OneToOne.perm {R : α → β → Prop} {as as' : List α} {bs : List β} (h : OneToOne R as bs)
    (hperm : as.Perm as') : OneToOne R as' bs := by
  obtain ⟨bs', hall, hbs⟩ := h
  obtain ⟨cs, hcs, hsame⟩ := List.perm_comp_forall₂ hperm.symm hall
  exact ⟨cs, hcs, hsame.trans hbs⟩

theorem OneToOne.length_eq {R : α → β → Prop} {as : List α} {bs : List β} (h : OneToOne R as bs) :
    as.length = bs.length := by
  obtain ⟨bs', hall, hbs⟩ := h
  exact hall.length_eq.trans hbs.length_eq

theorem exists_of_mem_right {R : α → β → Prop} {as : List α} {bs : List β} (h : List.Forall₂ R as bs)
    {b : β} (hb : b ∈ bs) : ∃ a ∈ as, R a b := by
  induction h with
  | nil => cases hb
  | cons hab _ ih =>
      rcases List.mem_cons.mp hb with rfl | hb
      · exact ⟨_, List.mem_cons_self, hab⟩
      · obtain ⟨a, ha, hab⟩ := ih hb
        exact ⟨a, List.mem_cons_of_mem _ ha, hab⟩

theorem OneToOne.exists_left {R : α → β → Prop} {as : List α} {bs : List β} (h : OneToOne R as bs)
    {b : β} (hb : b ∈ bs) : ∃ a ∈ as, R a b := by
  obtain ⟨bs', hall, hbs⟩ := h
  exact exists_of_mem_right hall (hbs.mem_iff.mpr hb)

/-! ## Books along an execution -/

/-- A move of an execution whose books nobody else writes: they are as before, unless a flight had its
    turn. Whether sessions are refused, and the pool, may change at any time. -/
structure OwnBooksMove (s : Setup) (m m' : Machine) : Prop where
  move : Move s m m'
  books : m.world.memory.SameBooks m'.world.memory ∨
    ∃ stage id, m.stage = some stage ∧ m' = m.turn s stage id (stage.active.erase id)

/-- **Any number of moves while nobody else writes the books.** -/
abbrev OwnBooksInterleaving (s : Setup) : Machine → Machine → Prop :=
  Relation.ReflTransGen (OwnBooksMove s)

theorem OwnBooksInterleaving.interleaving (h : OwnBooksInterleaving s m m') : Interleaving s m m' :=
  Relation.ReflTransGen.mono (fun _ _ => OwnBooksMove.move) _ _ h

theorem Machine.SoleInterleaving.ownBooks (h : SoleInterleaving s m m') :
    OwnBooksInterleaving s m m' :=
  Relation.ReflTransGen.mono (fun _ _ hm => ⟨hm.move, hm.world.imp_left fun hsame => by
    rw [hsame]
    exact .refl _⟩) _ _ h

/-- **The books of an execution**: what they hold beyond what they held before is what the flights have
    there, and what those have left that have landed. -/
def Booked (s : Setup) (before : Memory) (m : Machine) : Prop :=
  ∃ owned lefts, OneToOne (fun e traces => e.2.Traced s traces) m.flights owned ∧
    List.Forall₂ (Left s) m.landings lefts ∧
      Ledger before (owned.flatten ++ lefts.flatten) m.world.memory

namespace Booked

theorem start (schedule : Schedule) (world : World) :
    Booked s world.memory (Machine.start w schedule world) :=
  ⟨[], [], ⟨[], .nil, .refl _⟩, .nil, .refl _⟩

/-- What a flight and the others have in the books. -/
theorem apart (h : Booked s before m) (hstage : m.stage = some stage) (horderly : stage.Orderly)
    (hmem : (n, f) ∈ stage.flights) :
    ∃ traces others lefts, f.Traced s traces ∧
      List.Forall₂ (fun e traces => e.2.Traced s traces) (stage.others n) others ∧
      List.Forall₂ (Left s) m.landings lefts ∧
      Ledger before (traces ++ (others.flatten ++ lefts.flatten)) m.world.memory := by
  obtain ⟨owned, lefts, howned, hlefts, hledger⟩ := h
  rw [flights_of_stage hstage] at howned
  obtain ⟨sorted, hall, hperm⟩ := howned.perm (flights_perm horderly hmem)
  cases hall with
  | @cons _ traces _ others htraced hothers =>
      refine ⟨traces, others, lefts, htraced, hothers, hlefts, hledger.perm ?_⟩
      have hflat := hperm.symm.flatten.append_right lefts.flatten
      rwa [List.flatten_cons, List.append_assoc] at hflat

/-- A flight goes on, in its turn. -/
theorem goesOn (h : Booked s before m) (hstage : m.stage = some stage) (horderly : stage.Orderly)
    (hmem : (n, f) ∈ stage.flights)
    (hactivity : ∀ traces others, f.Traced s traces → Ledger before (traces ++ others) m.world.memory →
      ∃ traces', f'.Traced s traces' ∧ Ledger before (traces' ++ others) m'.world.memory)
    (hflights : m'.flights = (setFlight stage n f').flights) (hlandings : m'.landings = m.landings) :
    Booked s before m' := by
  obtain ⟨traces, others, lefts, htraced, hothers, hlefts, hledger⟩ := h.apart hstage horderly hmem
  obtain ⟨traces', htraced', hledger'⟩ := hactivity _ _ htraced hledger
  refine ⟨traces' :: others, lefts, ?_, hlandings ▸ hlefts, ?_⟩
  · rw [hflights]
    exact OneToOne.perm ⟨_, .cons htraced' hothers, .refl _⟩
      (flights_setFlight_perm horderly hmem f').symm
  · rwa [List.flatten_cons, List.append_assoc]

/-- A flight lands. -/
theorem lands (h : Booked s before m) (hstage : m.stage = some stage) (horderly : stage.Orderly)
    (hmem : (n, f) ∈ stage.flights)
    (hactivity : ∀ traces others, f.Traced s traces → Ledger before (traces ++ others) m.world.memory →
      ∃ left, Left s r left ∧ Ledger before (left ++ others) m'.world.memory)
    (hflights : m'.flights = stage.others n) (hlandings : m'.landings = m.landings ++ [r]) :
    Booked s before m' := by
  obtain ⟨traces, others, lefts, htraced, hothers, hlefts, hledger⟩ := h.apart hstage horderly hmem
  obtain ⟨left, hleft, hledger'⟩ := hactivity _ _ htraced hledger
  refine ⟨others, lefts ++ [left], ⟨others, hflights ▸ hothers, .refl _⟩, ?_, hledger'.perm ?_⟩
  · rw [hlandings]
    exact List.rel_append hlefts (.cons hleft .nil)
  · rw [List.flatten_append, List.flatten_singleton, ← List.append_assoc others.flatten]
    exact List.perm_append_comm

/-- **A turn of a flight.** -/
theorem turn (hfaults : s.faults = noFaults) (h : Booked s before m) (hstage : m.stage = some stage)
    (horderly : stage.Orderly) (n : Nat) :
    Booked s before (m.turn s stage n (stage.active.erase n)) := by
  have hflights := flights_of_stage hstage
  have hturned := turned s m stage n
  generalize m.turn s stage n (stage.active.erase n) = after at hturned ⊢
  -- the activity of the flight keeps the books, whatever else is there
  have hresumes : ∀ (f : Flight) next world, f.resume s m.clock m.world = (next, world) →
      ∀ traces others, f.Traced s traces → Ledger before (traces ++ others) m.world.memory →
      next.Booked s before others world.memory := fun f next world hresume traces others htraced
        hledger => by
    have hbooked := Flight.booked_resume hfaults htraced m.clock hledger
    rwa [hresume] at hbooked
  cases hturned with
  | absent habsent =>
      obtain ⟨owned, lefts, howned, hlefts, hledger⟩ := h
      exact ⟨owned, lefts, hflights ▸ howned, hlefts, hledger⟩
  | @goesOn f f' next world events hmem hresume hnext hcalls =>
      refine h.goesOn hstage horderly hmem (fun traces others htraced hledger =>
        (hresumes f next world hresume traces others htraced hledger).of_flight? hnext) rfl ?_
      -- a call is no landing
      rcases hcalls with ⟨rfl, -⟩ | ⟨call, -, rfl, -⟩
      · rfl
      · exact (landings_append rfl).trans (List.append_nil _)
  | @lands f r leased world hmem hresume =>
      have hmemory : (world.handBack f.job.task leased).1.memory = world.memory := by
        rcases world.handBack_world f.job.task leased with hsame | ⟨agent, pool, -, hreleased⟩
        · rw [hsame]
        · rw [hreleased]
      refine h.lands (r := r) hstage horderly hmem (fun traces others htraced hledger => ?_) ?_ ?_
      · rw [show (after m _ _ _).world.memory = world.memory from hmemory]
        exact hresumes f _ world hresume traces others htraced hledger
      · exact flights_wakeAfter _ _
      · rw [landings_append rfl]
        rcases world.handBack_events f.job.task leased with hnone | ⟨e, he⟩
        · rw [hnone]
          rfl
        · rw [he]
          rfl

/-- Whatever else happens, flights that have just been dispatched have nothing in the books. -/
theorem elsewhere (h : Booked s before m) {dispatched : List (Nat × Flight)}
    (hno : NoTurn s m m' dispatched) (hlandings : m'.landings = m.landings)
    (hbooks : m.world.memory.SameBooks m'.world.memory) : Booked s before m' := by
  obtain ⟨owned, lefts, ⟨sorted, hall, hperm⟩, hlefts, hledger⟩ := h
  have hnew : List.Forall₂ (fun e traces => e.2.Traced s traces) dispatched
      (dispatched.map fun _ => []) := by
    refine List.forall₂_map_right_iff.mpr (List.forall₂_same.mpr fun e he => ?_)
    simp [Flight.Traced, hno.seeking e he]
  refine ⟨owned ++ dispatched.map fun _ => [], lefts, ?_, hlandings ▸ hlefts, ?_⟩
  · rw [hno.flights]
    exact ⟨_, List.rel_append hall hnew, hperm.append_right _⟩
  · rw [List.flatten_append, show (dispatched.map fun _ => ([] : List Trace)).flatten = [] by simp,
      List.append_nil]
    exact hledger.congr hbooks

/-- **Every move while nobody else writes the books.** -/
theorem move (hfaults : s.faults = noFaults) (horderly : m.Orderly) (h : Booked s before m)
    (hm : OwnBooksMove s m m') : Booked s before m' := by
  rcases hm.books with hbooks | ⟨stage, id, hstage, rfl⟩
  · rcases hm.move.noTurn_or_turn with ⟨dispatched, hno⟩ | ⟨stage, id, hstage, rfl⟩
    · rcases hm.move.landings_eq_or_turn with hlandings | ⟨stage, id, hstage, rfl⟩
      · exact h.elsewhere hno hlandings hbooks
      · exact h.turn hfaults hstage (horderly _ hstage) id
    · exact h.turn hfaults hstage (horderly _ hstage) id
  · exact h.turn hfaults hstage (horderly _ hstage) id

theorem of_ownBooks (hfaults : s.faults = noFaults)
    (hm : OwnBooksInterleaving s (Machine.start w schedule world) m) : Booked s world.memory m := by
  induction hm with
  | refl => exact start schedule world
  | tail hmoves hlast ih =>
      have horderly := (OwnBooksInterleaving.interleaving hmoves).invariant
        (orderly_of_stage_none (m := Machine.start w schedule world) rfl) fun _ _ h hm => h.move hm
      exact ih.move hfaults horderly hlast

end Booked

/-! ## Books and results -/

/-- **The books mirror some results**: since `before`, just what the results tell was added. -/
structure Mirrored (workflow : String) (strategy : MergeStrategy) (before after : Memory)
    (rs : List TaskResult) : Prop where
  /-- One record for each task that had an agent. -/
  records : ∃ added, after.records = before.records ++ added ∧
    OneToOne (Record.Tells workflow) (rs.filter fun r => r.agent.isSome) added
  /-- One session for each task that made an attempt. -/
  sessions : ∃ added, after.sessions = before.sessions ++ added ∧
    OneToOne (Session.Tells workflow strategy) (rs.filter fun r => 0 < r.attempts) added ∧
    after.version = before.version + added.length
  /-- One episode for each of these, too. -/
  episodes : ∃ added, after.episodes = before.episodes ++ added ∧
    OneToOne Episode.Tells (rs.filter fun r => 0 < r.attempts) added
  openSessions : after.openSessions = before.openSessions
  /-- A task that made no attempt had no agent, or its session was refused. -/
  unattempted : ∀ r ∈ rs, r.attempts = 0 → r.agent = none ∨ r.error = some refusal.message

section Left

variable {lefts : List (List Trace)}

theorem forall₂_records (h : List.Forall₂ (Left s) rs lefts) :
    List.Forall₂ (Record.Tells s.workflow) (rs.filter fun r => r.agent.isSome)
      (lefts.flatten.map fun trace => trace.record.2) := by
  induction h with
  | nil => exact .nil
  | cons hleft _ ih =>
      cases hleft with
      | nothing hagent hattempts => simpa [hagent] using ih
      | refused hagent hattempts herror hrecord => simpa [hagent, hrecord] using ih
      | worked hattempts hrecord hsession hepisode => simpa [hsession.owner, hrecord] using ih

theorem forall₂_sessions (h : List.Forall₂ (Left s) rs lefts) :
    List.Forall₂ (Session.Tells s.workflow s.config.mergeStrategy) (rs.filter fun r => 0 < r.attempts)
      ((lefts.flatten.filterMap Trace.session).map Prod.snd) := by
  induction h with
  | nil => exact .nil
  | cons hleft _ ih =>
      cases hleft with
      | nothing hagent hattempts => simpa [hattempts] using ih
      | refused hagent hattempts herror hrecord => simpa [hattempts] using ih
      | worked hattempts hrecord hsession hepisode => simpa [hattempts, hsession] using ih

theorem forall₂_episodes (h : List.Forall₂ (Left s) rs lefts) :
    List.Forall₂ Episode.Tells (rs.filter fun r => 0 < r.attempts)
      (lefts.flatten.filterMap Trace.episode) := by
  induction h with
  | nil => exact .nil
  | cons hleft _ ih =>
      cases hleft with
      | nothing hagent hattempts => simpa [hattempts] using ih
      | refused hagent hattempts herror hrecord => simpa [hattempts] using ih
      | worked hattempts hrecord hsession hepisode => simpa [hattempts, hepisode] using ih

/-- A session was merged just by a task that made an attempt. -/
theorem countP_isMerged (h : List.Forall₂ (Left s) rs lefts) :
    lefts.flatten.countP Trace.isMerged = (rs.filter fun r => 0 < r.attempts).length := by
  induction h with
  | nil => rfl
  | cons hleft _ ih =>
      cases hleft with
      | nothing hagent hattempts => simpa [hattempts] using ih
      | refused hagent hattempts herror hrecord => simpa [hattempts, Trace.isMerged] using ih
      | worked hattempts hrecord hsession hepisode =>
          simpa [hattempts, Trace.isMerged, hsession.merged] using ih

theorem unattempted_of_forall₂ (h : List.Forall₂ (Left s) rs lefts) :
    ∀ r ∈ rs, r.attempts = 0 → r.agent = none ∨ r.error = some refusal.message := by
  induction h with
  | nil => exact fun _ hr => absurd hr List.not_mem_nil
  | cons hleft _ ih =>
      refine List.forall_mem_cons.mpr ⟨fun hnone => ?_, ih⟩
      cases hleft with
      | nothing hagent hattempts => exact Or.inl hagent
      | refused hagent hattempts herror hrecord => exact Or.inr herror
      | worked hattempts hrecord hsession hepisode => exact absurd hnone (Nat.ne_of_gt hattempts)

end Left

/-- The order of results does not matter. -/
theorem Mirrored.perm {workflow : String} {strategy : MergeStrategy} {after : Memory}
    {rs rs' : List TaskResult} (h : Mirrored workflow strategy before after rs) (hperm : rs.Perm rs') :
    Mirrored workflow strategy before after rs' := by
  obtain ⟨⟨records, hrecords, hr⟩, ⟨sessions, hsessions, hs, hversion⟩, ⟨stored, hepisodes, he⟩, hopen,
    hunattempted⟩ := h
  exact ⟨⟨records, hrecords, hr.perm (hperm.filter _)⟩,
    ⟨sessions, hsessions, hs.perm (hperm.filter _), hversion⟩,
    ⟨stored, hepisodes, he.perm (hperm.filter _)⟩, hopen,
    fun r hr => hunattempted r (hperm.mem_iff.mpr hr)⟩

/-- **At the end, the books mirror the landings.** -/
theorem Booked.mirrored (h : Booked s before m) (hdone : m.isDone = true) :
    Mirrored s.workflow s.config.mergeStrategy before m.world.memory m.landings := by
  obtain ⟨owned, lefts, howned, hlefts, hledger⟩ := h
  have hend : m.stage = none ∧ m.levels = [] := by simpa [isDone] using hdone
  rw [flights_of_stage_none hend.1] at howned
  obtain rfl : owned = [] := List.length_eq_zero_iff.mp howned.length_eq.symm
  rw [List.flatten_nil, List.nil_append] at hledger
  obtain ⟨records, hrecords, hrecordsPerm⟩ := hledger.records.exists_added
  obtain ⟨sessions, hsessions, hsessionsPerm⟩ := hledger.sessions.exists_added
  obtain ⟨episodes, hepisodes, hepisodesPerm⟩ := hledger.episodes
  rw [List.map_map] at hrecordsPerm
  have hr : OneToOne (Record.Tells s.workflow) _ records :=
    ⟨_, forall₂_records hlefts, hrecordsPerm.symm⟩
  have hs : OneToOne (Session.Tells s.workflow s.config.mergeStrategy) _ sessions :=
    ⟨_, forall₂_sessions hlefts, hsessionsPerm.symm⟩
  have he : OneToOne Episode.Tells _ episodes := ⟨_, forall₂_episodes hlefts, hepisodesPerm.symm⟩
  refine ⟨⟨records, hrecords, hr⟩, ⟨sessions, hsessions, hs, ?_⟩, ⟨episodes, hepisodes, he⟩, ?_,
    unattempted_of_forall₂ hlefts⟩
  · rw [hledger.version, countP_isMerged hlefts, hs.length_eq]
  · have hnone : sessions.countP (fun session => !session.closed) = 0 := by
      refine List.countP_eq_zero.mpr fun session hsession => ?_
      obtain ⟨r, -, htells⟩ := hs.exists_left hsession
      simp [htells.closed]
    rw [Memory.openSessions, hsessions, List.countP_append, hnone, Nat.add_zero, Memory.openSessions]

/-- **The books mirror the results by task.** -/
structure MirroredByTask (workflow : String) (strategy : MergeStrategy) (before after : Memory)
    (results : NameMap TaskResult) : Prop where
  mirrored : Mirrored workflow strategy before after results.values
  named : ∀ t r, results.find? t = some r → r.task = t

theorem Mirrored.byTask {workflow : String} {strategy : MergeStrategy} {after : Memory}
    (h : Mirrored workflow strategy before after m.landings) (hm : Filed m) (hdone : m.isDone = true) :
    MirroredByTask workflow strategy before after m.results :=
  ⟨h.perm (hm.results_perm hdone).1, (hm.results_perm hdone).2⟩

namespace Engine

variable {e : Engine} {fuel : Nat} {x : Execution}

/-- An execution that has ended, while nobody else has written the books. -/
theorem mirrored_of_isDone (hfaults : e.faults = noFaults)
    (hm : OwnBooksInterleaving (e.setup w schedule) (Machine.start w schedule world) m)
    (hdone : m.isDone = true) :
    Mirrored w.id e.config.mergeStrategy world.memory m.world.memory m.landings ∧
      ((tasksOf schedule.levels).Nodup →
        MirroredByTask w.id e.config.mergeStrategy world.memory m.world.memory m.results) := by
  have hmirrored := (Booked.of_ownBooks hfaults hm).mirrored hdone
  exact ⟨hmirrored, fun hnodup => hmirrored.byTask (filed_of_interleaving hnodup hm.interleaving) hdone⟩

/-- An execution by steps. -/
theorem mirroredByTask_of_execute (hfaults : e.faults = noFaults)
    (hnodup : (tasksOf schedule.levels).Nodup) (hx : e.execute fuel w schedule world = some x) :
    MirroredByTask w.id e.config.mergeStrategy world.memory x.world.memory x.result.tasks := by
  obtain ⟨m, hsteps, hdone, rfl⟩ := Engine.exists_machine_of_execute hx
  have hsole := sole_of_steps (orderly_of_stage_none rfl) hsteps
  exact (mirrored_of_isDone hfaults hsole.ownBooks hdone).2 hnodup

end Engine

/-- **The books mirror the results.** The memory service has no faults, but may refuse sessions at any
    time, and everybody may use the pool. Once an execution has ended, in whatever order flights have
    taken their turns while nobody else has written the books, these mirror the landings; and if its
    levels do not repeat a task, which no plan does, they mirror the results by task. So they do after
    a run, and after the execution of an earlier plan. -/
theorem Engine.books_mirror_results {e : Engine} (hfaults : e.faults = noFaults) (w : Workflow)
    (world : World) :
    (∀ schedule m,
      OwnBooksInterleaving (e.setup w schedule) (Machine.start w schedule world) m → m.isDone = true →
      Mirrored w.id e.config.mergeStrategy world.memory m.world.memory m.landings ∧
        ((tasksOf schedule.levels).Nodup →
          MirroredByTask w.id e.config.mergeStrategy world.memory m.world.memory m.results)) ∧
    (∀ fuel x, e.run fuel w world = .ok (some x) →
      MirroredByTask w.id e.config.mergeStrategy world.memory x.world.memory x.result.tasks) ∧
    ∀ schedule fuel x, (tasksOf schedule.levels).Nodup →
      e.runPlan fuel w schedule world = .ok (some x) →
      MirroredByTask w.id e.config.mergeStrategy world.memory x.world.memory x.result.tasks := by
  refine ⟨fun schedule m => mirrored_of_isDone hfaults, fun fuel x hrun => ?_,
    fun schedule fuel x hnodup hrun =>
      mirroredByTask_of_execute hfaults hnodup (execute_of_runPlan hrun)⟩
  cases hplan : w.plan world.pool with
  | error error =>
      rw [Engine.run, hplan] at hrun
      cases hrun
  | ok schedule =>
      rw [Engine.run, hplan] at hrun
      exact mirroredByTask_of_execute hfaults (layered_of_plan hplan).nodup (Except.ok.inj hrun)

/-- An engine whose runner has sessions refused from its first attempt on. -/
def engineLocking : Engine :=
  { runner := fun _ _ => ⟨[.act (.refuseSessions true)], .succeed ⟨none, []⟩⟩ }

/-- The build has a session, and the test is refused one. -/
theorem books_mirror_results_pipeline :
    ∃ x, engineLocking.run 30 pipeline { pool := lonePool } = .ok (some x) ∧
      x.world.memory.records.map (fun record => (record.definition.title, record.history)) =
        [("build", [.pending, .inProgress, .completed]), ("test", [.pending, .inProgress, .failed])] ∧
      x.world.memory.sessions.map (fun session => (session.owner, session.closed)) =
        [("solo", true)] ∧
      MirroredByTask "release" .auto .empty x.world.memory x.result.tasks := by
  refine ⟨_, rfl, rfl, rfl, ?_⟩
  exact (Engine.books_mirror_results (e := engineLocking) rfl pipeline
    { pool := lonePool }).2.1 30 _ rfl

end Foreman
