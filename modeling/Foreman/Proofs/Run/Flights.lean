import Foreman.Run.Flight

/-!
# `Foreman.Proofs.Run.Flights` — what one activity of a flight can do

`Flight.resume` covers the whole way of a task: the search for an agent, record and session, attempts
and delays, the end. For the course of an execution only little of it matters, and that is the same
in all phases (`Flight.Resumes`):

* the flight goes on with its job, or lands with a result for its own task;
* at most one call of the runner is made, for its own task, and none by a flight that lands;
* a flight that holds an agent holds it until it lands.

A flight without an agent searches for one (`Flight.Searches`). That assigns the task to the agent that is
claimed, and otherwise leaves the pool alone (`World.Searched`).

The books of a flight are kept by one call of the memory service in each activity. `Consulted` says what
such a call comes to, and `Flight.Kept` what is the same whatever it comes to: only the memory service
was used, and the flight still holds its agent.

`Flight.Acts` is the whole of what an activity can be, one case for each phase of a flight with an agent.
What is shown of single activities in other modules is shown along these cases (`Flight.acts_resume`).

## Contents
- **`Asked`**, **`Consulted`** and `Flight.Kept`: calls of the memory service.
- **`World.Searched`**, **`Flight.Searches`**: looking for an agent.
- **`Flight.Answered`**, **`Flight.Acts`** with `Flight.acts_resume`.
- **`Flight.Resumes`** with `Flight.resumes_resume`: what is the same in all phases.
-/

namespace Foreman

variable {α : Type} {w w' : World} {job : Job} {f : Flight} {s : Setup} {agent : AgentId}

/-! ## Calls of the memory service -/

/-- The world after one more call of the memory service. -/
def World.called (w : World) (call : MemoryCall) : World :=
  { w with memoryCalls := call :: w.memoryCalls }

/-- **What a call of the memory service comes to**: it is counted, and unless a fault prevents it, the
    operation is carried out. -/
inductive Asked (faults : FaultPattern) (call : MemoryCall)
    (op : Memory → Except MemoryError (α × Memory)) (w : World) :
    Except String (Except MemoryError α) × World → Prop
  /-- The call panics. -/
  | cutOff {text : String} (hfault : faults w.memoryCalls call = some (.panic text)) :
      Asked faults call op w (.error text, w.called call)
  /-- The service is not available. -/
  | unavailable {reason : String} (hfault : faults w.memoryCalls call = some (.unavailable reason)) :
      Asked faults call op w (.ok (.error (.unavailable reason)), w.called call)
  /-- The service refuses the operation. -/
  | refused {e : MemoryError} (hfault : faults w.memoryCalls call = none)
      (hop : op w.memory = .error e) : Asked faults call op w (.ok (.error e), w.called call)
  /-- The operation is carried out. -/
  | done {a : α} {memory : Memory} (hfault : faults w.memoryCalls call = none)
      (hop : op w.memory = .ok (a, memory)) :
      Asked faults call op w (.ok (.ok a), { w.called call with memory })

theorem asked (faults : FaultPattern) (call : MemoryCall)
    (op : Memory → Except MemoryError (α × Memory)) (w : World) :
    Asked faults call op w (ask faults call op w) := by
  unfold ask
  dsimp only
  cases hfault : faults w.memoryCalls call with
  | some fault =>
      cases fault with
      | panic text => exact .cutOff hfault
      | unavailable reason => exact .unavailable hfault
  | none =>
      cases hop : op w.memory with
      | error e => exact .refused hfault hop
      | ok produced => exact .done hfault hop

/-- From `w` to `w'`, only the memory service was used. -/
structure World.OnlyMemory (w w' : World) : Prop where
  pool : w'.pool = w.pool
  contention : w'.contention = w.contention
  calls : w'.calls = w.calls

theorem World.OnlyMemory.refl (w : World) : OnlyMemory w w := ⟨rfl, rfl, rfl⟩

/-! ## The ways a flight goes on -/

/-- A flight goes on with a job, or ends with a result for the task of the job. -/
def Next.About (job : Job) : Next → Prop
  | .atOnce f | .again f | .sleep _ f | .wait _ f => f.job = job
  | .land r _ => r.task = job.task

/-- Whether a flight ends. -/
def Next.isLand : Next → Bool
  | .land .. => true
  | _ => false

/-- The agent that a flight holds. -/
def Phase.lease : Phase → Option AgentId
  | .seeking | .claiming _ => none
  | .opening agent _ | .closing agent _ _ => some agent
  | .calling e _ _ | .working e _ _ _ _ | .returned e _ _ _ | .rested e _ _ => some e.agent

/-- What is left of the attempt of a flight. -/
def Phase.course : Phase → List Activity
  | .working _ _ _ rest _ => rest
  | _ => []

/-- The agent that a flight holds as it goes on, or gives back as it ends. -/
def Next.lease : Next → Option AgentId
  | .atOnce f | .again f | .sleep _ f | .wait _ f => f.phase.lease
  | .land _ leased => leased

/-- What is left of the attempt of a flight that goes on. -/
def Next.course : Next → List Activity
  | .atOnce f | .again f | .sleep _ f | .wait _ f => f.phase.course
  | .land .. => []

/-- A flight goes on or ends with its job and an agent, and not in an attempt. -/
structure Next.Holds (job : Job) (agent : AgentId) (next : Next) : Prop where
  about : next.About job
  lease : next.lease = some agent
  course : next.course = []

/-! ## The books of a task -/

namespace Flight

/-- **What a call of the memory service leads to**: a panic ends the flight, and otherwise it goes on
    with the answer. -/
inductive Consulted (s : Setup) (f : Flight) (agent : AgentId) (call : MemoryCall)
    (op : Memory → Except MemoryError (α × Memory)) (next : Except MemoryError α → Next) (w : World) :
    Next × World → Prop
  | cutOff {text : String} (hfault : s.faults w.memoryCalls call = some (.panic text)) :
      Consulted s f agent call op next w (.land (panickedResult f.job text) (some agent), w.called call)
  | refused {e : MemoryError} (hfault : ∀ text, s.faults w.memoryCalls call ≠ some (.panic text))
      (hop : s.faults w.memoryCalls call = none → op w.memory = .error e) :
      Consulted s f agent call op next w (next (.error e), w.called call)
  | done {a : α} {memory : Memory} (hfault : s.faults w.memoryCalls call = none)
      (hop : op w.memory = .ok (a, memory)) :
      Consulted s f agent call op next w (next (.ok a), { w.called call with memory })

theorem consulted (s : Setup) (f : Flight) (agent : AgentId) (call : MemoryCall)
    (op : Memory → Except MemoryError (α × Memory)) (next : Except MemoryError α → Next) (w : World) :
    Consulted s f agent call op next w (f.consult s agent call op next w) := by
  unfold consult
  have hasked := asked s.faults call op w
  generalize ask s.faults call op w = out at hasked ⊢
  cases hasked with
  | cutOff hfault => exact .cutOff hfault
  | unavailable hfault => exact .refused (by simp [hfault]) (by simp [hfault])
  | refused hfault hop => exact .refused (by simp [hfault]) fun _ => hop
  | done hfault hop => exact .done hfault hop

/-- Without faults, the operation decides. -/
theorem consult_of_noFaults (hfaults : s.faults = noFaults) (f : Flight) (agent : AgentId)
    (call : MemoryCall) (op : Memory → Except MemoryError (α × Memory))
    (next : Except MemoryError α → Next) (w : World) :
    f.consult s agent call op next w = match op w.memory with
      | .error e => (next (.error e), w.called call)
      | .ok (a, memory) => (next (.ok a), { w.called call with memory }) := by
  unfold consult ask
  rw [hfaults]
  cases op w.memory <;> rfl

/-- **Only the memory service was used**, and a flight goes on or ends with its job and its agent. -/
structure Kept (f : Flight) (agent : AgentId) (w : World) (out : Next × World) : Prop where
  holds : out.1.Holds f.job agent
  world : w.OnlyMemory out.2

/-- A call of the memory service ends the flight if it panics, and then the agent is given back, too. -/
theorem kept_consult {call : MemoryCall} {op : Memory → Except MemoryError (α × Memory)}
    {next : Except MemoryError α → Next} (hnext : ∀ answer, (next answer).Holds f.job agent) :
    f.Kept agent w (f.consult s agent call op next w) := by
  have hconsulted := consulted s f agent call op next w
  generalize f.consult s agent call op next w = out at hconsulted ⊢
  cases hconsulted with
  | cutOff hfault => exact ⟨⟨rfl, rfl, rfl⟩, rfl, rfl, rfl⟩
  | refused hfault hop => exact ⟨hnext _, rfl, rfl, rfl⟩
  | done hfault hop => exact ⟨hnext _, rfl, rfl, rfl⟩

theorem task_resultOf (f : Flight) (agent : AgentId) (u : Upshot) :
    (f.resultOf agent u).task = f.job.task := by
  unfold resultOf
  split <;> rfl

theorem kept_openUp (s : Setup) (now : Nat) (f : Flight) (agent : AgentId) (step : Opening) (w : World) :
    f.Kept agent w (f.openUp s now agent step w) := by
  cases step with
  | record => exact kept_consult fun answer => ⟨rfl, rfl, rfl⟩
  | mark record =>
      cases record with
      | none => exact ⟨⟨rfl, rfl, rfl⟩, .refl w⟩
      | some record => exact kept_consult fun answer => ⟨rfl, rfl, rfl⟩
  | session record =>
      refine kept_consult fun answer => ?_
      cases answer <;> exact ⟨rfl, rfl, rfl⟩

theorem kept_closeUp (s : Setup) (now : Nat) (f : Flight) (agent : AgentId) (u : Upshot)
    (step : Closing) (w : World) : f.Kept agent w (f.closeUp s now agent u step w) := by
  cases step with
  | merge record session => exact kept_consult fun answer => ⟨rfl, rfl, rfl⟩
  | close record session => exact kept_consult fun answer => ⟨rfl, rfl, rfl⟩
  | store record => exact kept_consult fun answer => ⟨rfl, rfl, rfl⟩
  | sign record =>
      have hland : (Next.land (f.resultOf agent u) (some agent)).Holds f.job agent :=
        ⟨task_resultOf f agent u, rfl, rfl⟩
      cases record with
      | none => exact ⟨hland, .refl w⟩
      | some record => exact kept_consult fun answer => hland

end Flight

/-! ## Finding an agent -/

/-- From `w` to `w'`, an agent was looked for: no runner was called, the memory service was not used,
    and the pool has changed only if an agent was found, which is now assigned to the task. -/
structure World.Searched (w : World) (task : TaskId) (found : Option AgentId) (w' : World) : Prop where
  calls : w'.calls = w.calls
  memory : w'.memory = w.memory
  memoryCalls : w'.memoryCalls = w.memoryCalls
  pool : match found with
    | none => w'.pool = w.pool
    | some agent => w.pool.assign agent task = .ok w'.pool

namespace World

variable {task : TaskId} {found : Option AgentId}

theorem searched_claim {agent : AgentId} {claimed : Bool}
    (h : w.claim agent task = (claimed, w')) :
    Searched w task (if claimed then some agent else none) w' := by
  unfold claim at h
  split at h
  · cases h
    exact ⟨rfl, rfl, rfl, rfl⟩
  · split at h
    · next hassign => cases h; exact ⟨rfl, rfl, rfl, hassign⟩
    · cases h; exact ⟨rfl, rfl, rfl, rfl⟩

theorem planned_of_claimPlanned (h : w.claimPlanned job = (some agent, w')) :
    job.planned = some agent := by
  unfold claimPlanned at h
  split at h
  · cases h
  · next planned hplanned =>
      split at h <;> cases h
      exact hplanned

theorem searched_claimPlanned (h : w.claimPlanned job = (found, w')) :
    Searched w job.task found w' := by
  unfold claimPlanned at h
  split at h
  · cases h
    exact ⟨rfl, rfl, rfl, rfl⟩
  · split at h <;> next hclaim => cases h; exact searched_claim hclaim

end World

namespace Flight

/-- **What a flight without an agent comes to**, in one activity. -/
inductive Searches (s : Setup) (now : Nat) (f : Flight) (w : World) : Next × World → Prop
  /-- It gets the agent that it claims: the planned one, or the one that it has found. -/
  | leased {agent : AgentId} {w' : World}
      (hchoice : f.phase = .seeking ∧ f.job.planned = some agent ∨ f.phase = .claiming agent)
      (hsearched : w.Searched f.job.task (some agent) w') :
      Searches s now f w (.atOnce (f.enter (.opening agent .record)), w')
  /-- It finds an agent. -/
  | found {view : AgentView} {w' : World} (hphase : f.phase = .seeking)
      (hsearched : w.Searched f.job.task none w')
      (hfind : w.pool.findSuitable f.job.requirements = some view) :
      Searches s now f w (.atOnce (f.enter (.claiming view.id)), w')
  /-- It has lost the agent that it had found. -/
  | lost {agent : AgentId} {w' : World} (hphase : f.phase = .claiming agent)
      (hsearched : w.Searched f.job.task none w') : Searches s now f w (.atOnce (f.enter .seeking), w')
  /-- It finds every agent busy. -/
  | busy {w' : World} (hphase : f.phase = .seeking) (hsearched : w.Searched f.job.task none w')
      (hfind : w.pool.findSuitable f.job.requirements = none)
      (hsatisfy : w.pool.canSatisfy f.job.requirements = true) :
      Searches s now f w (.wait (now + s.config.pollInterval.sleepMillis) f, w')
  /-- No agent is registered for it. -/
  | impossible {w' : World} (hphase : f.phase = .seeking) (hsearched : w.Searched f.job.task none w')
      (hfind : w.pool.findSuitable f.job.requirements = none)
      (hsatisfy : w.pool.canSatisfy f.job.requirements = false) :
      Searches s now f w
        (.land (failedResult f.job (noAgentError f.job.requirements) 0 none (f.elapsed now)) none, w')

/-- Whatever a search comes to, it changes the world as a search does. -/
theorem Searches.exists_searched {now : Nat} {out : Next × World} (h : f.Searches s now w out) :
    ∃ found, w.Searched f.job.task found out.2 := by
  cases h with
  | leased _ h | found _ h _ | lost _ h | busy _ h _ _ | impossible _ h _ _ => exact ⟨_, h⟩

/-- **A flight without an agent searches for one.** -/
theorem searches_resume (s : Setup) (now : Nat) (hfree : f.phase.lease = none) (w : World) :
    f.Searches s now w (f.resume s now w) := by
  unfold resume
  cases hphase : f.phase with
  | opening agent step | closing agent step u | calling e attempt delay
  | working e attempt delay rest ending | returned e attempt delay answer | rested e attempt delay =>
      rw [hphase] at hfree
      cases hfree
  | claiming agent =>
      dsimp only
      cases hclaim : w.claim agent f.job.task with
      | mk claimed w₁ =>
          have hsearched := World.searched_claim hclaim
          cases claimed with
          | true => exact .leased (Or.inr hphase) hsearched
          | false => exact .lost hphase hsearched
  | seeking =>
      dsimp only
      cases hclaim : w.claimPlanned f.job with
      | mk claimed w₁ =>
          have hsearched := World.searched_claimPlanned hclaim
          cases claimed with
          | some agent => exact .leased (Or.inl ⟨hphase, World.planned_of_claimPlanned hclaim⟩) hsearched
          | none =>
              -- a claim that has failed leaves the pool as it was
              have hpool : w₁.pool = w.pool := hsearched.pool
              dsimp only
              rw [hpool]
              cases hfind : w.pool.findSuitable f.job.requirements with
              | some view => exact .found hphase hsearched hfind
              | none =>
                  cases hsatisfy : w.pool.canSatisfy f.job.requirements with
                  | true => exact .busy hphase hsearched hfind hsatisfy
                  | false => exact .impossible hphase hsearched hfind hsatisfy

end Flight

/-! ## Resuming -/

namespace Flight

/-- **What the answer of an attempt leads to**, in an unchanged world: it counts, or another attempt
    follows. -/
inductive Answered (s : Setup) (now : Nat) (f : Flight) (e : Engagement) (attempt : Nat)
    (delay : Duration) (answer : Except TaskError Output) (w : World) : Next × World → Prop
  | counts (hlast : ∀ error, answer = .error error →
      s.config.retry.decide error attempt s.maxAttempts delay = .giveUp) :
      Answered s now f e attempt delay answer w
        (.atOnce (f.enter (.closing e.agent (.merge e.record e.session)
          { attempts := attempt, duration := f.elapsed now, answer })), w)
  | repeated {error : TaskError} {wait : Duration} (hanswer : answer = .error error)
      (hdecide : s.config.retry.decide error attempt s.maxAttempts delay = .retryAfter wait) :
      Answered s now f e attempt delay answer w
        (.again (f.enter (.calling e (attempt + 1) (s.config.retry.nextDelay delay))), w)
  | delayed {error : TaskError} {wait : Duration} (hanswer : answer = .error error)
      (hdecide : s.config.retry.decide error attempt s.maxAttempts delay = .retryAfter wait) :
      Answered s now f e attempt delay answer w
        (.sleep (now + wait.sleepMillis)
          (f.enter (.rested e (attempt + 1) (s.config.retry.nextDelay delay))), w)

theorem Answered.world_eq {now attempt : Nat} {e : Engagement} {delay : Duration}
    {answer : Except TaskError Output} {out : Next × World}
    (h : f.Answered s now e attempt delay answer w out) : out.2 = w := by
  cases h <;> rfl

theorem answered_resume {e : Engagement} {attempt : Nat} {delay : Duration}
    {answer : Except TaskError Output} (hphase : f.phase = .returned e attempt delay answer)
    (s : Setup) (now : Nat) (w : World) :
    f.Answered s now e attempt delay answer w (f.resume s now w) := by
  unfold resume
  rw [hphase]
  cases answer with
  | ok output => exact .counts nofun
  | error error =>
      dsimp only
      cases hdecide : s.config.retry.decide error attempt s.maxAttempts delay with
      | giveUp => exact .counts fun error' heq => by cases heq; exact hdecide
      | retryAfter wait =>
          dsimp only
          split
          · exact .repeated rfl hdecide
          · exact .delayed rfl hdecide

/-- **What one activity of a flight is**: a search as long as it has no agent, and then what its phase
    says. -/
inductive Acts (s : Setup) (now : Nat) (f : Flight) (w : World) : Next × World → Prop
  | searches {out : Next × World} (hfree : f.phase.lease = none) (hsearches : f.Searches s now w out) :
      Acts s now f w out
  | opens {agent : AgentId} {step : Opening} (hphase : f.phase = .opening agent step) :
      Acts s now f w (f.openUp s now agent step w)
  | calls {e : Engagement} {attempt : Nat} {delay : Duration} (hphase : f.phase = .calling e attempt delay) :
      Acts s now f w (f.workOn now e attempt delay
        (s.runner w.calls (f.callOf s now e attempt)).ending
        (s.runner w.calls (f.callOf s now e attempt)).course
        { w with calls := f.callOf s now e attempt :: w.calls })
  | works {e : Engagement} {attempt : Nat} {delay : Duration} {rest : List Activity} {ending : Ending}
      (hphase : f.phase = .working e attempt delay rest ending) :
      Acts s now f w (f.workOn now e attempt delay ending rest w)
  | answered {e : Engagement} {attempt : Nat} {delay : Duration} {answer : Except TaskError Output}
      {out : Next × World} (hphase : f.phase = .returned e attempt delay answer)
      (hanswered : f.Answered s now e attempt delay answer w out) : Acts s now f w out
  | rests {e : Engagement} {attempt : Nat} {delay : Duration} (hphase : f.phase = .rested e attempt delay) :
      Acts s now f w (.again (f.enter (.calling e attempt delay)), w)
  | closes {agent : AgentId} {step : Closing} {u : Upshot} (hphase : f.phase = .closing agent step u) :
      Acts s now f w (f.closeUp s now agent u step w)

theorem acts_resume (s : Setup) (now : Nat) (f : Flight) (w : World) :
    f.Acts s now w (f.resume s now w) := by
  cases hphase : f.phase with
  | seeking | claiming agent =>
      have hfree : f.phase.lease = none := by rw [hphase]; rfl
      exact .searches hfree (searches_resume s now hfree w)
  | returned e attempt delay answer => exact .answered hphase (answered_resume hphase s now w)
  | opening agent step =>
      unfold resume
      rw [hphase]
      exact .opens hphase
  | calling e attempt delay =>
      unfold resume
      rw [hphase]
      exact .calls hphase
  | working e attempt delay rest ending =>
      unfold resume
      rw [hphase]
      exact .works hphase
  | rested e attempt delay =>
      unfold resume
      rw [hphase]
      exact .rests hphase
  | closing agent step u =>
      unfold resume
      rw [hphase]
      exact .closes hphase

end Flight

/-! ## Every activity -/


/-- What a flight comes to when it is resumed in a world: it goes on with its job, perhaps after a
    call of the runner for its task, or it ends without one. -/
structure Flight.Resumes (f : Flight) (w : World) (out : Next × World) : Prop where
  about : out.1.About f.job
  calls : out.2.calls = w.calls ∨ out.1.isLand = false ∧
    ∃ call : Call, call.task = f.job.task ∧ out.2.calls = call :: w.calls
  /-- It holds an agent until it ends. -/
  lease : ∀ agent, f.phase.lease = some agent → out.1.lease = some agent

namespace Flight

/-- An attempt pauses or returns, and neither ends the flight. -/
structure StaysAtWork (f : Flight) (e : Engagement) (course : List Activity) (w : World)
    (out : Next × World) : Prop where
  about : out.1.About f.job
  isLand : out.1.isLand = false
  lease : out.1.lease = some e.agent
  course : out.1.course ⊆ course
  calls : out.2.calls = w.calls

theorem staysAtWork_workOn (now : Nat) (f : Flight) (e : Engagement) (attempt : Nat)
    (delay : Duration) (ending : Ending) (course : List Activity) (w : World) :
    f.StaysAtWork e course w (workOn now f e attempt delay ending course w) := by
  induction course generalizing w with
  | nil => exact ⟨rfl, rfl, rfl, List.Subset.refl _, rfl⟩
  | cons activity rest ih =>
      have hgo : ∀ w', w'.calls = w.calls → f.StaysAtWork e (activity :: rest) w
          (workOn now f e attempt delay ending rest w') := fun w' hcalls =>
        ⟨(ih w').about, (ih w').isLand, (ih w').lease, List.subset_cons_of_subset _ (ih w').course,
          (ih w').calls.trans hcalls⟩
      cases activity with
      | pause length =>
          unfold workOn
          split
          · exact hgo w rfl
          · exact ⟨rfl, rfl, rfl, List.subset_cons_self _ _, rfl⟩
      | act action => exact hgo _ rfl

theorem Kept.resumes {out : Next × World} (hlease : f.phase.lease = some agent)
    (h : f.Kept agent w out) : f.Resumes w out :=
  ⟨h.holds.about, Or.inl h.world.calls, fun _ hheld => by rw [h.holds.lease, ← hlease, hheld]⟩

/-- **Every activity of a flight**, whatever it is. -/
theorem resumes_resume (s : Setup) (now : Nat) (f : Flight) (w : World) :
    f.Resumes w (f.resume s now w) := by
  have hacts := acts_resume s now f w
  generalize f.resume s now w = out at hacts ⊢
  cases hacts with
  | searches hfree hsearches =>
      cases hsearches with
      | leased _ h | found _ h _ | lost _ h | busy _ h _ _ | impossible _ h _ _ =>
          exact ⟨rfl, Or.inl h.calls, by simp [hfree]⟩
  | opens hphase => exact (kept_openUp ..).resumes (by rw [hphase]; rfl)
  | closes hphase => exact (kept_closeUp ..).resumes (by rw [hphase]; rfl)
  | @calls e attempt delay hphase =>
      have h := staysAtWork_workOn now f e attempt delay
        (s.runner w.calls (f.callOf s now e attempt)).ending
        (s.runner w.calls (f.callOf s now e attempt)).course
        { w with calls := f.callOf s now e attempt :: w.calls }
      refine ⟨h.about, Or.inr ⟨h.isLand, f.callOf s now e attempt, rfl, h.calls⟩, fun _ hheld => ?_⟩
      rw [hphase] at hheld
      exact h.lease.trans hheld
  | @works e attempt delay rest ending hphase =>
      have h := staysAtWork_workOn now f e attempt delay ending rest w
      refine ⟨h.about, Or.inl h.calls, fun _ hheld => ?_⟩
      rw [hphase] at hheld
      exact h.lease.trans hheld
  | answered hphase hanswered =>
      cases hanswered with
      | counts _ | repeated _ _ | delayed _ _ =>
          exact ⟨rfl, Or.inl rfl, fun _ hheld => by rwa [hphase] at hheld⟩
  | rests hphase => exact ⟨rfl, Or.inl rfl, fun _ hheld => by rwa [hphase] at hheld⟩

end Flight

end Foreman
