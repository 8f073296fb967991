import Foreman.Proofs.Run.Bookkeeping
import Foreman.Proofs.Run.Scripts

/-!
# `Foreman.Proofs.Run.CutOffs` — calls of the memory service that panic

A call of the memory service may panic, and then the flight that has made it is cut off. The log of calls
tells of that (`Panicked`): an activity of a flight makes at most one call, and a flight that is cut off
has just made one that has panicked (`panicked_called`). Whatever the calls come to, no call is taken
back, and no session is forgotten (`Flight.onward_resume`).

## Contents
- `Panicked`, and **`World.Onward`** with **`Flight.onward_resume`**.
- `World.Opened`: sessions are opened once.
- `Flight.job_of_resume`, `Flight.task_of_resume` and **`Flight.calls_resume`**: what stays as it is, and
  who calls the runner.
-/

namespace Foreman

variable {α : Type} {s : Setup} {f : Flight} {w w' w'' : World} {t : TaskId} {agent : AgentId}
  {call : MemoryCall} {op : Memory → Except MemoryError (α × Memory)} {next : Except MemoryError α → Next}

/-! ## Panics -/

/-- A call of the memory service has panicked with a text since the calls so far were `earlier`. -/
def Panicked (faults : FaultPattern) (earlier later : List MemoryCall) (text : String) : Prop :=
  ∃ call before, call :: before <:+ later ∧ earlier <:+ before ∧
    faults before call = some (.panic text)

theorem Panicked.mono {faults : FaultPattern} {earlier earlier' later later' : List MemoryCall}
    {text : String} (h : Panicked faults earlier later text) (hearlier : earlier' <:+ earlier)
    (hlater : later <:+ later') : Panicked faults earlier' later' text := by
  obtain ⟨call, before, hcall, hbefore, hpanic⟩ := h
  exact ⟨call, before, hcall.trans hlater, hearlier.trans hbefore, hpanic⟩

/-- The log tells of a call that has just panicked. -/
theorem panicked_called {text : String} (hfault : s.faults w.memoryCalls call = some (.panic text)) :
    Panicked s.faults w.memoryCalls (w.called call).memoryCalls text :=
  ⟨call, w.memoryCalls, List.suffix_refl _, List.suffix_refl _, hfault⟩

/-! ## The log and the sessions -/

/-- From `w` to `w'`, calls of the memory service were added, and no session was forgotten. -/
structure World.Onward (w w' : World) : Prop where
  memoryCalls : w.memoryCalls <:+ w'.memoryCalls
  sessions : w.memory.sessions.length ≤ w'.memory.sessions.length

theorem World.Onward.refl (w : World) : w.Onward w := ⟨List.suffix_refl _, Nat.le_refl _⟩

theorem World.Onward.trans (h : w.Onward w') (h' : w'.Onward w'') : w.Onward w'' :=
  ⟨h.memoryCalls.trans h'.memoryCalls, Nat.le_trans h.sessions h'.sessions⟩

/-- An operation of the memory service that forgets no session. -/
def KeepsSessions (op : Memory → Except MemoryError (α × Memory)) : Prop :=
  ∀ memory a memory', op memory = .ok (a, memory') →
    memory.sessions.length ≤ memory'.sessions.length

/-- A session that was opened on the way from one world to another. -/
def World.Opened (w w' : World) (h : Handle) : Prop :=
  ∃ n, h = .issued n ∧ w.memory.sessions.length ≤ n ∧ n < w'.memory.sessions.length

namespace Memory

variable {memory : Memory}

theorem length_sessions_setSession (m : Memory) (h : Handle) (session : Session) :
    (m.setSession h session).sessions.length = m.sessions.length := by
  cases h with
  | issued n => exact List.length_set
  | foreign text => rfl

theorem keepsSessions_updateRecord (h : Handle) (status : RecordStatus) (metadata : RecordMetadata) :
    KeepsSessions fun m => (m.updateRecord h status metadata).map fun m => ((), m) := by
  intro memory a memory' heq
  dsimp only [updateRecord] at heq
  split at heq
  · cases heq
  · cases heq
    exact Nat.le_of_eq (congrArg List.length (sessions_setRecord ..)).symm

theorem keepsSessions_mergeSession (h : Handle) (strategy : MergeStrategy) :
    KeepsSessions fun m => m.mergeSession h strategy := by
  intro memory a memory' heq
  dsimp only [mergeSession] at heq
  split at heq
  · cases heq
  · split at heq
    · cases heq
    · cases heq
      exact Nat.le_of_eq (length_sessions_setSession ..).symm

theorem keepsSessions_closeSession (h : Handle) (owner : AgentId) :
    KeepsSessions fun m => (m.closeSession h owner).map fun m => ((), m) := by
  intro memory a memory' heq
  dsimp only [closeSession] at heq
  split at heq
  · cases heq
  · split at heq
    · cases heq
      exact Nat.le_of_eq (length_sessions_setSession ..).symm
    · cases heq

/-- A session that is opened is a new one. -/
theorem createSession_eq_ok {owner : AgentId} {scope : SessionScope} {h : Handle} {memory' : Memory}
    (hok : memory.createSession owner scope = .ok (h, memory')) :
    h = .issued memory.sessions.length ∧ memory'.sessions.length = memory.sessions.length + 1 := by
  unfold createSession at hok
  split at hok
  · cases hok
  · cases hok
    exact ⟨rfl, List.length_append⟩

theorem keepsSessions_createSession (owner : AgentId) (scope : SessionScope) :
    KeepsSessions fun m => m.createSession owner scope := fun _ _ _ hok => by
  rw [(createSession_eq_ok hok).2]
  exact Nat.le_succ _

end Memory

theorem sessions_onMemory (action : Action) (memory : Memory) :
    (action.onMemory memory).sessions = memory.sessions := by
  cases action <;> rfl

theorem World.memoryCalls_handBack (w : World) (t : TaskId) (leased : Option AgentId) :
    (w.handBack t leased).1.memoryCalls = w.memoryCalls := by
  rcases w.handBack_world t leased with hsame | ⟨agent, pool, -, hreleased⟩
  · rw [hsame]
  · rw [hreleased]

theorem World.Searched.onward {found : Option AgentId} (h : w.Searched t found w') : w.Onward w' :=
  ⟨by rw [h.memoryCalls], by rw [h.memory]⟩

namespace Flight

/-- A call of the memory service is added to the log, whatever it comes to. -/
theorem onward_consult (hop : KeepsSessions op) (f : Flight) (agent : AgentId) (call : MemoryCall)
    (next : Except MemoryError α → Next) (w : World) :
    w.Onward (f.consult s agent call op next w).2 := by
  have hconsulted := consulted s f agent call op next w
  generalize f.consult s agent call op next w = out at hconsulted ⊢
  cases hconsulted with
  | cutOff _ | refused _ _ => exact ⟨List.suffix_cons _ _, Nat.le_refl _⟩
  | done _ hok => exact ⟨List.suffix_cons _ _, hop _ _ _ hok⟩

theorem onward_openUp (s : Setup) (now : Nat) (f : Flight) (agent : AgentId) (step : Opening)
    (w : World) : w.Onward (f.openUp s now agent step w).2 := by
  cases step with
  | record =>
      refine onward_consult (fun memory a memory' hok => ?_) f agent _ _ w
      cases hok
      exact Nat.le_refl _
  | mark record =>
      cases record with
      | none => exact .refl w
      | some record => exact onward_consult (Memory.keepsSessions_updateRecord _ _ _) f agent _ _ w
  | session record => exact onward_consult (Memory.keepsSessions_createSession _ _) f agent _ _ w

theorem onward_closeUp (s : Setup) (now : Nat) (f : Flight) (agent : AgentId) (u : Upshot)
    (step : Closing) (w : World) : w.Onward (f.closeUp s now agent u step w).2 := by
  cases step with
  | merge record session => exact onward_consult (Memory.keepsSessions_mergeSession _ _) f agent _ _ w
  | close record session => exact onward_consult (Memory.keepsSessions_closeSession _ _) f agent _ _ w
  | store record =>
      refine onward_consult (fun memory a memory' hok => ?_) f agent _ _ w
      cases hok
      exact Nat.le_refl _
  | sign record =>
      cases record with
      | none => exact .refl w
      | some record => exact onward_consult (Memory.keepsSessions_updateRecord _ _ _) f agent _ _ w

theorem onward_workOn (now : Nat) (f : Flight) (e : Engagement) (attempt : Nat) (delay : Duration)
    (ending : Ending) (course : List Activity) (w : World) :
    w.Onward (workOn now f e attempt delay ending course w).2 := by
  induction course generalizing w with
  | nil => exact .refl w
  | cons activity rest ih =>
      cases activity with
      | act action =>
          have honward := ih { w with
            pool := action.onPool w.pool, memory := action.onMemory w.memory }
          refine ⟨honward.memoryCalls, ?_⟩
          rw [← sessions_onMemory action]
          exact honward.sessions
      | pause length =>
          unfold workOn
          split
          · exact ih w
          · exact .refl w

/-- **No activity takes a call of the memory service back** or makes it forget a session. -/
theorem onward_resume (s : Setup) (now : Nat) (f : Flight) (w : World) :
    w.Onward (f.resume s now w).2 := by
  have hacts := acts_resume s now f w
  generalize f.resume s now w = out at hacts ⊢
  cases hacts with
  | searches _ hsearches =>
      obtain ⟨found, h⟩ := hsearches.exists_searched
      exact h.onward
  | opens _ => exact onward_openUp ..
  | closes _ => exact onward_closeUp ..
  | @calls e attempt delay _ =>
      have honward := onward_workOn now f e attempt delay
        (s.runner w.calls (f.callOf s now e attempt)).ending
        (s.runner w.calls (f.callOf s now e attempt)).course
        { w with calls := f.callOf s now e attempt :: w.calls }
      exact ⟨honward.memoryCalls, honward.sessions⟩
  | works _ => exact onward_workOn ..
  | answered _ hanswered => exact hanswered.world_eq ▸ .refl w
  | rests _ => exact .refl w

/-! ## Outside the books -/

variable {f' : Flight} {next : Next} {now : Nat} {r : TaskResult} {leased : Option AgentId}

/-- A flight that goes on keeps its job. -/
theorem job_of_resume (hresume : f.resume s now w = (next, w')) (hnext : next.flight? = some f') :
    f'.job = f.job := by
  have habout := (resumes_resume s now f w).about
  rw [hresume] at habout
  exact habout.job_eq hnext

/-- A flight lands with a result of its task. -/
theorem task_of_resume (hresume : f.resume s now w = (.land r leased, w')) : r.task = f.job.task := by
  have habout := (resumes_resume s now f w).about
  rw [hresume] at habout
  exact habout

/-- The runner is called by a flight that is to call it, and by no other one. -/
theorem calls_resume (s : Setup) (now : Nat) (f : Flight) (w : World) :
    (∃ e attempt delay, f.phase = .calling e attempt delay ∧
      (f.resume s now w).2.calls = f.callOf s now e attempt :: w.calls) ∨
    (∀ e attempt delay, f.phase ≠ .calling e attempt delay) ∧ (f.resume s now w).2.calls = w.calls := by
  have hacts := acts_resume s now f w
  generalize f.resume s now w = out at hacts ⊢
  cases hacts with
  | calls hphase => exact Or.inl ⟨_, _, _, hphase, (staysAtWork_workOn ..).calls⟩
  | searches hfree hsearches =>
      obtain ⟨found, h⟩ := hsearches.exists_searched
      exact Or.inr ⟨fun e attempt delay hphase => (by rw [hphase] at hfree; cases hfree), h.calls⟩
  | opens hphase => exact Or.inr ⟨by simp [hphase], (kept_openUp ..).world.calls⟩
  | closes hphase => exact Or.inr ⟨by simp [hphase], (kept_closeUp ..).world.calls⟩
  | works hphase => exact Or.inr ⟨by simp [hphase], (staysAtWork_workOn ..).calls⟩
  | answered hphase hanswered => exact Or.inr ⟨by simp [hphase], by rw [hanswered.world_eq]⟩
  | rests hphase => exact Or.inr ⟨by simp [hphase], rfl⟩

end Flight

end Foreman
