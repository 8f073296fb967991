import Foreman.Memory.Access
import Foreman.Proofs.Ledger

/-!
# `Foreman.Proofs.Memory.Requests` — what a request does to a memory

An access in place comes to the same as the operation that makes a new memory: it stores the result of the
operation, and a refusal leaves the memory as it was. All that any request can do is one of seven changes,
under the guards of the operation, or nothing.

## Contents
- **`MemoryAccess.Performs`** with one lemma for each operation.
- **`MemoryRequest.outcome`** and `MemoryRequest.performs_perform`: a request in place, and the operation.
- **`Memory.Change`** with `MemoryRequest.change`: the changes, and what is answered then.
-/

namespace Foreman

open InPlace

variable {m m' : Memory} {q : MemoryRequest}

/-! ## Requests and operations -/

namespace MemoryAccess

/-- **An access in place comes to the same as the operation** if it stores what the operation makes, and
    a refusal leaves no trace. -/
def Performs {α : Type} (x : MemoryAccess α) (op : Memory → Except MemoryError (α × Memory)) : Prop :=
  ∀ m, x.run m = match op m with
    | .ok (a, m') => (.ok a, m')
    | .error e => (.error e, m)

theorem performs_createSession (owner : AgentId) (scope : SessionScope) :
    Performs (createSession owner scope) fun m => m.createSession owner scope := by
  intro m
  dsimp only
  rw [createSession, Memory.createSession, run_get_bind]
  by_cases hrefuses : m.refusesSessions = true
  · rw [if_pos hrefuses, if_pos hrefuses]
    rfl
  · rw [if_neg hrefuses, if_neg hrefuses]
    rfl

theorem performs_mergeSession (h : Handle) (strategy : MergeStrategy) :
    Performs (mergeSession h strategy) fun m => m.mergeSession h strategy := by
  intro m
  dsimp only
  rw [mergeSession, Memory.mergeSession, run_findSession_bind]
  cases m.session? h with
  | none => rfl
  | some s =>
      dsimp only
      by_cases hclosed : s.closed = true
      · rw [if_pos hclosed, if_neg (by simp [hclosed])]
      · rw [if_neg hclosed, if_pos (by simp [hclosed]), run_modify_bind, run_modify_bind, run_get_bind]
        dsimp only
        rw [Memory.version_setSession]
        rfl

theorem performs_closeSession (h : Handle) (owner : AgentId) :
    Performs (closeSession h owner) fun m => (m.closeSession h owner).map fun m => ((), m) := by
  intro m
  dsimp only
  rw [closeSession, Memory.closeSession, run_findSession_bind]
  cases m.session? h with
  | none => rfl
  | some s =>
      dsimp only
      by_cases howner : s.owner = owner
      · rw [if_pos howner, if_pos (decide_eq_true howner)]
        rfl
      · rw [if_neg howner, if_neg (by simp [howner])]
        rfl

theorem performs_updateRecord (h : Handle) (status : RecordStatus) (metadata : RecordMetadata) :
    Performs (updateRecord h status metadata) fun m =>
      (m.updateRecord h status metadata).map fun m => ((), m) := by
  intro m
  dsimp only
  rw [updateRecord, Memory.updateRecord, run_get_bind]
  cases m.record? h <;> rfl

/-- What is answered is put into words afterwards. -/
theorem Performs.map {α β : Type} {x : MemoryAccess α} {op : Memory → Except MemoryError (α × Memory)}
    {op' : Memory → Except MemoryError (β × Memory)} (hx : Performs x op) (f : α → β)
    (hop : ∀ m, op' m = (op m).map (Prod.map f id)) : Performs (x >>= fun a => pure (f a)) op' := by
  intro m
  rw [run_bind, hx m, hop m]
  cases op m <;> rfl

end MemoryAccess

namespace MemoryRequest

/-- What a request comes to: an answer and a new memory, or a refusal. -/
def outcome (m : Memory) : MemoryRequest → Except MemoryError (MemoryAnswer × Memory)
  | createSession owner scope => (m.createSession owner scope).map (Prod.map .opened id)
  | mergeSession session strategy => (m.mergeSession session strategy).map (Prod.map .merged id)
  | closeSession session owner => (m.closeSession session owner).map fun m => (.done, m)
  | storeEpisode episode => .ok (.done, m.storeEpisode episode)
  | createRecord definition => .ok (Prod.map .recorded id (m.createRecord definition))
  | updateRecord record status metadata =>
    (m.updateRecord record status metadata).map fun m => (.done, m)
  | refuseSessions on => .ok (.done, { m with refusesSessions := on })

open MemoryAccess in
/-- **A request in place stores what the operation makes**, and a refusal leaves no trace. -/
theorem performs_perform (q : MemoryRequest) : Performs q.perform fun m => q.outcome m := by
  cases q with
  | createSession owner scope => exact (performs_createSession owner scope).map _ fun _ => rfl
  | mergeSession session strategy => exact (performs_mergeSession session strategy).map _ fun _ => rfl
  | closeSession session owner =>
      refine (performs_closeSession session owner).map _ fun m => ?_
      show (m.closeSession session owner).map _ = _
      cases m.closeSession session owner <;> rfl
  | updateRecord record status metadata =>
      refine (performs_updateRecord record status metadata).map _ fun m => ?_
      show (m.updateRecord record status metadata).map _ = _
      cases m.updateRecord record status metadata <;> rfl
  | storeEpisode episode => exact fun _ => rfl
  | createRecord definition => exact fun _ => rfl
  | refuseSessions on => exact fun _ => rfl

end MemoryRequest

/-! ## Changes -/

namespace Memory

/-- **What a request can do to a memory**, and what it is answered then. -/
inductive Change (m : Memory) : MemoryRequest → Except MemoryError MemoryAnswer → Memory → Prop
  | refused {q : MemoryRequest} {e : MemoryError} : Change m q (.error e) m
  | opened {owner : AgentId} {scope : SessionScope} : Change m (.createSession owner scope)
      (.ok (.opened (.issued m.sessions.length)))
      { m with sessions := m.sessions ++ [{ owner, scope }] }
  | merged {h : Handle} {s : Session} {strategy : MergeStrategy} (hs : m.session? h = some s)
      (hopen : s.closed = false) : Change m (.mergeSession h strategy)
      (.ok (.merged ⟨0, 0, m.version + 1⟩))
      { m.setSession h { s with mergedWith := some strategy } with version := m.version + 1 }
  | closed {h : Handle} {s : Session} (hs : m.session? h = some s) :
      Change m (.closeSession h s.owner) (.ok .done) (m.setSession h { s with closed := true })
  | stored {episode : Episode} : Change m (.storeEpisode episode) (.ok .done) (m.storeEpisode episode)
  | recorded {definition : TaskDefinition} : Change m (.createRecord definition)
      (.ok (.recorded (.issued m.records.length)))
      { m with records := m.records ++ [{ definition }] }
  | updated {h : Handle} {r : Record} {status : RecordStatus} {metadata : RecordMetadata}
      (hr : m.record? h = some r) : Change m (.updateRecord h status metadata) (.ok .done)
      (m.setRecord h (r.updated status metadata))
  | switched {on : Bool} : Change m (.refuseSessions on) (.ok .done) { m with refusesSessions := on }

end Memory

/-- **Every request makes one of the changes**, or is refused. -/
theorem MemoryRequest.change (q : MemoryRequest) (m : Memory) : m.Change q (q.answer m) (q.after m) := by
  rw [answer, after, performs_perform q m]
  cases q with
  | createSession owner scope =>
      dsimp only [outcome, Memory.createSession]
      by_cases hrefuses : m.refusesSessions = true
      · rw [if_pos hrefuses]
        exact .refused
      · rw [if_neg hrefuses]
        exact .opened
  | mergeSession session strategy =>
      dsimp only [outcome, Memory.mergeSession]
      cases hs : m.session? session with
      | none => exact .refused
      | some s =>
          dsimp only
          by_cases hclosed : s.closed = true
          · rw [if_pos hclosed]
            exact .refused
          · rw [if_neg hclosed]
            exact .merged hs (Bool.eq_false_iff.mpr hclosed)
  | closeSession session owner =>
      dsimp only [outcome, Memory.closeSession]
      cases hs : m.session? session with
      | none => exact .refused
      | some s =>
          dsimp only
          by_cases howner : s.owner = owner
          · rw [if_pos howner]
            exact howner ▸ .closed hs
          · rw [if_neg howner]
            exact .refused
  | updateRecord record status metadata =>
      dsimp only [outcome, Memory.updateRecord]
      cases hr : m.record? record with
      | none => exact .refused
      | some r => exact .updated hr
  | storeEpisode episode => exact .stored
  | createRecord definition => exact .recorded
  | refuseSessions on => exact .switched

end Foreman
