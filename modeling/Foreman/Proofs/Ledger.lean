import Foreman.Memory
import Mathlib.Data.List.Basic
import Mathlib.Data.List.Perm.Basic

/-!
# `Foreman.Proofs.Ledger` — what the memory service holds beyond what it held before

The memory service issues positions as names, and its clients work on what they have opened under these
names, in any order. A `Ledger` says what the service holds beyond what it held at some moment before,
and under which names: one `Trace` for each task, its record and perhaps its session and its episode, in
no particular order. Nothing that was there before is touched.

Every operation acts on the ledger as expected: if its name is in the ledger, it does not fail, and it
changes the one entry of that name. So a client only has to know its own entries.

## Contents
- **`Grown`**: a list of named things has grown by some entries.
- **`Trace`** and **`Ledger`**.
- One lemma for each operation: `Ledger.createRecord`, `Ledger.updateRecord`, ...
-/

namespace Foreman

variable {α ν : Type} {name : Nat → ν} {old new : List α} {entries entries' : List (ν × α)} {n : ν}
  {a : α}

/-! ## Lists of named things -/

/-- **A list of things has grown by some entries**, each of which is named after its position. -/
def Grown (name : Nat → ν) (old new : List α) (entries : List (ν × α)) : Prop :=
  ∃ added, new = old ++ added ∧
    ((added.zipIdx old.length).map fun a => (name a.2, a.1)).Perm entries

namespace Grown

theorem refl (name : Nat → ν) (old : List α) : Grown name old old [] :=
  ⟨[], (List.append_nil old).symm, List.Perm.refl _⟩

theorem perm (h : Grown name old new entries) (hperm : entries.Perm entries') :
    Grown name old new entries' := by
  obtain ⟨added, heq, hentries⟩ := h
  exact ⟨added, heq, hentries.trans hperm⟩

/-- A new thing is named after the position that it gets. -/
theorem snoc (h : Grown name old new entries) (a : α) :
    Grown name old (new ++ [a]) ((name new.length, a) :: entries) := by
  obtain ⟨added, rfl, hentries⟩ := h
  refine ⟨added ++ [a], List.append_assoc .., ?_⟩
  rw [List.zipIdx_append, List.map_append, List.length_append]
  exact (hentries.append_right _).trans (List.perm_append_singleton ..)

/-- **A thing is found and replaced under its name.** -/
theorem exists_position (h : Grown name old new ((n, a) :: entries)) :
    ∃ k, n = name k ∧ new[k]? = some a ∧
      ∀ b, Grown name old (new.set k b) ((n, b) :: entries) := by
  obtain ⟨added, rfl, hentries⟩ := h
  obtain ⟨⟨b, k⟩, hmem, heq⟩ := List.mem_map.mp (hentries.mem_iff.mpr List.mem_cons_self)
  obtain ⟨hname, rfl⟩ := Prod.mk.inj heq
  obtain ⟨hle, hat⟩ := List.mk_mem_zipIdx_iff_le_and_getElem?_sub.mp hmem
  obtain ⟨i, rfl⟩ := Nat.exists_eq_add_of_le hle
  rw [Nat.add_sub_cancel_left] at hat
  obtain ⟨hlt, hget⟩ := List.getElem?_eq_some_iff.mp hat
  obtain ⟨before, after, heq, rfl, -⟩ := @List.exists_of_set _ _ b _ hlt
  rw [hget] at heq
  subst heq
  -- the entries are that of the thing, whatever it is, and all others
  have hsplit : ∀ c, (((before ++ c :: after).zipIdx old.length).map fun a => (name a.2, a.1)).Perm
      ((n, c) :: ((before.zipIdx old.length ++
        after.zipIdx (old.length + before.length + 1)).map fun a => (name a.2, a.1))) := by
    intro c
    rw [List.zipIdx_append, List.zipIdx_cons, List.map_append, List.map_cons, hname, List.map_append]
    exact List.perm_middle
  have hothers := ((hsplit b).symm.trans hentries).cons_inv
  refine ⟨old.length + before.length, hname.symm, by simp, fun c => ⟨before ++ c :: after, ?_, ?_⟩⟩
  · simp
  · exact (hsplit c).trans (hothers.cons _)

/-- What was added, under whatever names. -/
theorem exists_added (h : Grown name old new entries) :
    ∃ added, new = old ++ added ∧ added.Perm (entries.map Prod.snd) := by
  obtain ⟨added, heq, hentries⟩ := h
  refine ⟨added, heq, ?_⟩
  have hvalues := hentries.map Prod.snd
  rwa [List.map_map, show Prod.snd ∘ (fun a : α × Nat => (name a.2, a.1)) = Prod.fst from rfl,
    List.zipIdx_map_fst] at hvalues

end Grown

/-! ## Traces -/

/-- What a task has left in the service: a record, under the name that the task knows it by, if it knows
    one; and perhaps a session and an episode. -/
structure Trace where
  record : Option Handle × Record
  session : Option (Handle × Session) := none
  episode : Option Episode := none

/-- Whether the session of a task was merged. -/
def Trace.isMerged (trace : Trace) : Bool :=
  trace.session.any fun session => session.2.mergedWith.isSome

/-- **What the service holds beyond what it held before**: traces of tasks, in no particular order. It
    has merged a session for each trace with a merged one. -/
structure Ledger (before : Memory) (traces : List Trace) (memory : Memory) : Prop where
  records : Grown (fun k => some (.issued k)) before.records memory.records (traces.map Trace.record)
  sessions : Grown .issued before.sessions memory.sessions (traces.filterMap Trace.session)
  episodes : ∃ added, memory.episodes = before.episodes ++ added ∧
    added.Perm (traces.filterMap Trace.episode)
  version : memory.version = before.version + traces.countP Trace.isMerged

/-- A record with its next status. -/
def Record.updated (r : Record) (status : RecordStatus) (metadata : RecordMetadata) : Record :=
  { r with status, metadata, history := r.history ++ [status] }

/-- Two states of the service hold the same; they may differ in whether it opens sessions. -/
structure Memory.SameBooks (memory memory' : Memory) : Prop where
  sessions : memory'.sessions = memory.sessions
  records : memory'.records = memory.records
  episodes : memory'.episodes = memory.episodes
  version : memory'.version = memory.version

theorem Memory.SameBooks.refl (memory : Memory) : memory.SameBooks memory := ⟨rfl, rfl, rfl, rfl⟩

namespace Ledger

variable {before memory memory' : Memory} {traces traces' : List Trace} {record : Option Handle}
  {r : Record} {session : Option (Handle × Session)} {episode : Option Episode}
  {named : Option Handle × Record} {h : Handle} {opened : Session}

theorem refl (before : Memory) : Ledger before [] before :=
  ⟨.refl .., .refl .., ⟨[], (List.append_nil _).symm, .refl _⟩, rfl⟩

theorem perm (hledger : Ledger before traces memory) (hperm : traces.Perm traces') :
    Ledger before traces' memory := by
  obtain ⟨added, heq, hadded⟩ := hledger.episodes
  exact ⟨hledger.records.perm (hperm.map _), hledger.sessions.perm (hperm.filterMap _),
    ⟨added, heq, hadded.trans (hperm.filterMap _)⟩, hledger.version.trans (by rw [hperm.countP_eq])⟩

theorem congr (hledger : Ledger before traces memory) (hsame : memory.SameBooks memory') :
    Ledger before traces memory' :=
  ⟨hsame.records ▸ hledger.records, hsame.sessions ▸ hledger.sessions,
    hsame.episodes ▸ hledger.episodes, hsame.version.trans hledger.version⟩

/-! ## Operations -/

theorem createRecord (hledger : Ledger before traces memory) (definition : TaskDefinition) :
    Ledger before (⟨(some (memory.createRecord definition).1, { definition }), none, none⟩ :: traces)
      (memory.createRecord definition).2 :=
  ⟨hledger.records.snoc { definition }, hledger.sessions, hledger.episodes, hledger.version⟩

/-- **A record in the ledger is known by a name**, and is updated under it. -/
theorem updateRecord (hledger : Ledger before (⟨(record, r), session, episode⟩ :: traces) memory)
    (status : RecordStatus) (metadata : RecordMetadata) :
    ∃ h memory', record = some h ∧ memory.updateRecord h status metadata = .ok memory' ∧
      Ledger before (⟨(record, r.updated status metadata), session, episode⟩ :: traces) memory' := by
  obtain ⟨k, rfl, hfound, hset⟩ := hledger.records.exists_position
  refine ⟨.issued k, memory.setRecord (.issued k) (r.updated status metadata), rfl, ?_, ?_⟩
  · rw [Memory.updateRecord, show memory.record? (.issued k) = some r from hfound]
    rfl
  · exact ⟨hset _, hledger.sessions, hledger.episodes, hledger.version⟩

/-- A session is opened, or refused. -/
theorem createSession (hledger : Ledger before (⟨named, none, none⟩ :: traces) memory)
    (owner : AgentId) (scope : SessionScope) :
    memory.createSession owner scope = .error (.unavailable "session creation disabled") ∨
      ∃ h memory', memory.createSession owner scope = .ok (h, memory') ∧
        Ledger before (⟨named, some (h, { owner, scope }), none⟩ :: traces) memory' := by
  unfold Memory.createSession
  split
  · exact Or.inl rfl
  · exact Or.inr ⟨_, _, rfl, hledger.records, hledger.sessions.snoc { owner, scope },
      hledger.episodes, hledger.version⟩

/-- **An open session in the ledger is merged**, for the first time. -/
theorem mergeSession
    (hledger : Ledger before (⟨named, some (h, opened), episode⟩ :: traces) memory)
    (hopen : opened.closed = false) (hnew : opened.mergedWith = none) (strategy : MergeStrategy) :
    ∃ report memory', memory.mergeSession h strategy = .ok (report, memory') ∧
      Ledger before (⟨named, some (h, { opened with mergedWith := some strategy }), episode⟩ :: traces)
        memory' := by
  obtain ⟨k, rfl, hfound, hset⟩ := hledger.sessions.exists_position
  refine ⟨_, _, Memory.mergeSession_of_open strategy hfound hopen, hledger.records, hset _,
    hledger.episodes, ?_⟩
  have hversion := hledger.version
  rw [List.countP_cons_of_neg (by simp [Trace.isMerged, hnew])] at hversion
  rw [List.countP_cons_of_pos (by simp [Trace.isMerged])]
  exact congrArg (· + 1) hversion

/-- **A session in the ledger is closed for its owner.** -/
theorem closeSession
    (hledger : Ledger before (⟨named, some (h, opened), episode⟩ :: traces) memory) :
    ∃ memory', memory.closeSession h opened.owner = .ok memory' ∧
      Ledger before (⟨named, some (h, { opened with closed := true }), episode⟩ :: traces) memory' := by
  obtain ⟨k, rfl, hfound, hset⟩ := hledger.sessions.exists_position
  exact ⟨_, Memory.closeSession_of_owned hfound, hledger.records, hset _, hledger.episodes,
    hledger.version⟩

theorem storeEpisode (hledger : Ledger before (⟨named, session, none⟩ :: traces) memory)
    (stored : Episode) :
    Ledger before (⟨named, session, some stored⟩ :: traces) (memory.storeEpisode stored) := by
  obtain ⟨added, heq, hadded⟩ := hledger.episodes
  refine ⟨hledger.records, hledger.sessions, ⟨added ++ [stored], ?_, ?_⟩, hledger.version⟩
  · show memory.episodes ++ [stored] = _
    rw [heq, List.append_assoc]
  · exact (List.perm_append_singleton stored added).trans (hadded.cons stored)

end Ledger
end Foreman
