import Foreman.Task
import Foreman.Time.Timestamp

/-!
# `Foreman.Memory` — the shared memory service

An execution opens one isolated workspace session per task, merges and closes it when the task is
done, stores an episode about what happened, and keeps a record of the task up to date. `Memory` is
such a service held in a value.

## Contents
- **`Handle`**: names of sessions and records.
- **`Session`**, **`Record`**, **`Episode`** and their words.
- **`Memory`** with `createSession`, `mergeSession`, `closeSession`, `storeEpisode`, `createRecord`,
  `updateRecord`.
- `mergeSession_of_open`, `closeSession_of_owned`: what goes through.
- **Laws of replacements**: what they leave alone, and what is found under a name afterwards.
-/

namespace Foreman

/-! ## Names of stored things -/

/-- The name of a session or record: one issued by the service, by its number, or any other text. -/
inductive Handle where
  | issued (number : Nat)
  | foreign (text : String)
  deriving DecidableEq

/-- The text of a name among things of the given sort. -/
def Handle.text (sort : String) : Handle → String
  | issued number => sort ++ "-" ++ toString number
  | foreign text => text

/-! ## Sessions -/

/-- How a session is merged. -/
inductive MergeStrategy where
  | auto
  | manual
  | theirs
  | mine
  deriving DecidableEq, Inhabited

/-- The word that stands for a strategy. -/
def MergeStrategy.label : MergeStrategy → String
  | auto => "auto"
  | manual => "manual"
  | theirs => "theirs"
  | mine => "mine"

/-- Which parts of the memory a session may see. -/
structure SessionScope where
  paths : List String := []
  readOnlyPaths : List String := []
  deriving DecidableEq, Inhabited

/-- An isolated workspace. -/
structure Session where
  owner : AgentId
  scope : SessionScope
  mergedWith : Option MergeStrategy := none
  closed : Bool := false
  deriving DecidableEq, Inhabited

/-- What a merge did. -/
structure MergeReport where
  changesMerged : Nat
  conflictsResolved : Nat
  newVersion : Nat
  deriving DecidableEq, Inhabited

/-! ## Episodes -/

/-- The sort of an episode. -/
inductive EpisodeType where
  | task
  | feature
  | bugfix
  | refactor
  | exploration
  deriving DecidableEq, Inhabited

/-- The word that stands for a sort of episode. -/
def EpisodeType.label : EpisodeType → String
  | task => "task"
  | feature => "feature"
  | bugfix => "bugfix"
  | refactor => "refactor"
  | exploration => "exploration"

/-- How an episode ended. -/
inductive EpisodeOutcome where
  | success
  | partialSuccess
  | failure
  | abandoned
  deriving DecidableEq, Inhabited

/-- The word that stands for the outcome of an episode. -/
def EpisodeOutcome.label : EpisodeOutcome → String
  | success => "success"
  | partialSuccess => "partial"
  | failure => "failure"
  | abandoned => "abandoned"

/-- What happened to one task. -/
structure Episode where
  episodeType : EpisodeType
  task : TaskId
  description : String
  agent : AgentId
  outcome : EpisodeOutcome
  duration : Duration
  attempts : Nat
  /-- What the task touched, as its runner reports it. -/
  affectedEntities : List String
  error : Option String
  createdAt : Timestamp
  deriving DecidableEq, Inhabited

/-! ## Records -/

/-- What a record is about. -/
structure TaskDefinition where
  title : String
  description : String := ""
  workspace : Option String := none
  estimatedHours : Option Binary64 := none
  deriving DecidableEq, Inhabited

/-- Where the task of a record stands. -/
inductive RecordStatus where
  | pending
  | inProgress
  | completed
  | failed
  deriving DecidableEq, Inhabited

/-- The word that stands for the status of a record. -/
def RecordStatus.label : RecordStatus → String
  | pending => "pending"
  | inProgress => "in_progress"
  | completed => "done"
  | failed => "failed"

/-- What a record carries besides its status. -/
structure RecordMetadata where
  duration : Option Duration := none
  notes : Option String := none
  deriving DecidableEq, Inhabited

/-- The record of one task. -/
structure Record where
  definition : TaskDefinition
  status : RecordStatus := .pending
  metadata : RecordMetadata := {}
  /-- Every status the record went through, oldest first. -/
  history : List RecordStatus := [.pending]
  deriving DecidableEq, Inhabited

/-! ## The service -/

/-- Why the service refuses a call. -/
inductive MemoryError where
  | unavailable (reason : String)
  | sessionNotFound (session : Handle)
  | recordNotFound (record : Handle)
  deriving DecidableEq

/-- How a refusal is reported. -/
def MemoryError.message : MemoryError → String
  | .unavailable reason => "memory service unavailable: " ++ reason
  | .sessionNotFound session => "session '" ++ session.text "session" ++ "' not found"
  | .recordNotFound record => "task record '" ++ record.text "record" ++ "' not found"

/-- Everything stored, in the order of its creation; a session or record is issued its position. -/
structure Memory where
  sessions : List Session := []
  records : List Record := []
  episodes : List Episode := []
  /-- Number of merges. -/
  version : Nat := 0
  /-- While set, no session can be created. -/
  refusesSessions : Bool := false
  deriving DecidableEq, Inhabited

namespace Memory

/-- The service without anything stored. -/
def empty : Memory := {}

/-- The session of a name. -/
def session? (m : Memory) : Handle → Option Session
  | .issued n => m.sessions[n]?
  | .foreign _ => none

/-- The record of a name. -/
def record? (m : Memory) : Handle → Option Record
  | .issued n => m.records[n]?
  | .foreign _ => none

/-- Replaces the session of a name. -/
def setSession (m : Memory) (h : Handle) (s : Session) : Memory :=
  match h with
  | .issued n => { m with sessions := m.sessions.set n s }
  | .foreign _ => m

/-- Replaces the record of a name. -/
def setRecord (m : Memory) (h : Handle) (r : Record) : Memory :=
  match h with
  | .issued n => { m with records := m.records.set n r }
  | .foreign _ => m

/-- Opens a session. -/
def createSession (m : Memory) (owner : AgentId) (scope : SessionScope) :
    Except MemoryError (Handle × Memory) :=
  if m.refusesSessions then .error (.unavailable "session creation disabled")
  else .ok (.issued m.sessions.length, { m with sessions := m.sessions ++ [{ owner, scope }] })

/-- Merges an open session. -/
def mergeSession (m : Memory) (h : Handle) (strategy : MergeStrategy) :
    Except MemoryError (MergeReport × Memory) :=
  match m.session? h with
  | none => .error (.sessionNotFound h)
  | some s =>
    if s.closed then .error (.sessionNotFound h)
    else
      let version := m.version + 1
      .ok (⟨0, 0, version⟩,
        { m.setSession h { s with mergedWith := some strategy } with version })

/-- Closes a session, open or not, for its owner. -/
def closeSession (m : Memory) (h : Handle) (owner : AgentId) : Except MemoryError Memory :=
  match m.session? h with
  | none => .error (.sessionNotFound h)
  | some s =>
    if s.owner = owner then .ok (m.setSession h { s with closed := true })
    else .error (.sessionNotFound h)

/-- Stores an episode. -/
def storeEpisode (m : Memory) (e : Episode) : Memory := { m with episodes := m.episodes ++ [e] }

/-- Creates a pending record. -/
def createRecord (m : Memory) (definition : TaskDefinition) : Handle × Memory :=
  (.issued m.records.length, { m with records := m.records ++ [{ definition }] })

/-- Gives a record its next status and new metadata. -/
def updateRecord (m : Memory) (h : Handle) (status : RecordStatus) (metadata : RecordMetadata) :
    Except MemoryError Memory :=
  match m.record? h with
  | none => .error (.recordNotFound h)
  | some r =>
    .ok (m.setRecord h { r with status, metadata, history := r.history ++ [status] })

/-- Sessions that are not closed. -/
def openSessions (m : Memory) : Nat := m.sessions.countP fun s => !s.closed

/-- The first record with a title. -/
def recordTitled (m : Memory) (title : String) : Option Record :=
  m.records.find? fun r => r.definition.title = title

/-! ## What goes through -/

theorem mergeSession_of_open {m : Memory} {h : Handle} {s : Session} (strategy : MergeStrategy)
    (hs : m.session? h = some s) (hopen : s.closed = false) : m.mergeSession h strategy =
      .ok (⟨0, 0, m.version + 1⟩,
        { m.setSession h { s with mergedWith := some strategy } with version := m.version + 1 }) := by
  simp only [mergeSession, hs, hopen, Bool.false_eq_true, if_false]

/-- A session is closed for its owner even if it is closed already. -/
theorem closeSession_of_owned {m : Memory} {h : Handle} {s : Session} (hs : m.session? h = some s) :
    m.closeSession h s.owner = .ok (m.setSession h { s with closed := true }) := by
  simp only [closeSession, hs, if_true]

/-! ## Laws of replacements -/

@[simp] theorem records_setSession (m : Memory) (h : Handle) (s : Session) :
    (m.setSession h s).records = m.records := by
  cases h <;> rfl

@[simp] theorem episodes_setSession (m : Memory) (h : Handle) (s : Session) :
    (m.setSession h s).episodes = m.episodes := by
  cases h <;> rfl

@[simp] theorem version_setSession (m : Memory) (h : Handle) (s : Session) :
    (m.setSession h s).version = m.version := by
  cases h <;> rfl

@[simp] theorem refusesSessions_setSession (m : Memory) (h : Handle) (s : Session) :
    (m.setSession h s).refusesSessions = m.refusesSessions := by
  cases h <;> rfl

@[simp] theorem sessions_setRecord (m : Memory) (h : Handle) (r : Record) :
    (m.setRecord h r).sessions = m.sessions := by
  cases h <;> rfl

@[simp] theorem episodes_setRecord (m : Memory) (h : Handle) (r : Record) :
    (m.setRecord h r).episodes = m.episodes := by
  cases h <;> rfl

@[simp] theorem version_setRecord (m : Memory) (h : Handle) (r : Record) :
    (m.setRecord h r).version = m.version := by
  cases h <;> rfl

@[simp] theorem refusesSessions_setRecord (m : Memory) (h : Handle) (r : Record) :
    (m.setRecord h r).refusesSessions = m.refusesSessions := by
  cases h <;> rfl

variable {m : Memory} {h : Handle} {s : Session} {r : Record}

theorem session?_eq_some_iff : m.session? h = some s ↔ ∃ n, h = .issued n ∧ m.sessions[n]? = some s := by
  cases h <;> simp [session?]

theorem record?_eq_some_iff : m.record? h = some r ↔ ∃ n, h = .issued n ∧ m.records[n]? = some r := by
  cases h <;> simp [record?]

theorem getElem?_snoc {α : Type} (l : List α) (a : α) (n : Nat) :
    (l ++ [a])[n]? = if n = l.length then some a else l[n]? := by
  rcases Nat.lt_trichotomy n l.length with hlt | rfl | hgt
  · rw [List.getElem?_append_left hlt, if_neg (Nat.ne_of_lt hlt)]
  · simp
  · rw [if_neg (Nat.ne_of_gt hgt), List.getElem?_eq_none (Nat.le_of_lt hgt),
      List.getElem?_eq_none (by simpa using Nat.succ_le_of_lt hgt)]

/-- A session that is opened is found under the next position, where nothing was found before. -/
theorem session?_snoc (m : Memory) (s : Session) (h : Handle) :
    { m with sessions := m.sessions ++ [s] }.session? h =
      if h = .issued m.sessions.length then some s else m.session? h := by
  cases h with
  | foreign text => rfl
  | issued n => simp [session?, getElem?_snoc]

theorem record?_snoc (m : Memory) (r : Record) (h : Handle) :
    { m with records := m.records ++ [r] }.record? h =
      if h = .issued m.records.length then some r else m.record? h := by
  cases h with
  | foreign text => rfl
  | issued n => simp [record?, getElem?_snoc]

theorem session?_next (m : Memory) : m.session? (.issued m.sessions.length) = none :=
  List.getElem?_eq_none (Nat.le_refl _)

theorem record?_next (m : Memory) : m.record? (.issued m.records.length) = none :=
  List.getElem?_eq_none (Nat.le_refl _)

/-- A session that was found is replaced, and all others stay. -/
theorem session?_setSession (hs : m.session? h = some s) (s' : Session) (h' : Handle) :
    (m.setSession h s').session? h' = if h' = h then some s' else m.session? h' := by
  obtain ⟨n, rfl, hn⟩ := session?_eq_some_iff.mp hs
  cases h' with
  | foreign text => rfl
  | issued k =>
      have hlt : n < m.sessions.length := (List.getElem?_eq_some_iff.mp hn).1
      simp [session?, setSession, List.getElem?_set, hlt, eq_comm]

/-- A record that was found is replaced, and all others stay. -/
theorem record?_setRecord (hr : m.record? h = some r) (r' : Record) (h' : Handle) :
    (m.setRecord h r').record? h' = if h' = h then some r' else m.record? h' := by
  obtain ⟨n, rfl, hn⟩ := record?_eq_some_iff.mp hr
  cases h' with
  | foreign text => rfl
  | issued k =>
      have hlt : n < m.records.length := (List.getElem?_eq_some_iff.mp hn).1
      simp [record?, setRecord, List.getElem?_set, hlt, eq_comm]

end Memory

end Foreman
