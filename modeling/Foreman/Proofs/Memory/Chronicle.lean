import Foreman.Proofs.Memory.Requests

/-!
# `Foreman.Proofs.Memory.Chronicle` — the memory service as a chronicle of its requests

Whatever requests a memory service gets, and in whatever order, what it holds can be told from those that
went through: `Recounts` says how. What it held at any moment is still there later, with more appended to
it (`Extends`): a session stays with its owner and its scope, a closed one as it is, and a record goes on
from where it was.

Both follow from what a single request can do (`Change`), by induction on the requests. Whether something
is added or replaced, one name is looked up with another result then, and all others as before (`Puts`);
so there is one lemma for everything that happens to sessions, and one for records.

## Contents
- **`Memory.Extends`** with `Memory.Change.extends`: what later requests keep.
- **`Memory.Recounts`** with `Memory.Recounts.change`: what requests tell.
- **`Memory.Answers`**: which requests go through.
- **`Memory.history_is_kept`**.
-/

namespace Foreman

variable {α : Type} {m m' m'' : Memory} {q : MemoryRequest}
  {answer : Except MemoryError MemoryAnswer} {log : List Served} {h : Handle} {s : Session} {r : Record}

/-! ## Look-ups -/

/-- **One name is looked up with a new result**, and all others as before. -/
def Puts (find find' : Handle → Option α) (h : Handle) (a : α) : Prop :=
  ∀ k, find' k = if k = h then some a else find k

/-- Whatever was found is still found, and goes on as a relation says. -/
def Keeps (R : α → α → Prop) (find find' : Handle → Option α) : Prop :=
  ∀ h a, find h = some a → ∃ b, find' h = some b ∧ R a b

variable {R : α → α → Prop} {find find' find'' : Handle → Option α}

theorem Keeps.refl (hR : ∀ a, R a a) (find : Handle → Option α) : Keeps R find find :=
  fun _ a ha => ⟨a, ha, hR a⟩

theorem Keeps.trans (hR : ∀ {a b c}, R a b → R b c → R a c) (h : Keeps R find find')
    (h' : Keeps R find' find'') : Keeps R find find'' := by
  intro k a ha
  obtain ⟨b, hb, hab⟩ := h k a ha
  obtain ⟨c, hc, hbc⟩ := h' k b hb
  exact ⟨c, hc, hR hab hbc⟩

/-- A new result goes on from the old one, if there was one. -/
theorem Puts.keeps {a : α} (hput : Puts find find' h a) (hR : ∀ b, R b b)
    (ha : ∀ b, find h = some b → R b a) : Keeps R find find' := by
  intro k b hb
  rw [hput k]
  by_cases hk : k = h
  · exact ⟨a, if_pos hk, ha b (hk ▸ hb)⟩
  · exact ⟨b, (if_neg hk).trans hb, hR b⟩

/-- What is found is the new result, or was found before. -/
theorem Puts.eq_or_found {a b : α} {k : Handle} (hput : Puts find find' h a) (hb : find' k = some b) :
    (k = h ∧ b = a) ∨ (k ≠ h ∧ find k = some b) := by
  rw [hput k] at hb
  by_cases hk : k = h
  · rw [if_pos hk, Option.some_inj] at hb
    exact Or.inl ⟨hk, hb.symm⟩
  · rw [if_neg hk] at hb
    exact Or.inr ⟨hk, hb⟩

/-- What is not found was not found before. -/
theorem Puts.not_found {a : α} {k : Handle} (hput : Puts find find' h a) (hnone : find' k = none) :
    k ≠ h ∧ find k = none := by
  rw [hput k] at hnone
  by_cases hk : k = h
  · rw [if_pos hk] at hnone
    cases hnone
  · rw [if_neg hk] at hnone
    exact ⟨hk, hnone⟩

namespace Memory

theorem puts_snoc_session (m : Memory) (s : Session) : Puts m.session?
    { m with sessions := m.sessions ++ [s] }.session? (.issued m.sessions.length) s :=
  m.session?_snoc s

theorem puts_setSession (hs : m.session? h = some s) (s' : Session) :
    Puts m.session? (m.setSession h s').session? h s' := session?_setSession hs s'

theorem puts_snoc_record (m : Memory) (r : Record) : Puts m.record?
    { m with records := m.records ++ [r] }.record? (.issued m.records.length) r :=
  m.record?_snoc r

theorem puts_setRecord (hr : m.record? h = some r) (r' : Record) :
    Puts m.record? (m.setRecord h r').record? h r' := record?_setRecord hr r'

theorem session?_congr (hm : m'.sessions = m.sessions) : m'.session? = m.session? := by
  funext h
  cases h <;> simp [session?, hm]

theorem record?_congr (hm : m'.records = m.records) : m'.record? = m.record? := by
  funext h
  cases h <;> simp [record?, hm]

end Memory

/-! ## What later requests keep -/

/-- **What a session keeps for good**: its owner and its scope, and all of it once it is closed. -/
structure Session.Continues (s s' : Session) : Prop where
  owner : s'.owner = s.owner
  scope : s'.scope = s.scope
  closed : s.closed = true → s' = s

/-- **What a record keeps for good**: what it is about, and what it went through. -/
structure Record.Continues (r r' : Record) : Prop where
  definition : r'.definition = r.definition
  history : r.history <+: r'.history

theorem Session.Continues.refl (s : Session) : s.Continues s := ⟨rfl, rfl, fun _ => rfl⟩

theorem Session.Continues.trans {s s' s'' : Session} (h : s.Continues s') (h' : s'.Continues s'') :
    s.Continues s'' := by
  refine ⟨h'.owner.trans h.owner, h'.scope.trans h.scope, fun hclosed => ?_⟩
  obtain rfl := h.closed hclosed
  exact h'.closed hclosed

theorem Record.Continues.refl (r : Record) : r.Continues r := ⟨rfl, List.prefix_refl _⟩

theorem Record.Continues.trans {r r' r'' : Record} (h : r.Continues r') (h' : r'.Continues r'') :
    r.Continues r'' := ⟨h'.definition.trans h.definition, h.history.trans h'.history⟩

namespace Memory

/-- **What was held before is still there**, and goes on from where it was. -/
structure Extends (m m' : Memory) : Prop where
  version : m.version ≤ m'.version
  sessions : Keeps Session.Continues m.session? m'.session?
  records : Keeps Record.Continues m.record? m'.record?
  episodes : m.episodes <+: m'.episodes

theorem Extends.refl (m : Memory) : m.Extends m :=
  ⟨Nat.le_refl _, .refl .refl _, .refl .refl _, List.prefix_refl _⟩

theorem Extends.trans (h : m.Extends m') (h' : m'.Extends m'') : m.Extends m'' :=
  ⟨Nat.le_trans h.version h'.version, h.sessions.trans .trans h'.sessions,
    h.records.trans .trans h'.records, h.episodes.trans h'.episodes⟩

/-- **Every change extends what is held.** -/
theorem Change.extends (hchange : m.Change q answer m') : m.Extends m' := by
  have hsessions : m'.sessions = m.sessions → Keeps Session.Continues m.session? m'.session? :=
    fun hm => session?_congr hm ▸ .refl .refl _
  have hrecords : m'.records = m.records → Keeps Record.Continues m.record? m'.record? :=
    fun hm => record?_congr hm ▸ .refl .refl _
  cases hchange with
  | refused => exact .refl m
  | opened =>
      refine ⟨Nat.le_refl _, (puts_snoc_session m _).keeps .refl fun s hs => ?_, hrecords rfl,
        List.prefix_refl _⟩
      rw [session?_next] at hs
      cases hs
  | @merged h s strategy hs hopen =>
      have hput := puts_setSession hs { s with mergedWith := some strategy }
      refine ⟨Nat.le_succ _, hput.keeps .refl fun t ht => ?_, hrecords (by simp), by simp⟩
      obtain rfl : s = t := Option.some.inj (hs.symm.trans ht)
      refine ⟨rfl, rfl, fun hclosed => ?_⟩
      rw [hopen] at hclosed
      cases hclosed
  | @closed h s hs =>
      refine ⟨by simp, (puts_setSession hs _).keeps .refl fun t ht => ?_, hrecords (by simp), by simp⟩
      obtain rfl : s = t := Option.some.inj (hs.symm.trans ht)
      refine ⟨rfl, rfl, fun hclosed => ?_⟩
      cases s
      cases hclosed
      rfl
  | stored => exact ⟨Nat.le_refl _, hsessions rfl, hrecords rfl, List.prefix_append ..⟩
  | recorded =>
      refine ⟨Nat.le_refl _, hsessions rfl, (puts_snoc_record m _).keeps .refl fun r hr => ?_,
        List.prefix_refl _⟩
      rw [record?_next] at hr
      cases hr
  | @updated h r _ _ hr =>
      refine ⟨by simp, hsessions (by simp), (puts_setRecord hr _).keeps .refl fun t ht => ?_, by simp⟩
      obtain rfl : r = t := Option.some.inj (hr.symm.trans ht)
      exact ⟨rfl, List.prefix_append ..⟩
  | switched => exact ⟨Nat.le_refl _, hsessions rfl, hrecords rfl, List.prefix_refl _⟩

/-- **Whatever is requested**, what is held is extended. -/
theorem extends_afterRequests (qs : List MemoryRequest) (m : Memory) :
    m.Extends (m.afterRequests qs) := by
  induction qs generalizing m with
  | nil => exact .refl m
  | cons q qs ih => exact (q.change m).extends.trans (ih (q.after m))

end Memory

/-! ## What requests tell -/

namespace MemoryRequest

/-- For whom a session was opened, and for what. -/
def opened? : MemoryRequest → Option (AgentId × SessionScope)
  | createSession owner scope => some (owner, scope)
  | _ => none

/-- How the session of a name was merged. -/
def merge? (h : Handle) : MemoryRequest → Option MergeStrategy
  | mergeSession session strategy => if session = h then some strategy else none
  | _ => none

/-- Who closed the session of a name. -/
def closer? (h : Handle) : MemoryRequest → Option AgentId
  | closeSession session owner => if session = h then some owner else none
  | _ => none

/-- What a record was created about. -/
def recorded? : MemoryRequest → Option TaskDefinition
  | createRecord definition => some definition
  | _ => none

/-- The status that the record of a name was given. -/
def status? (h : Handle) : MemoryRequest → Option RecordStatus
  | updateRecord record status _ => if record = h then some status else none
  | _ => none

/-- The episode that was stored. -/
def episode? : MemoryRequest → Option Episode
  | storeEpisode episode => some episode
  | _ => none

end MemoryRequest

namespace Served

/-- A request that went through. -/
def accepted? : Served → Option MemoryRequest
  | ⟨q, .ok _⟩ => some q
  | ⟨_, .error _⟩ => none

/-- The report of a merge that went through. -/
def report? : Served → Option MergeReport
  | ⟨.mergeSession _ _, .ok (.merged report)⟩ => some report
  | _ => none

end Served

theorem filterMap_snoc_none {α β : Type} {f : α → Option β} {x : α} (hx : f x = none) (xs : List α) :
    (xs ++ [x]).filterMap f = xs.filterMap f := by
  simp [hx]

theorem filterMap_snoc_some {α β : Type} {f : α → Option β} {x : α} {y : β} (hx : f x = some y)
    (xs : List α) : (xs ++ [x]).filterMap f = xs.filterMap f ++ [y] := by
  simp [hx]

namespace Memory

/-- **The sessions, told from the requests that went through**: who opened them for what, how each was
    merged last, and whether it was closed. -/
structure RecountsSessions (qs : List MemoryRequest) (m : Memory) : Prop where
  opened : m.sessions.map (fun s => (s.owner, s.scope)) = qs.filterMap MemoryRequest.opened?
  merged : ∀ h s, m.session? h = some s → s.mergedWith = (qs.filterMap (MemoryRequest.merge? h)).getLast?
  closed : ∀ h s, m.session? h = some s → (s.closed = true ↔ qs.filterMap (MemoryRequest.closer? h) ≠ [])
  /-- Nothing went through under a name before there was such a session. -/
  unopened : ∀ h, m.session? h = none →
    qs.filterMap (MemoryRequest.merge? h) = [] ∧ qs.filterMap (MemoryRequest.closer? h) = []

/-- **The records, told from the requests that went through**: what they are about, and what each became
    since it was pending. -/
structure RecountsRecords (qs : List MemoryRequest) (m : Memory) : Prop where
  recorded : m.records.map Record.definition = qs.filterMap MemoryRequest.recorded?
  histories : ∀ h r, m.record? h = some r →
    r.history = .pending :: qs.filterMap (MemoryRequest.status? h) ∧ r.history.getLast? = some r.status
  /-- Nothing went through under a name before there was such a record. -/
  unrecorded : ∀ h, m.record? h = none → qs.filterMap (MemoryRequest.status? h) = []

/-- **A memory that recounts its requests.** -/
structure Recounts (log : List Served) (m : Memory) : Prop where
  /-- The version counts the merges. -/
  version : m.version = (log.filterMap Served.report?).length
  /-- Each merge reported how many there were by then. -/
  reports : (log.filterMap Served.report?).map MergeReport.newVersion =
    List.range' 1 (log.filterMap Served.report?).length
  episodes : m.episodes = (log.filterMap Served.accepted?).filterMap MemoryRequest.episode?
  sessions : RecountsSessions (log.filterMap Served.accepted?) m
  records : RecountsRecords (log.filterMap Served.accepted?) m

variable {qs : List MemoryRequest} {a : MemoryAnswer}

/-- A replacement that keeps some part of a thing keeps that part of all. -/
theorem map_set_of_eq {α β : Type} {f : α → β} {xs : List α} {n : Nat} {x y : α} (hx : xs[n]? = some x)
    (hf : f y = f x) : (xs.set n y).map f = xs.map f := by
  obtain ⟨hlt, rfl⟩ := List.getElem?_eq_some_iff.mp hx
  rw [List.map_set, hf, ← List.getElem_map f (h := by simpa using hlt), List.set_getElem_self]

/-- A request that is not about sessions leaves their story as it is. -/
theorem RecountsSessions.quiet (hqs : RecountsSessions qs m) (hm : m'.sessions = m.sessions)
    (hopened : q.opened? = none) (hmerge : ∀ h, q.merge? h = none) (hcloser : ∀ h, q.closer? h = none) :
    RecountsSessions (qs ++ [q]) m' := by
  have hsession := session?_congr hm
  refine ⟨?_, fun h s hs => ?_, fun h s hs => ?_, fun h hnone => ?_⟩
  · rw [hm, hqs.opened, filterMap_snoc_none hopened]
  · rw [filterMap_snoc_none (hmerge h)]
    exact hqs.merged h s (hsession ▸ hs)
  · rw [filterMap_snoc_none (hcloser h)]
    exact hqs.closed h s (hsession ▸ hs)
  · rw [filterMap_snoc_none (hmerge h), filterMap_snoc_none (hcloser h)]
    exact hqs.unopened h (hsession ▸ hnone)

/-- **A request about one session** goes on with the story of that session, and of no other. -/
theorem RecountsSessions.put (hqs : RecountsSessions qs m) (hput : Puts m.session? m'.session? h s)
    (hopened : m'.sessions.map (fun s => (s.owner, s.scope)) =
      (qs ++ [q]).filterMap MemoryRequest.opened?)
    (hmerge : ∀ k, k ≠ h → q.merge? k = none) (hcloser : ∀ k, k ≠ h → q.closer? k = none)
    (hmerged : s.mergedWith = ((qs ++ [q]).filterMap (MemoryRequest.merge? h)).getLast?)
    (hclosed : s.closed = true ↔ (qs ++ [q]).filterMap (MemoryRequest.closer? h) ≠ []) :
    RecountsSessions (qs ++ [q]) m' := by
  refine ⟨hopened, fun k t ht => ?_, fun k t ht => ?_, fun k hnone => ?_⟩
  · rcases hput.eq_or_found ht with ⟨rfl, rfl⟩ | ⟨hne, ht⟩
    · exact hmerged
    · rw [filterMap_snoc_none (hmerge k hne)]
      exact hqs.merged k t ht
  · rcases hput.eq_or_found ht with ⟨rfl, rfl⟩ | ⟨hne, ht⟩
    · exact hclosed
    · rw [filterMap_snoc_none (hcloser k hne)]
      exact hqs.closed k t ht
  · obtain ⟨hne, hnone⟩ := hput.not_found hnone
    rw [filterMap_snoc_none (hmerge k hne), filterMap_snoc_none (hcloser k hne)]
    exact hqs.unopened k hnone

/-- The story of the sessions goes on with every request that goes through. -/
theorem RecountsSessions.change (hqs : RecountsSessions qs m) (hchange : m.Change q (.ok a) m') :
    RecountsSessions (qs ++ [q]) m' := by
  cases hchange with
  | @opened owner scope =>
      have hself : (MemoryRequest.createSession owner scope).opened? = some (owner, scope) := rfl
      obtain ⟨hmerges, hclosers⟩ := hqs.unopened _ m.session?_next
      refine hqs.put (puts_snoc_session m _) ?_ (fun _ _ => rfl) (fun _ _ => rfl) ?_ ?_
      · rw [filterMap_snoc_some hself, ← hqs.opened, List.map_append]
        rfl
      · rw [filterMap_snoc_none rfl, hmerges]
        rfl
      · rw [filterMap_snoc_none rfl, hclosers]
        exact iff_of_false Bool.false_ne_true (not_not_intro rfl)
  | @merged h s strategy hs hopen =>
      have hself : (MemoryRequest.mergeSession h strategy).merge? h = some strategy := if_pos rfl
      have hother : ∀ k, k ≠ h → (MemoryRequest.mergeSession h strategy).merge? k = none :=
        fun k hne => if_neg hne.symm
      refine hqs.put (puts_setSession hs _) ?_ hother (fun _ _ => rfl) ?_ ?_
      · obtain ⟨n, rfl, hn⟩ := session?_eq_some_iff.mp hs
        rw [filterMap_snoc_none rfl, ← hqs.opened]
        exact map_set_of_eq hn rfl
      · rw [filterMap_snoc_some hself, List.getLast?_concat]
      · rw [filterMap_snoc_none rfl]
        exact hqs.closed h s hs
  | @closed h s hs =>
      have hself : (MemoryRequest.closeSession h s.owner).closer? h = some s.owner := if_pos rfl
      have hother : ∀ k, k ≠ h → (MemoryRequest.closeSession h s.owner).closer? k = none :=
        fun k hne => if_neg hne.symm
      refine hqs.put (puts_setSession hs _) ?_ (fun _ _ => rfl) hother ?_ ?_
      · obtain ⟨n, rfl, hn⟩ := session?_eq_some_iff.mp hs
        rw [filterMap_snoc_none rfl, ← hqs.opened]
        exact map_set_of_eq hn rfl
      · rw [filterMap_snoc_none rfl]
        exact hqs.merged h s hs
      · rw [filterMap_snoc_some hself]
        exact iff_of_true rfl (by simp)
  | stored => exact hqs.quiet rfl rfl (fun _ => rfl) (fun _ => rfl)
  | recorded => exact hqs.quiet rfl rfl (fun _ => rfl) (fun _ => rfl)
  | updated hr => exact hqs.quiet (by simp) rfl (fun _ => rfl) (fun _ => rfl)
  | switched => exact hqs.quiet rfl rfl (fun _ => rfl) (fun _ => rfl)

/-- A request that is not about records leaves their story as it is. -/
theorem RecountsRecords.quiet (hqs : RecountsRecords qs m) (hm : m'.records = m.records)
    (hrecorded : q.recorded? = none) (hstatus : ∀ h, q.status? h = none) :
    RecountsRecords (qs ++ [q]) m' := by
  have hrecord := record?_congr hm
  refine ⟨?_, fun h r hr => ?_, fun h hnone => ?_⟩
  · rw [hm, hqs.recorded, filterMap_snoc_none hrecorded]
  · rw [filterMap_snoc_none (hstatus h)]
    exact hqs.histories h r (hrecord ▸ hr)
  · rw [filterMap_snoc_none (hstatus h)]
    exact hqs.unrecorded h (hrecord ▸ hnone)

/-- **A request about one record** goes on with the story of that record, and of no other. -/
theorem RecountsRecords.put (hqs : RecountsRecords qs m) (hput : Puts m.record? m'.record? h r)
    (hrecorded : m'.records.map Record.definition = (qs ++ [q]).filterMap MemoryRequest.recorded?)
    (hstatus : ∀ k, k ≠ h → q.status? k = none)
    (hhistory : r.history = .pending :: (qs ++ [q]).filterMap (MemoryRequest.status? h))
    (hlast : r.history.getLast? = some r.status) : RecountsRecords (qs ++ [q]) m' := by
  refine ⟨hrecorded, fun k t ht => ?_, fun k hnone => ?_⟩
  · rcases hput.eq_or_found ht with ⟨rfl, rfl⟩ | ⟨hne, ht⟩
    · exact ⟨hhistory, hlast⟩
    · rw [filterMap_snoc_none (hstatus k hne)]
      exact hqs.histories k t ht
  · obtain ⟨hne, hnone⟩ := hput.not_found hnone
    rw [filterMap_snoc_none (hstatus k hne)]
    exact hqs.unrecorded k hnone

/-- The story of the records goes on with every request that goes through. -/
theorem RecountsRecords.change (hqs : RecountsRecords qs m) (hchange : m.Change q (.ok a) m') :
    RecountsRecords (qs ++ [q]) m' := by
  cases hchange with
  | opened => exact hqs.quiet rfl rfl fun _ => rfl
  | merged hs hopen => exact hqs.quiet (by simp) rfl fun _ => rfl
  | closed hs => exact hqs.quiet (by simp) rfl fun _ => rfl
  | stored => exact hqs.quiet rfl rfl fun _ => rfl
  | @recorded definition =>
      have hself : (MemoryRequest.createRecord definition).recorded? = some definition := rfl
      refine hqs.put (puts_snoc_record m _) ?_ (fun _ _ => rfl) ?_ rfl
      · rw [filterMap_snoc_some hself, ← hqs.recorded, List.map_append]
        rfl
      · rw [filterMap_snoc_none rfl, hqs.unrecorded _ m.record?_next]
  | @updated h r status metadata hr =>
      have hself : (MemoryRequest.updateRecord h status metadata).status? h = some status := if_pos rfl
      have hother : ∀ k, k ≠ h → (MemoryRequest.updateRecord h status metadata).status? k = none :=
        fun k hne => if_neg hne.symm
      refine hqs.put (puts_setRecord hr _) ?_ hother ?_ (List.getLast?_concat ..)
      · obtain ⟨n, rfl, hn⟩ := record?_eq_some_iff.mp hr
        rw [filterMap_snoc_none rfl, ← hqs.recorded]
        exact map_set_of_eq hn rfl
      · rw [filterMap_snoc_some hself, ← List.cons_append, ← (hqs.histories h r hr).1]
        rfl
  | switched => exact hqs.quiet rfl rfl fun _ => rfl

/-- The version goes up by one with a merge, which reports it, and stays otherwise. -/
theorem Change.version (hchange : m.Change q answer m') :
    (Served.report? ⟨q, answer⟩ = none ∧ m'.version = m.version) ∨
      ∃ report, Served.report? ⟨q, answer⟩ = some report ∧ report.newVersion = m.version + 1 ∧
        m'.version = m.version + 1 := by
  cases hchange with
  | refused => exact Or.inl ⟨by cases q <;> rfl, rfl⟩
  | merged hs hopen => exact Or.inr ⟨_, rfl, rfl, rfl⟩
  | closed hs => exact Or.inl ⟨rfl, by simp⟩
  | updated hr => exact Or.inl ⟨rfl, by simp⟩
  | opened => exact Or.inl ⟨rfl, rfl⟩
  | stored => exact Or.inl ⟨rfl, rfl⟩
  | recorded => exact Or.inl ⟨rfl, rfl⟩
  | switched => exact Or.inl ⟨rfl, rfl⟩

theorem Change.episodes (hchange : m.Change q (.ok a) m') :
    m'.episodes = m.episodes ++ q.episode?.toList := by
  cases hchange with
  | merged hs hopen => simp [MemoryRequest.episode?]
  | closed hs => simp [MemoryRequest.episode?]
  | updated hr => simp [MemoryRequest.episode?]
  | stored => rfl
  | opened => exact (List.append_nil _).symm
  | recorded => exact (List.append_nil _).symm
  | switched => exact (List.append_nil _).symm

/-- **The story goes on with every request**, also with one that is refused. -/
theorem Recounts.change (hlog : Recounts log m) (hchange : m.Change q answer m') :
    Recounts (log ++ [⟨q, answer⟩]) m' := by
  have hversion : m'.version = ((log ++ [Served.mk q answer]).filterMap Served.report?).length ∧
      ((log ++ [Served.mk q answer]).filterMap Served.report?).map MergeReport.newVersion =
        List.range' 1 ((log ++ [Served.mk q answer]).filterMap Served.report?).length := by
    rcases hchange.version with ⟨hnone, hsame⟩ | ⟨report, hsome, hnew, hup⟩
    · rw [filterMap_snoc_none hnone, hsame]
      exact ⟨hlog.version, hlog.reports⟩
    · rw [filterMap_snoc_some hsome, List.length_append, List.length_singleton, List.map_append,
        hlog.reports, List.range'_1_concat, List.map_singleton, hnew, hup, hlog.version, Nat.add_comm 1]
      exact ⟨rfl, rfl⟩
  cases answer with
  | error e =>
      have hnone : Served.accepted? ⟨q, .error e⟩ = none := rfl
      cases hchange
      refine ⟨hversion.1, hversion.2, ?_, ?_, ?_⟩ <;> rw [filterMap_snoc_none hnone]
      · exact hlog.episodes
      · exact hlog.sessions
      · exact hlog.records
  | ok a =>
      have hsome : Served.accepted? ⟨q, .ok a⟩ = some q := rfl
      refine ⟨hversion.1, hversion.2, ?_, ?_, ?_⟩ <;> rw [filterMap_snoc_some hsome]
      · rw [List.filterMap_append, ← hlog.episodes, hchange.episodes]
        rfl
      · exact hlog.sessions.change hchange
      · exact hlog.records.change hchange

theorem Recounts.afterRequests (hlog : Recounts log m) (qs : List MemoryRequest) :
    Recounts (log ++ m.served qs) (m.afterRequests qs) := by
  induction qs generalizing log m with
  | nil => exact (List.append_nil log).symm ▸ hlog
  | cons q qs ih =>
      have hstep := ih (hlog.change (q.change m))
      rw [List.append_assoc] at hstep
      exact hstep

theorem recounts_empty : Recounts [] .empty := by
  have hsession : ∀ h s, empty.session? h ≠ some s := fun h s => by cases h <;> nofun
  have hrecord : ∀ h r, empty.record? h ≠ some r := fun h r => by cases h <;> nofun
  have hsessions : RecountsSessions [] empty := ⟨rfl, fun h s hs => absurd hs (hsession h s),
    fun h s hs => absurd hs (hsession h s), fun _ _ => ⟨rfl, rfl⟩⟩
  have hrecords : RecountsRecords [] empty :=
    ⟨rfl, fun h r hr => absurd hr (hrecord h r), fun _ _ => rfl⟩
  exact ⟨rfl, rfl, rfl, hsessions, hrecords⟩

/-! ## Which requests go through -/

/-- **Which requests a memory accepts**, and what those that it refuses leave behind. -/
structure Answers (m : Memory) : Prop where
  /-- A session is merged while it is open. -/
  merge : ∀ h strategy, (∃ a, (MemoryRequest.mergeSession h strategy).answer m = .ok a) ↔
    ∃ s, m.session? h = some s ∧ s.closed = false
  /-- A session is closed for its owner, open or not. -/
  close : ∀ h owner, (∃ a, (MemoryRequest.closeSession h owner).answer m = .ok a) ↔
    ∃ s, m.session? h = some s ∧ s.owner = owner
  /-- A session gets a new name. -/
  opened : ∀ owner scope h, (MemoryRequest.createSession owner scope).answer m = .ok (.opened h) →
    m.session? h = none ∧
      ((MemoryRequest.createSession owner scope).after m).session? h = some { owner, scope }
  /-- So does a record. -/
  recorded : ∀ definition h, (MemoryRequest.createRecord definition).answer m = .ok (.recorded h) →
    m.record? h = none ∧
      ((MemoryRequest.createRecord definition).after m).record? h = some { definition }
  /-- A refusal leaves everything as it was. -/
  refusal : ∀ (q : MemoryRequest) e, q.answer m = .error e → q.after m = m

theorem Change.eq_of_refused {e : MemoryError} (hchange : m.Change q (.error e) m') : m' = m := by
  cases hchange
  rfl

theorem Change.exists_of_merged {strategy : MergeStrategy}
    (hchange : m.Change (.mergeSession h strategy) (.ok a) m') :
    ∃ s, m.session? h = some s ∧ s.closed = false := by
  cases hchange with
  | merged hs hopen => exact ⟨_, hs, hopen⟩

theorem Change.exists_of_closed {owner : AgentId}
    (hchange : m.Change (.closeSession h owner) (.ok a) m') :
    ∃ s, m.session? h = some s ∧ s.owner = owner := by
  cases hchange with
  | closed hs => exact ⟨_, hs, rfl⟩

theorem Change.of_opened {owner : AgentId} {scope : SessionScope}
    (hchange : m.Change (.createSession owner scope) (.ok (.opened h)) m') :
    m.session? h = none ∧ m'.session? h = some { owner, scope } := by
  cases hchange with
  | opened => exact ⟨m.session?_next, (session?_snoc ..).trans (if_pos rfl)⟩

theorem Change.of_recorded {definition : TaskDefinition}
    (hchange : m.Change (.createRecord definition) (.ok (.recorded h)) m') :
    m.record? h = none ∧ m'.record? h = some { definition } := by
  cases hchange with
  | recorded => exact ⟨m.record?_next, (record?_snoc ..).trans (if_pos rfl)⟩

theorem answers (m : Memory) : m.Answers := by
  refine ⟨fun h strategy => ⟨?_, ?_⟩, fun h owner => ⟨?_, ?_⟩, ?_, ?_, ?_⟩
  · rintro ⟨a, ha⟩
    exact (ha ▸ MemoryRequest.change _ m).exists_of_merged
  · rintro ⟨s, hs, hopen⟩
    rw [MemoryRequest.answer, MemoryRequest.performs_perform]
    dsimp only [MemoryRequest.outcome]
    rw [mergeSession_of_open strategy hs hopen]
    exact ⟨_, rfl⟩
  · rintro ⟨a, ha⟩
    exact (ha ▸ MemoryRequest.change _ m).exists_of_closed
  · rintro ⟨s, hs, rfl⟩
    rw [MemoryRequest.answer, MemoryRequest.performs_perform]
    dsimp only [MemoryRequest.outcome]
    rw [closeSession_of_owned hs]
    exact ⟨_, rfl⟩
  · intro owner scope h ha
    exact (ha ▸ MemoryRequest.change _ m).of_opened
  · intro definition h ha
    exact (ha ▸ MemoryRequest.change _ m).of_recorded
  · intro q e he
    exact (he ▸ q.change m).eq_of_refused

/-- A session that is closed can be closed again, but not be merged. -/
example : (empty.served [.createSession "ada" {}, .closeSession (.issued 0) "ada",
    .closeSession (.issued 0) "ada", .mergeSession (.issued 0) .auto]).map Served.answer =
      [.ok (.opened (.issued 0)), .ok .done, .ok .done, .error (.sessionNotFound (.issued 0))] := rfl

end Memory

end Foreman
