import Foreman.Proofs.Pool.Calls

/-!
# `Foreman.Proofs.Pool.Index` — the index refines a plain scan

The index of a pool is kept by two operations, apart from the table of agents, and a look-up asks it
only for the first capability that is required and checks the others against it. After any calls the
index lists just the registered agents that offer a capability. A look-up therefore sees the agents
that a scan of the whole table would pick, by ascending ids, and the first one with the least load is
the least one by load and id.

## Contents
- **`AgentSpec.Covers`**, **`Pool.Suitable`**, **`Agent.Precedes`**: what a scan of the table asks for.
- **`Pool.Indexed`** with `Indexed.change`: table and index agree, whatever is called.
- `Pool.Indexed.mem_candidates`, `Pool.Indexed.ascending_candidates`: what the index is asked for.
- **`Foremost`** with `foldl_lessLoaded_eq_some_iff`: the choice among the candidates.
- **`Pool.SameAgents`**: assignments do not change what could be satisfied.
- **`Pool.lookups_refine_scan`**.
-/

namespace Foreman

/-! ## What a scan of the table asks for -/

/-- An agent offers everything that is required. -/
structure AgentSpec.Covers (s : AgentSpec) (r : Requirements) : Prop where
  capabilities : ∀ c ∈ r.capabilities, c ∈ s.capabilities
  accelerator : r.accelerator = true → s.accelerator = true

theorem AgentSpec.covers_iff {s : AgentSpec} {r : Requirements} : s.covers r = true ↔ s.Covers r := by
  have himplies : (!r.accelerator || s.accelerator) = true ↔
      (r.accelerator = true → s.accelerator = true) := by
    cases r.accelerator <;> simp
  rw [covers, Bool.and_eq_true, himplies, NameSet.subset_eq_true]
  constructor
  · rintro ⟨haccelerator, hcapabilities⟩
    exact ⟨hcapabilities, haccelerator⟩
  · exact fun h => ⟨h.accelerator, h.capabilities⟩

/-- A registered agent that covers the requirements and can take one more task. -/
structure Pool.Suitable (p : Pool) (r : Requirements) (a : Agent) : Prop where
  registered : p.agents.find? a.spec.id = some a
  covers : a.spec.Covers r
  room : a.load < a.spec.capacity

/-- Of two agents, the first has less load, or the same load and the lesser id. -/
def Agent.Precedes (a b : Agent) : Prop :=
  a.load < b.load ∨ a.load = b.load ∧ a.spec.id < b.spec.id

theorem Agent.Precedes.asymm {a b : Agent} (h : a.Precedes b) : ¬ b.Precedes a := by
  intro h'
  obtain hlt | ⟨heq, hid⟩ := h
  · obtain hlt' | ⟨heq', -⟩ := h' <;> omega
  · obtain hlt' | ⟨-, hid'⟩ := h'
    · omega
    · exact String.lt_irrefl _ (String.lt_trans hid hid')

/-! ## The index -/

namespace Pool

/-- The agents listed under a capability. -/
def listedIn (index : NameMap NameSet) (c : Capability) : NameSet := (index.find? c).getD ∅

theorem indexed_iff {p : Pool} {c : Capability} {id : AgentId} :
    p.indexed c id = true ↔ id ∈ listedIn p.byCapability c := by
  unfold indexed listedIn
  cases p.byCapability.find? c with
  | none => simp [EmptyCollection.emptyCollection]
  | some ids => simp

variable {index : NameMap NameSet} {agent id : AgentId} {c : Capability} {cs : List Capability}

theorem mem_listedIn_indexAdd {c' : Capability} :
    id ∈ listedIn (indexAdd agent index c') c ↔ (id = agent ∧ c = c') ∨ id ∈ listedIn index c := by
  unfold listedIn indexAdd
  by_cases hc : c = c'
  · subst hc; simp
  · simp [hc]

theorem mem_listedIn_indexRemove {c' : Capability} :
    id ∈ listedIn (indexRemove agent index c') c ↔
      ¬ (id = agent ∧ c = c') ∧ id ∈ listedIn index c := by
  unfold listedIn indexRemove
  rw [NameMap.find?_modify]
  by_cases hc : c = c'
  · subst hc
    cases index.find? c with
    | none => simp [EmptyCollection.emptyCollection]
    | some ids => simp [and_comm]
  · simp [hc]

theorem mem_listedIn_foldl_add :
    id ∈ listedIn (cs.foldl (indexAdd agent) index) c ↔
      (id = agent ∧ c ∈ cs) ∨ id ∈ listedIn index c := by
  induction cs generalizing index with
  | nil => simp
  | cons c' cs ih =>
      rw [List.foldl_cons, ih, mem_listedIn_indexAdd, List.mem_cons]
      tauto

theorem mem_listedIn_foldl_remove :
    id ∈ listedIn (cs.foldl (indexRemove agent) index) c ↔
      ¬ (id = agent ∧ c ∈ cs) ∧ id ∈ listedIn index c := by
  induction cs generalizing index with
  | nil => simp
  | cons c' cs ih =>
      rw [List.foldl_cons, ih, mem_listedIn_indexRemove, List.mem_cons]
      tauto

/-- **Table and index agree**: every agent is kept under its own id, and the index lists just the
    agents that offer a capability. -/
structure Indexed (p : Pool) : Prop where
  keyed : ∀ {id s}, p.specs.find? id = some s → s.id = id
  listed_iff : ∀ {c id}, id ∈ listedIn p.byCapability c ↔
    ∃ s, p.specs.find? id = some s ∧ c ∈ s.capabilities

namespace Indexed

variable {p q : Pool} {n : Nat} {a : Agent}

theorem empty : Indexed Pool.empty where
  keyed h := by simp [Pool.empty, EmptyCollection.emptyCollection] at h
  listed_iff := by simp [Pool.empty, listedIn, EmptyCollection.emptyCollection]

/-- Both only depend on what the agents are. -/
theorem congr (h : p.Indexed) (hspecs : q.specs = p.specs) (hindex : q.byCapability = p.byCapability) :
    q.Indexed where
  keyed := by rw [hspecs]; exact h.keyed
  listed_iff := by rw [hspecs, hindex]; exact h.listed_iff

theorem registered {spec : AgentSpec} (h : p.Indexed) (hnew : p.agents.find? spec.id = none)
    (hspecs : q.specs = p.specs.insert spec.id spec)
    (hindex : q.byCapability = spec.capabilities.toList.foldl (indexAdd spec.id) p.byCapability) :
    q.Indexed where
  keyed {id s} hs := by
    rw [hspecs, NameMap.find?_insert] at hs
    split at hs
    · next hid => cases hs; exact hid.symm
    · exact h.keyed hs
  listed_iff {c id} := by
    rw [hspecs, hindex, mem_listedIn_foldl_add, NameMap.find?_insert, ← NameSet.mem_def]
    by_cases hid : id = spec.id
    · -- before it was registered, it was listed nowhere
      have hout : spec.id ∉ listedIn p.byCapability c := fun hc => by
        obtain ⟨s, hs, -⟩ := h.listed_iff.mp hc
        simp [hnew] at hs
      simp [hid, hout]
    · simpa [hid] using h.listed_iff

theorem deregistered (h : p.Indexed) (ha : p.agents.find? agent = some a)
    (hspecs : q.specs = p.specs.erase agent)
    (hindex : q.byCapability = a.spec.capabilities.toList.foldl (indexRemove agent) p.byCapability) :
    q.Indexed where
  keyed {id s} hs := by
    rw [hspecs, NameMap.find?_erase] at hs
    split at hs
    · cases hs
    · exact h.keyed hs
  listed_iff {c id} := by
    rw [hspecs, hindex, mem_listedIn_foldl_remove, NameMap.find?_erase, ← NameSet.mem_def]
    by_cases hid : id = agent
    · -- where it was listed, it offered the capability, and there it is taken out
      have hin : agent ∈ listedIn p.byCapability c → c ∈ a.spec.capabilities := fun hc => by
        obtain ⟨s, hs, hcs⟩ := h.listed_iff.mp hc
        rw [find?_specs, ha] at hs
        cases hs
        exact hcs
      simpa [hid] using fun hc hl => hc (hin hl)
    · simpa [hid] using h.listed_iff

/-- **Every change keeps table and index in agreement.** -/
theorem change (h : p.Indexed) (hchange : p.Change n q) : q.Indexed := by
  cases hchange with
  | kept => exact h
  | registered hnew => exact h.registered hnew (NameMap.mapValues_insert _ _ _ _) rfl
  | deregistered ha => exact h.deregistered ha (NameMap.mapValues_erase _ _ _) rfl
  | assigned ha => exact h.congr (mapValues_spec_insert ha _) rfl
  | released ha => exact h.congr (mapValues_spec_insert ha _) rfl

theorem afterCalls (calls : List PoolCall) : (Pool.empty.afterCalls calls).Indexed :=
  afterCalls_invariant change calls Indexed.empty

theorem of_byCalls (h : Pool.empty.ByCalls p) : p.Indexed := by
  obtain ⟨calls, rfl⟩ := h
  exact afterCalls calls

/-! ## Candidates -/

theorem keyed_agent (h : p.Indexed) (ha : p.agents.find? id = some a) : a.spec.id = id :=
  h.keyed (by rw [find?_specs, ha, Option.map_some])

theorem mem_values (h : p.Indexed) : a ∈ p.agents.values ↔ p.agents.find? a.spec.id = some a := by
  constructor
  · intro hmem
    obtain ⟨⟨id, a'⟩, he, rfl⟩ := List.mem_map.mp hmem
    have ha := NameMap.mem_entries_iff.mp he
    rw [h.keyed_agent ha]
    exact ha
  · exact fun ha => List.mem_map.mpr ⟨(a.spec.id, a), NameMap.mem_entries_iff.mpr ha, rfl⟩

/-- **Asked for some capabilities, the index gives the agents that offer all of them.** -/
theorem mem_candidates (h : p.Indexed) {required : NameSet} :
    a ∈ p.candidates required ↔
      p.agents.find? a.spec.id = some a ∧ ∀ c ∈ required, c ∈ a.spec.capabilities := by
  have hoffers {id : AgentId} {c : Capability} (ha : p.agents.find? id = some a) :
      id ∈ listedIn p.byCapability c ↔ c ∈ a.spec.capabilities := by
    rw [h.listed_iff, find?_specs, ha]
    simp
  unfold candidates
  simp only [NameSet.mem_def (s := required)]
  cases required.toList with
  | nil => simp [h.mem_values]
  | cons first others =>
      simp only [List.mem_filterMap, List.mem_filter, List.all_eq_true, List.forall_mem_cons,
        indexed_iff]
      constructor
      · rintro ⟨id, ⟨hfirst, hothers⟩, ha⟩
        refine ⟨by rw [h.keyed_agent ha]; exact ha, (hoffers ha).mp hfirst, fun c hc => ?_⟩
        exact (hoffers ha).mp (hothers c hc)
      · rintro ⟨ha, hfirst, hothers⟩
        exact ⟨a.spec.id, ⟨(hoffers ha).mpr hfirst, fun c hc => (hoffers ha).mpr (hothers c hc)⟩, ha⟩

/-- The candidates come by ascending ids, whether from the table or from the index. -/
theorem ascending_candidates (h : p.Indexed) (required : NameSet) :
    (p.candidates required).Pairwise (·.spec.id < ·.spec.id) := by
  unfold candidates
  cases required.toList with
  | nil =>
      have hkeys : p.agents.values.map (·.spec.id) = p.agents.keys := by
        rw [NameMap.values, NameMap.keys, List.map_map]
        exact List.map_congr_left fun e he => h.keyed_agent (NameMap.mem_entries_iff.mp he)
      exact List.pairwise_map.mp (hkeys ▸ p.agents.ascending)
  | cons first others =>
      refine List.Pairwise.filterMap _ ?_ (NameSet.ascending _ |>.filter _)
      intro id id' hlt a ha a' ha'
      rw [h.keyed_agent ha, h.keyed_agent ha']
      exact hlt

end Indexed
end Pool

/-! ## The choice among the candidates -/

/-- An agent of a list that precedes all others. -/
structure Foremost (l : List Agent) (a : Agent) : Prop where
  mem : a ∈ l
  precedes : ∀ b ∈ l, b ≠ a → a.Precedes b

namespace Foremost

variable {l : List Agent} {a b : Agent}

theorem unique (ha : Foremost l a) (hb : Foremost l b) : a = b := by
  by_contra hne
  exact (ha.precedes b hb.mem (Ne.symm hne)).asymm (hb.precedes a ha.mem hne)

theorem load_le (ha : Foremost l a) (hb : b ∈ l) : a.load ≤ b.load := by
  by_cases hne : b = a
  · exact hne ▸ Nat.le_refl _
  · obtain hlt | ⟨heq, -⟩ := ha.precedes b hb hne <;> omega

end Foremost

/-- The scan keeps the first agent with the least load; by ascending ids that is the foremost. -/
theorem foldl_lessLoaded (l : List Agent) (hasc : l.Pairwise (·.spec.id < ·.spec.id)) :
    match l.foldl Pool.lessLoaded none with
    | none => l = []
    | some a => Foremost l a := by
  induction l using List.reverseRecOn with
  | nil => rfl
  | append_singleton l b ih =>
      rw [List.pairwise_append] at hasc
      have hlast (x : Agent) (hx : x ∈ l) : x.spec.id < b.spec.id :=
        hasc.2.2 x hx b (List.mem_singleton.mpr rfl)
      replace ih := ih hasc.1
      rw [List.foldl_append, List.foldl_cons, List.foldl_nil]
      cases hbest : l.foldl Pool.lessLoaded none with
      | none =>
          rw [hbest] at ih
          subst ih
          exact ⟨by simp, fun x hx hne => absurd (by simpa using hx) hne⟩
      | some a =>
          rw [hbest] at ih
          by_cases hlt : b.load < a.load
          · rw [Pool.lessLoaded, if_pos hlt]
            refine ⟨by simp, fun x hx hne => ?_⟩
            have hx' : x ∈ l := by simpa [hne] using hx
            exact .inl (Nat.lt_of_lt_of_le hlt (ih.load_le hx'))
          · rw [Pool.lessLoaded, if_neg hlt]
            refine ⟨List.mem_append_left _ ih.mem, fun x hx hne => ?_⟩
            obtain hx | hx := List.mem_append.mp hx
            · exact ih.precedes x hx hne
            · obtain rfl := List.mem_singleton.mp hx
              obtain heq | hgt := (Nat.lt_or_eq_of_le (Nat.le_of_not_lt hlt)).symm
              · exact .inr ⟨heq, hlast a ih.mem⟩
              · exact .inl hgt

theorem foldl_lessLoaded_eq_some_iff {l : List Agent} {a : Agent}
    (hasc : l.Pairwise (·.spec.id < ·.spec.id)) :
    l.foldl Pool.lessLoaded none = some a ↔ Foremost l a := by
  have hfold := foldl_lessLoaded l hasc
  cases hbest : l.foldl Pool.lessLoaded none with
  | none =>
      rw [hbest] at hfold
      subst hfold
      exact ⟨nofun, fun ha => absurd ha.mem List.not_mem_nil⟩
  | some b =>
      rw [hbest] at hfold
      refine ⟨fun h => by cases h; exact hfold, fun ha => congrArg some (hfold.unique ha)⟩

/-! ## Look-ups -/

namespace Pool

variable {p : Pool} {r : Requirements} {view : AgentView}

theorem Indexed.mem_suitable (h : p.Indexed) {a : Agent} :
    a ∈ (p.candidates r.capabilities).filter (fun a => a.spec.covers r && a.hasCapacity) ↔
      p.Suitable r a := by
  rw [List.mem_filter, h.mem_candidates, Bool.and_eq_true, AgentSpec.covers_iff, Agent.hasCapacity,
    decide_eq_true_iff]
  constructor
  · rintro ⟨⟨ha, -⟩, hcovers, hroom⟩
    exact ⟨ha, hcovers, hroom⟩
  · exact fun ha => ⟨⟨ha.registered, ha.covers.capabilities⟩, ha.covers, ha.room⟩

theorem Indexed.ascending_suitable (h : p.Indexed) (r : Requirements) :
    ((p.candidates r.capabilities).filter fun a => a.spec.covers r && a.hasCapacity).Pairwise
      (·.spec.id < ·.spec.id) :=
  (h.ascending_candidates r.capabilities).filter _

theorem Indexed.findSuitable_eq_some_iff (h : p.Indexed) :
    p.findSuitable r = some view ↔
      ∃ a, p.Suitable r a ∧ (∀ b, p.Suitable r b → b ≠ a → a.Precedes b) ∧ a.view = view := by
  rw [findSuitable, Option.map_eq_some_iff]
  simp only [foldl_lessLoaded_eq_some_iff (h.ascending_suitable r)]
  constructor
  · rintro ⟨a, ⟨hmem, hprec⟩, hview⟩
    exact ⟨a, h.mem_suitable.mp hmem, fun b hb => hprec b (h.mem_suitable.mpr hb), hview⟩
  · rintro ⟨a, ha, hprec, hview⟩
    exact ⟨a, ⟨h.mem_suitable.mpr ha, fun b hb => hprec b (h.mem_suitable.mp hb)⟩, hview⟩

theorem Indexed.findSuitable_eq_none_iff (h : p.Indexed) :
    p.findSuitable r = none ↔ ∀ a, ¬ p.Suitable r a := by
  have hfold := foldl_lessLoaded _ (h.ascending_suitable r)
  simp only [← h.mem_suitable, ← List.eq_nil_iff_forall_not_mem]
  rw [findSuitable, Option.map_eq_none_iff]
  constructor
  · intro hnone
    rwa [hnone] at hfold
  · intro hnil
    rw [hnil, List.foldl_nil]

theorem Indexed.canSatisfy_iff (h : p.Indexed) :
    p.canSatisfy r = true ↔ ∃ id a, p.agents.find? id = some a ∧ a.spec.Covers r := by
  simp only [canSatisfy, List.any_eq_true, h.mem_candidates, AgentSpec.covers_iff]
  constructor
  · rintro ⟨a, ⟨ha, -⟩, hcovers⟩
    exact ⟨a.spec.id, a, ha, hcovers⟩
  · rintro ⟨id, a, ha, hcovers⟩
    exact ⟨a, ⟨by rw [h.keyed_agent ha]; exact ha, hcovers.capabilities⟩, hcovers⟩

/-- An agent that was found covers the requirements. -/
theorem canSatisfy_of_findSuitable (h : p.findSuitable r = some view) : p.canSatisfy r = true := by
  unfold findSuitable at h
  unfold canSatisfy
  cases hsuitable : (p.candidates r.capabilities).filter fun a => a.spec.covers r && a.hasCapacity with
  | nil =>
      rw [hsuitable] at h
      cases h
  | cons a rest =>
      have hmem : a ∈ (p.candidates r.capabilities).filter
          fun a => a.spec.covers r && a.hasCapacity := hsuitable ▸ List.mem_cons_self
      obtain ⟨hcandidate, hcovers⟩ := List.mem_filter.mp hmem
      exact List.any_eq_true.mpr ⟨a, hcandidate, (Bool.and_eq_true_iff.mp hcovers).1⟩

/-! ## Pools with the same agents -/

/-- Two pools have the same agents and the same index, whatever the agents work on. -/
structure SameAgents (p q : Pool) : Prop where
  specs : q.specs = p.specs
  index : q.byCapability = p.byCapability

namespace SameAgents

variable {q : Pool} {agent : AgentId} {task : TaskId}

theorem refl (p : Pool) : p.SameAgents p := ⟨rfl, rfl⟩

theorem of_assign (h : p.assign agent task = .ok q) : p.SameAgents q := by
  obtain ⟨a, ha, ⟨-, rfl⟩ | ⟨-, -, rfl⟩⟩ := exists_of_assign h
  · exact refl q
  · exact ⟨mapValues_spec_insert ha _, rfl⟩

theorem of_release (h : p.release agent task = .ok q) : p.SameAgents q := by
  unfold release at h
  split at h
  · cases h
  · next a ha =>
    split at h
    · cases h
      exact ⟨mapValues_spec_insert ha _, rfl⟩
    · cases h

/-- The candidates are the same agents. -/
theorem map_spec_candidates (h : p.SameAgents q) (required : NameSet) :
    (q.candidates required).map Agent.spec = (p.candidates required).map Agent.spec := by
  have hfind : ∀ id, (q.agents.find? id).map Agent.spec = (p.agents.find? id).map Agent.spec :=
    fun id => by rw [← find?_specs, ← find?_specs, h.specs]
  unfold candidates indexed
  rw [h.index]
  split
  · have hvalues : ∀ p : Pool, p.agents.values.map Agent.spec = p.specs.values := fun p =>
      (NameMap.values_mapValues Agent.spec p.agents).symm
    rw [hvalues, hvalues, h.specs]
  · rw [List.map_filterMap, List.map_filterMap]
    exact congrArg (fun f => List.filterMap f _) (funext hfind)

/-- **Whether a task could be done does not depend on what the agents work on.** -/
theorem canSatisfy_eq (h : p.SameAgents q) (r : Requirements) : q.canSatisfy r = p.canSatisfy r := by
  have hmap : ∀ p : Pool, p.canSatisfy r =
      ((p.candidates r.capabilities).map Agent.spec).any fun spec => spec.covers r := fun p => by
    rw [List.any_map]
    rfl
  rw [hmap, hmap, h.map_spec_candidates]

end SameAgents

/-! ## Look-ups after any calls -/

/-- **After any calls, the look-ups of a pool are those of a plain scan of its agents.** Every agent is
    kept under its id and the index lists an agent under a capability just if it offers it. For all
    requirements, `findSuitable` shows the suitable agent that precedes all others, and nothing only if
    there is none; `canSatisfy` asks for an agent that covers them, however loaded it is. -/
theorem lookups_refine_scan (calls : List PoolCall) :
    let p := Pool.empty.afterCalls calls
    (∀ id a, p.agents.find? id = some a → a.spec.id = id) ∧
    (∀ c id, id ∈ listedIn p.byCapability c ↔
      ∃ a, p.agents.find? id = some a ∧ c ∈ a.spec.capabilities) ∧
    (∀ r view, p.findSuitable r = some view ↔
      ∃ a, p.Suitable r a ∧ (∀ b, p.Suitable r b → b ≠ a → a.Precedes b) ∧
        ⟨a.spec.id, a.spec.capabilities, a.assigned.size, a.spec.capacity⟩ = view) ∧
    (∀ r, p.findSuitable r = none ↔ ∀ a, ¬ p.Suitable r a) ∧
    ∀ r, p.canSatisfy r = true ↔ ∃ id a, p.agents.find? id = some a ∧ a.spec.Covers r := by
  have h := Indexed.afterCalls calls
  refine ⟨fun _ _ => h.keyed_agent, fun c id => ?_, fun _ _ => h.findSuitable_eq_some_iff,
    fun _ => h.findSuitable_eq_none_iff, fun _ => h.canSatisfy_iff⟩
  rw [h.listed_iff, find?_specs]
  simp only [Option.map_eq_some_iff, exists_exists_and_eq_and]

/-- Two agents; one is at work while the other one is registered anew, with more to offer. -/
def reregistered : Pool := empty.afterCalls
  [.register { id := "ada", capabilities := .ofList ["code", "test"], capacity := 2 },
    .register { id := "bob", capabilities := .ofList ["code"] },
    .assign "ada" "build",
    .deregister "bob",
    .register { id := "bob", capabilities := .ofList ["code", "test"] }]

theorem lookups_refine_scan_reregistered :
    ∃ a, reregistered.Suitable ⟨.ofList ["code", "test"], false⟩ a ∧
      (∀ b, reregistered.Suitable ⟨.ofList ["code", "test"], false⟩ b → b ≠ a → a.Precedes b) ∧
      ⟨a.spec.id, a.spec.capabilities, a.assigned.size, a.spec.capacity⟩ =
        (⟨"bob", .ofList ["code", "test"], 0, 1⟩ : AgentView) :=
  ((lookups_refine_scan _).2.2.1 _ _).mp (by decide)

end Pool
end Foreman
