import Foreman.Proofs.Waiting
import Foreman.Validation
import Mathlib.Data.List.Chain

/-!
# `Foreman.Proofs.CycleSearch` — the depth-first search finds exactly the cycles

The search keeps a mark per task and the path from its root. Two facts are carried through every
visit (`Sound`):

* each reported error is a simple cycle of the known graph (`IsSimpleCycle`), because the path is
  always a trail of edges and a report is made on an edge back into it;
* a task that has been left is well-founded along the edges that no report closes (`Settled`),
  because each of its edges either was reported or leads to a task left before.

The second one needs no case split on whether there are reports so far: reports only grow, and with
them the set of edges that are disregarded. In the end every declared task has been left, so without
a report the whole graph is grounded.

The fuel of `visit` never runs out: the tasks of a path are distinct and declared.
-/

namespace Foreman
namespace CycleSearch

open Relation Workflow

variable {w : Workflow} {path : List TaskId} {t d : TaskId} {s s' : CycleSearch} {fuel : Nat}

/-! ## What a report says -/

/-- An error reports a simple cycle: its path leads along edges from the task back to it, and visits
    no task twice on the way. -/
def IsSimpleCycle (w : Workflow) (e : ValidationError) : Prop :=
  ∃ t body, e = .cycleDetected t (body ++ [t]) ∧ body.head? = some t ∧ body.Nodup ∧
    (body ++ [t]).IsChain w.WaitsFor

/-- The edge from `t` to `d` closes a reported cycle. -/
def Reported (errors : List ValidationError) (t d : TaskId) : Prop :=
  ∃ before, .cycleDetected d (before ++ [t, d]) ∈ errors

/-- Descending from `t` along edges that close no reported cycle comes to an end. -/
def Settled (w : Workflow) (errors : List ValidationError) (t : TaskId) : Prop :=
  Acc (fun d t => w.WaitsFor t d ∧ ¬ Reported errors t d) t

/-- A simple cycle is a cycle. -/
theorem IsSimpleCycle.cyclic {e : ValidationError} (h : IsSimpleCycle w e) : w.Cyclic := by
  obtain ⟨t, body, _, hhead, _, hchain⟩ := h
  cases body with
  | nil => cases hhead
  | cons a body =>
      obtain rfl : a = t := by simpa using hhead
      refine ⟨a, ?_⟩
      cases body with
      | nil => exact TransGen.single (by simpa using hchain)
      | cons b body =>
          have hab : w.WaitsFor a b := hchain.rel_head? rfl
          have hba : ReflTransGen w.WaitsFor b a :=
            List.relationReflTransGen_of_exists_isChain_cons (body ++ [a]) hchain.tail (by simp)
          exact TransGen.head' hab hba

theorem Reported.mono {errors errors' : List ValidationError} (hsub : errors <+: errors')
    (h : Reported errors t d) : Reported errors' t d := by
  obtain ⟨before, hb⟩ := h
  exact ⟨before, hsub.subset hb⟩

/-- More reports disregard more edges. -/
theorem Settled.mono {errors errors' : List ValidationError} (hsub : errors <+: errors')
    (h : Settled w errors t) : Settled w errors' t :=
  Subrelation.accessible (fun {_ _} he => ⟨he.1, fun hr => he.2 (hr.mono hsub)⟩) h

/-! ## Paths and the invariant of the search -/

/-- A path of the search: distinct declared tasks, each waiting for the next. -/
structure Trail (w : Workflow) (path : List TaskId) : Prop where
  nodup : path.Nodup
  declared : path ⊆ w.taskIds
  edges : path.IsChain w.WaitsFor

/-- **The invariant.** The tasks of the path are those marked as such, every report is a cycle, and
    every task that was left is settled. -/
structure Sound (w : Workflow) (path : List TaskId) (s : CycleSearch) : Prop where
  onPath : ∀ u, s.marks.find? u = some .onPath ↔ u ∈ path
  reports : ∀ e ∈ s.errors, IsSimpleCycle w e
  settled : ∀ u, s.marks.find? u = some .done → Settled w s.errors u

/-- How the search moves on: reports are added at the end, and what was left stays left. -/
structure Extends (s s' : CycleSearch) : Prop where
  errors : s.errors <+: s'.errors
  done : ∀ u, s.marks.find? u = some .done → s'.marks.find? u = some .done

theorem Extends.refl (s : CycleSearch) : Extends s s := ⟨List.prefix_refl _, fun _ h => h⟩

theorem Extends.trans {s₁ s₂ s₃ : CycleSearch} (h₁ : Extends s₁ s₂) (h₂ : Extends s₂ s₃) :
    Extends s₁ s₃ :=
  ⟨h₁.errors.trans h₂.errors, fun u hu => h₂.done u (h₁.done u hu)⟩

/-- A path extended by a new task that its last one waits for is a path. -/
theorem Trail.snoc (h : Trail w (path ++ [t])) (hedge : w.WaitsFor t d) (hnew : d ∉ path ++ [t]) :
    Trail w (path ++ [t] ++ [d]) := by
  refine ⟨?_, ?_, ?_⟩
  · exact List.nodup_append.mpr ⟨h.nodup, List.nodup_singleton d, fun a ha b hb hab =>
      hnew (by rw [← List.mem_singleton.mp hb, ← hab]; exact ha)⟩
  · exact List.append_subset.mpr ⟨h.declared, by simpa using hedge.2.1⟩
  · exact h.edges.append (List.isChain_singleton d) (by simpa using hedge)

/-- A path is no longer than the set of declared ids. -/
theorem Trail.length_le (h : Trail w path) : path.length ≤ (NameSet.ofList w.taskIds).size :=
  h.nodup.length_le_of_subset fun _ ha => NameSet.mem_ofList.mpr (h.declared ha)

/-- An edge back into the path gives a report of a cycle that this edge closes. -/
theorem cycleThrough_eq (hd : d ∈ path ++ [t]) :
    cycleThrough (path ++ [t]) d =
      .cycleDetected d (path.drop ((path ++ [t]).idxOf d) ++ [t, d]) := by
  have hle : (path ++ [t]).idxOf d ≤ path.length := by
    have := List.idxOf_lt_length_of_mem hd
    rw [List.length_append, List.length_singleton] at this
    omega
  rw [cycleThrough, List.drop_append_of_le_length hle, List.append_assoc]
  rfl

theorem isSimpleCycle_cycleThrough (htrail : Trail w (path ++ [t])) (hedge : w.WaitsFor t d)
    (hd : d ∈ path ++ [t]) : IsSimpleCycle w (cycleThrough (path ++ [t]) d) := by
  have hlt := List.idxOf_lt_length_of_mem hd
  refine ⟨d, (path ++ [t]).drop ((path ++ [t]).idxOf d), rfl, ?_, ?_, ?_⟩
  · rw [List.head?_drop, List.getElem?_eq_getElem hlt, List.getElem_idxOf hlt]
  · exact htrail.nodup.sublist (List.drop_sublist _ _)
  · refine (htrail.edges.drop _).append (List.isChain_singleton d) ?_
    intro a ha b hb
    have hlast : ((path ++ [t]).drop ((path ++ [t]).idxOf d)).getLast? = some t := by
      rw [List.getLast?_drop, if_neg (by omega), List.getLast?_concat]
    obtain rfl : t = a := Option.some.inj (hlast.symm.trans ha)
    obtain rfl : d = b := by simpa using hb
    exact hedge

/-! ## One visit -/

/-- What `visit` does for one of the ids that its task waits for. -/
def follow (w : Workflow) (fuel : Nat) (path : List TaskId) (s : CycleSearch) (d : TaskId) :
    CycleSearch :=
  if (NameSet.ofList w.taskIds).contains d then
    match s.marks.find? d with
    | some .onPath => { s with errors := s.errors ++ [cycleThrough path d] }
    | some .done => s
    | none => visit w (NameSet.ofList w.taskIds) fuel path d s
  else s

theorem visit_succ :
    visit w (NameSet.ofList w.taskIds) (fuel + 1) path t s =
      let left := (w.dependenciesOf t).toList.foldl (follow w fuel (path ++ [t]))
        { s with marks := s.marks.insert t .onPath }
      { left with marks := left.marks.insert t .done } := rfl

/-- `t` has been left. -/
def Left (t : TaskId) (s : CycleSearch) : Prop := s.marks.find? t = some .done

/-- The edge from `t` to `d`, if there is one, leads to a task that was left or has been reported. -/
def Accounted (w : Workflow) (t d : TaskId) (s : CycleSearch) : Prop :=
  w.WaitsFor t d → Left d s ∨ Reported s.errors t d

/-- The search moved on from `s` to `s'` and came back to the same path, keeping the invariant and
    achieving a goal. -/
structure Advance (w : Workflow) (path : List TaskId) (goal : CycleSearch → Prop)
    (s s' : CycleSearch) : Prop where
  sound : Sound w path s'
  grows : Extends s s'
  achieved : goal s'

theorem Left.mono (hext : Extends s s') (h : Left t s) : Left t s' := hext.done t h

theorem Accounted.mono (hext : Extends s s') (h : Accounted w t d s) : Accounted w t d s' :=
  fun hedge => (h hedge).imp (Left.mono hext) (Reported.mono hext.errors)

/-- Steps for a list of ids achieve the goal of each of them, if goals once achieved persist. -/
theorem advance_foldl {step : CycleSearch → TaskId → CycleSearch}
    (goal : TaskId → CycleSearch → Prop)
    (hpersist : ∀ {d s s'}, Extends s s' → goal d s → goal d s') (ds : List TaskId)
    (hstep : ∀ d ∈ ds, ∀ s, Sound w path s → Advance w path (goal d) s (step s d))
    (hs : Sound w path s) :
    Advance w path (fun s' => ∀ d ∈ ds, goal d s') s (ds.foldl step s) := by
  induction ds generalizing s with
  | nil => exact ⟨hs, Extends.refl s, fun d hd => absurd hd (by simp)⟩
  | cons a ds ih =>
      have ha := hstep a (by simp) s hs
      have hrest := ih (fun d hd => hstep d (List.mem_cons_of_mem a hd)) ha.sound
      refine ⟨hrest.sound, ha.grows.trans hrest.grows, fun d hd => ?_⟩
      rcases List.mem_cons.mp hd with rfl | hd
      · exact hpersist hrest.grows ha.achieved
      · exact hrest.achieved d hd

/-- **One edge is accounted for**, provided that visits with this fuel do what they should. -/
theorem advance_follow
    (ih : ∀ {s : CycleSearch}, Sound w (path ++ [t]) s → Trail w (path ++ [t] ++ [d]) →
      s.marks.find? d = none → Advance w (path ++ [t]) (Left d) s
        (visit w (NameSet.ofList w.taskIds) fuel (path ++ [t]) d s))
    (hs : Sound w (path ++ [t]) s) (htrail : Trail w (path ++ [t]))
    (hd : d ∈ w.dependenciesOf t) :
    Advance w (path ++ [t]) (Accounted w t d) s (follow w fuel (path ++ [t]) s d) := by
  unfold follow
  by_cases hknown : d ∈ w.taskIds
  · have ht : t ∈ w.taskIds := htrail.declared (by simp)
    have hedge : w.WaitsFor t d := ⟨ht, hknown, hd⟩
    rw [if_pos (by simpa using hknown)]
    cases hmark : s.marks.find? d with
    | none =>
        -- not seen before: the visit leaves it
        have hnew : d ∉ path ++ [t] := fun hmem => by
          rw [(hs.onPath d).mpr hmem] at hmark
          cases hmark
        have hv := ih hs (htrail.snoc hedge hnew) hmark
        exact ⟨hv.sound, hv.grows, fun _ => Or.inl hv.achieved⟩
    | some m =>
        cases m with
        | done => exact ⟨hs, Extends.refl s, fun _ => Or.inl hmark⟩
        | onPath =>
            -- the edge closes a cycle, and this is reported
            have hmem : d ∈ path ++ [t] := (hs.onPath d).mp hmark
            have hext : Extends s { s with errors := s.errors ++ [cycleThrough (path ++ [t]) d] } :=
              ⟨List.prefix_append _ _, fun _ h => h⟩
            refine ⟨⟨hs.onPath, ?_, fun u hu => (hs.settled u hu).mono hext.errors⟩, hext, ?_⟩
            · intro e he
              rcases List.mem_append.mp he with he | he
              · exact hs.reports e he
              · rw [List.mem_singleton.mp he]
                exact isSimpleCycle_cycleThrough htrail hedge hmem
            · intro _
              refine Or.inr ⟨path.drop ((path ++ [t]).idxOf d), ?_⟩
              rw [← cycleThrough_eq hmem]
              exact List.mem_append_right _ (List.mem_singleton_self _)
  · -- an edge to an undeclared id is not one of the known graph
    rw [if_neg (by simpa using hknown)]
    exact ⟨hs, Extends.refl s, fun hedge => absurd hedge.2.1 hknown⟩

/-- Entering a task puts it on the path. -/
theorem Sound.enter (hs : Sound w path s) :
    Sound w (path ++ [t]) { s with marks := s.marks.insert t .onPath } := by
  refine ⟨fun u => ?_, hs.reports, fun u hu => ?_⟩
  · rw [NameMap.find?_insert, List.mem_append, List.mem_singleton, ← hs.onPath u]
    by_cases hu : u = t <;> simp [hu]
  · rw [NameMap.find?_insert] at hu
    by_cases hut : u = t
    · rw [if_pos hut] at hu
      cases hu
    · rw [if_neg hut] at hu
      exact hs.settled u hu

/-- Leaving a task all of whose edges are accounted for settles it. -/
theorem Sound.leave (hs : Sound w (path ++ [t]) s) (hnotin : t ∉ path)
    (hedges : ∀ d, w.WaitsFor t d → Left d s ∨ Reported s.errors t d) :
    Sound w path { s with marks := s.marks.insert t .done } := by
  refine ⟨fun u => ?_, hs.reports, fun u hu => ?_⟩
  · rw [NameMap.find?_insert]
    by_cases hut : u = t
    · subst hut
      simp [hnotin]
    · rw [if_neg hut, hs.onPath u]
      simp [hut]
  · rw [NameMap.find?_insert] at hu
    by_cases hut : u = t
    · subst hut
      refine Acc.intro _ fun d hd => ?_
      exact hs.settled d ((hedges d hd.1).resolve_right hd.2)
    · rw [if_neg hut] at hu
      exact hs.settled u hu

/-- **A visit keeps the invariant and leaves its task.** Induction on the fuel, which together with
    the path never falls below the number of declared ids. -/
theorem advance_visit (hs : Sound w path s) (htrail : Trail w (path ++ [t]))
    (hnew : s.marks.find? t = none)
    (hfuel : (NameSet.ofList w.taskIds).size ≤ fuel + path.length) :
    Advance w path (Left t) s (visit w (NameSet.ofList w.taskIds) fuel path t s) := by
  induction fuel generalizing path t s with
  | zero =>
      -- the path would hold more ids than there are
      have hlen := htrail.length_le
      rw [List.length_append, List.length_singleton] at hlen
      omega
  | succ fuel ih =>
      have hnotin : t ∉ path := by
        have := List.nodup_append.mp htrail.nodup
        exact fun hmem => this.2.2 t hmem t (by simp) rfl
      have hstep : ∀ d ∈ (w.dependenciesOf t).toList, ∀ s, Sound w (path ++ [t]) s →
          Advance w (path ++ [t]) (Accounted w t d) s (follow w fuel (path ++ [t]) s d) := by
        intro d hd s hs
        refine advance_follow (fun hs htrail hnew => ih hs htrail hnew ?_) hs htrail hd
        rw [List.length_append, List.length_singleton]
        omega
      have hall := advance_foldl (Accounted w t) Accounted.mono _ hstep hs.enter
      rw [visit_succ]
      refine ⟨hall.sound.leave hnotin fun d hd => hall.achieved d hd.2.2 hd,
        ⟨hall.grows.errors, ?_⟩, NameMap.find?_insert_self _ _ _⟩
      intro u hu
      have hut : u ≠ t := fun h => by rw [h, hnew] at hu; cases hu
      rw [NameMap.find?_insert, if_neg hut]
      exact hall.grows.done u (by rw [NameMap.find?_insert, if_neg hut]; exact hu)

/-! ## The whole search -/

/-- What the search does for a declared task that it tries as a root. -/
def tryRoot (w : Workflow) (s : CycleSearch) (t : TaskId) : CycleSearch :=
  match s.marks.find? t with
  | some _ => s
  | none => visit w (NameSet.ofList w.taskIds) (NameSet.ofList w.taskIds).size [] t s

theorem ofWorkflow_eq (w : Workflow) : ofWorkflow w = w.taskIds.foldl (tryRoot w) ⟨∅, []⟩ := rfl

theorem advance_tryRoot (hs : Sound w [] s) (ht : t ∈ w.taskIds) :
    Advance w [] (Left t) s (tryRoot w s t) := by
  unfold tryRoot
  cases hmark : s.marks.find? t with
  | none =>
      refine advance_visit hs ⟨by simp, by simpa using ht, by simp⟩ hmark ?_
      exact Nat.le_add_right _ _
  | some m =>
      cases m with
      | onPath => exact absurd ((hs.onPath t).mp hmark) (by simp)
      | done => exact ⟨hs, Extends.refl s, hmark⟩

/-- **The search ends with the invariant and with every declared task left.** -/
theorem advance_ofWorkflow (w : Workflow) :
    Advance w [] (fun s => ∀ t ∈ w.taskIds, Left t s) ⟨∅, []⟩ (ofWorkflow w) := by
  have hstart : Sound w [] ⟨∅, []⟩ :=
    ⟨fun u => iff_of_false nofun (by simp), fun e he => absurd he (by simp), fun u hu => nomatch hu⟩
  rw [ofWorkflow_eq]
  exact advance_foldl Left Left.mono _ (fun t ht s hs => advance_tryRoot hs ht) hstart

/-- Every report is a simple cycle of the known graph. -/
theorem isSimpleCycle_of_mem {e : ValidationError} (he : e ∈ w.cycleErrors) : IsSimpleCycle w e :=
  (advance_ofWorkflow w).sound.reports e he

/-- Without the edges that close reported cycles, every declared task is well-founded. -/
theorem settled_of_mem (ht : t ∈ w.taskIds) : Settled w w.cycleErrors t :=
  (advance_ofWorkflow w).sound.settled t ((advance_ofWorkflow w).achieved t ht)

/-- **There is a report exactly if there is a cycle.** -/
theorem cycleErrors_eq_nil_iff : w.cycleErrors = [] ↔ ¬ w.Cyclic := by
  constructor
  · intro hnil
    refine not_cyclic_iff.mpr fun t ht => ?_
    have hset := settled_of_mem ht
    rw [hnil] at hset
    exact Subrelation.accessible (fun {_ _} hedge => ⟨hedge, fun ⟨_, hb⟩ => nomatch hb⟩) hset
  · intro hacyc
    refine List.eq_nil_iff_forall_not_mem.mpr fun e he => ?_
    exact hacyc (isSimpleCycle_of_mem he).cyclic

end CycleSearch
end Foreman
