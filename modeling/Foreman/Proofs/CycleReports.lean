import Foreman.Proofs.Validity
import Mathlib.Data.List.Rotate

/-!
# `Foreman.Proofs.CycleReports` — the reports of cycles are genuine, distinct and sufficient

The search reports a cycle for every edge that leads back into its path. Each report is a simple cycle of the
known graph and so tells which edge closes it. What is added here is how the reports of one validation relate
to each other and to the graph.

* No two are the same cycle (`apart_cycleErrors`). The search enters every task once, and the chart of a search
  lists them in that order (`Charted`). A path is always a part of the chart, and so are the reported cycles.
  Two rotations of one cycle would be the same part of it and be closed by the same edge; but each edge is
  followed once only.
* Every cycle runs through an edge that closes a reported one (`exists_closing_edge`), because without these
  edges descending from any task comes to an end.

So a workflow without those edges has no cycle left (`Workflow.cutOpen`).
-/

namespace Foreman

open Relation

/-! ## Closing edges -/

/-- The edge that closes a reported cycle: the last two tasks of the path. -/
def ValidationError.closingEdge? : ValidationError → Option (TaskId × TaskId)
  | cycleDetected _ path =>
    match path.reverse with
    | d :: t :: _ => some (t, d)
    | _ => none
  | _ => none

namespace Workflow

/-- The workflow in which a task does not wait for another. -/
def removeDependency (w : Workflow) (t d : TaskId) : Workflow :=
  { w with dependencies := w.dependencies.modify t (·.erase d) }

/-- The closing edges of all reported cycles. -/
def closingEdges (w : Workflow) : List (TaskId × TaskId) :=
  w.validationErrors.filterMap ValidationError.closingEdge?

/-- The workflow without the edges that close reported cycles. -/
def cutOpen (w : Workflow) : Workflow :=
  w.closingEdges.foldl (fun w e => w.removeDependency e.1 e.2) w

/-- **What a reported path is**: a cycle of the known graph, from the task back to it, that visits
    nothing twice on the way. -/
structure SimpleCycle (w : Workflow) (t : TaskId) (path : List TaskId) : Prop where
  long : 2 ≤ path.length
  starts : path.head? = some t
  ends : path.getLast? = some t
  edges : path.IsChain w.WaitsFor
  simple : path.dropLast.Nodup

end Workflow

@[simp] theorem closingEdge?_cycleDetected (u t d : TaskId) (before : List TaskId) :
    (ValidationError.cycleDetected u (before ++ [t, d])).closingEdge? = some (t, d) := by
  simp [ValidationError.closingEdge?]

namespace CycleSearch

open Workflow

variable {w : Workflow} {path seen : List TaskId} {t d a b : TaskId} {s s' : CycleSearch} {fuel : Nat}
  {errors : List ValidationError} {e : ValidationError} {closes : TaskId → TaskId → Prop}

/-- A report tells the edge that closes it. -/
theorem IsSimpleCycle.exists_edge (h : IsSimpleCycle w e) :
    ∃ before a b, e = .cycleDetected b (before ++ [a, b]) ∧ e.closingEdge? = some (a, b) := by
  obtain ⟨t, body, rfl, hhead, -, -⟩ := h
  obtain ⟨before, a, rfl⟩ := (List.eq_nil_or_concat' body).resolve_left fun hnil => by simp [hnil] at hhead
  exact ⟨before, a, t, by simp, by simp⟩

theorem reported_iff (h : ∀ e ∈ errors, IsSimpleCycle w e) :
    Reported errors a b ↔ ∃ e ∈ errors, e.closingEdge? = some (a, b) := by
  constructor
  · rintro ⟨before, hmem⟩
    exact ⟨_, hmem, closingEdge?_cycleDetected b a b before⟩
  · rintro ⟨e, he, hedge⟩
    obtain ⟨before, a', b', rfl, hedge'⟩ := (h e he).exists_edge
    cases hedge.symm.trans hedge'
    exact ⟨before, he⟩

theorem cycleThrough_edge (hd : d ∈ path ++ [t]) :
    (cycleThrough (path ++ [t]) d).closingEdge? = some (t, d) := by
  rw [cycleThrough_eq hd, closingEdge?_cycleDetected]

/-- Only the new report makes a new edge reported. -/
theorem reported_snoc (hd : d ∈ path ++ [t])
    (h : Reported (errors ++ [cycleThrough (path ++ [t]) d]) a b) :
    Reported errors a b ∨ a = t ∧ b = d := by
  obtain ⟨before, hmem⟩ := h
  rcases List.mem_append.mp hmem with hmem | hmem
  · exact Or.inl ⟨before, hmem⟩
  · have hedge := closingEdge?_cycleDetected b a b before
    rw [List.mem_singleton.mp hmem, cycleThrough_edge hd] at hedge
    cases hedge
    exact Or.inr ⟨rfl, rfl⟩

/-! ## The chart of a search -/

/-- **The chart.** It lists the tasks in the order in which they were entered. The path and the reported
    cycles are parts of it, and no two reports are closed by the same edge. -/
structure Charted (path seen : List TaskId) (s : CycleSearch) : Prop where
  nodup : seen.Nodup
  entered : ∀ u, u ∈ seen ↔ s.marks.find? u ≠ none
  path : path.Sublist seen
  bodies : ∀ u body, .cycleDetected u (body ++ [u]) ∈ s.errors → body.Sublist seen
  apart : s.errors.Pairwise fun e e' => e.closingEdge? ≠ e'.closingEdge?

/-- The search charted more tasks, and the edges that it reported start at one of them or are allowed to
    be reported. -/
structure Explores (path seen : List TaskId) (closes : TaskId → TaskId → Prop) (s s' : CycleSearch) :
    Prop where
  charted : ∃ more, Charted path (seen ++ more) s'
  fresh : ∀ a b, Reported s'.errors a b → Reported s.errors a b ∨ a ∉ seen ∨ closes a b

theorem Charted.explores (h : Charted path seen s) : Explores path seen closes s s :=
  ⟨⟨[], by rwa [List.append_nil]⟩, fun _ _ => Or.inl⟩

/-- A report closes an edge from a task that was entered. -/
theorem Charted.mem_of_reported (h : Charted path seen s) (hr : Reported s.errors a b) : a ∈ seen := by
  obtain ⟨before, hmem⟩ := hr
  have hbody := h.bodies b (before ++ [a]) (by simpa using hmem)
  exact hbody.subset (by simp)

/-- Entering a task puts it at the end of the chart. -/
theorem Charted.enter (h : Charted path seen s) (hnew : s.marks.find? t = none) :
    Charted (path ++ [t]) (seen ++ [t]) { s with marks := s.marks.insert t .onPath } := by
  have hnotin : t ∉ seen := fun hmem => (h.entered t).mp hmem hnew
  refine ⟨?_, fun u => ?_, h.path.append (List.Sublist.refl _), fun u body hmem => ?_, h.apart⟩
  · exact List.nodup_append.mpr ⟨h.nodup, List.nodup_singleton t, fun a ha b hb hab =>
      hnotin (by rw [← List.mem_singleton.mp hb, ← hab]; exact ha)⟩
  · rw [List.mem_append, List.mem_singleton, h.entered u, NameMap.find?_insert]
    by_cases hu : u = t <;> simp [hu]
  · exact (h.bodies u body hmem).trans (List.sublist_append_left seen [t])

/-- Leaving a task changes its mark only. -/
theorem Charted.leave (h : Charted (path ++ [t]) seen s) :
    Charted path seen { s with marks := s.marks.insert t .done } := by
  have ht : t ∈ seen := h.path.subset (by simp)
  refine ⟨h.nodup, fun u => ?_, (List.sublist_append_left path [t]).trans h.path, h.bodies, h.apart⟩
  rw [h.entered u, NameMap.find?_insert]
  by_cases hu : u = t
  · simpa [hu] using (h.entered t).mp ht
  · rw [if_neg hu]

/-- An edge back into the path that was not followed before gives a new report. -/
theorem Charted.report (h : Charted (path ++ [t]) seen s) (hs : Sound w (path ++ [t]) s)
    (hd : d ∈ path ++ [t]) (hopen : ¬ Reported s.errors t d) :
    Charted (path ++ [t]) seen { s with errors := s.errors ++ [cycleThrough (path ++ [t]) d] } := by
  refine ⟨h.nodup, h.entered, h.path, fun u body hmem => ?_, ?_⟩
  · rcases List.mem_append.mp hmem with hmem | hmem
    · exact h.bodies u body hmem
    · -- the cycle is the end of the path
      obtain ⟨rfl, hbody⟩ := ValidationError.cycleDetected.inj (List.mem_singleton.mp hmem)
      obtain ⟨rfl, -⟩ := List.append_inj' hbody rfl
      exact (List.drop_sublist _ _).trans h.path
  · refine List.pairwise_append.mpr ⟨h.apart, List.pairwise_singleton _ _, fun e he e' he' heq => ?_⟩
    rw [List.mem_singleton.mp he', cycleThrough_edge hd] at heq
    exact hopen ((reported_iff hs.reports).mpr ⟨e, he, heq⟩)

/-! ## One visit -/

/-- **Following one edge**, provided that visits with this fuel chart what they enter. -/
theorem explores_follow
    (ih : ∀ {seen s}, Sound w (path ++ [t]) s → Charted (path ++ [t]) seen s →
      Trail w (path ++ [t] ++ [d]) → s.marks.find? d = none →
        Explores (path ++ [t]) seen (fun _ _ => False) s
          (visit w (NameSet.ofList w.taskIds) fuel (path ++ [t]) d s))
    (hs : Sound w (path ++ [t]) s) (hchart : Charted (path ++ [t]) seen s)
    (htrail : Trail w (path ++ [t])) (hd : d ∈ w.dependenciesOf t) (hopen : ¬ Reported s.errors t d) :
    Explores (path ++ [t]) seen (fun a b => a = t ∧ b = d) s (follow w fuel (path ++ [t]) s d) := by
  unfold follow
  by_cases hknown : d ∈ w.taskIds
  · rw [if_pos (by simpa using hknown)]
    cases hmark : s.marks.find? d with
    | none =>
        have hnew : d ∉ path ++ [t] := fun hmem => by
          rw [(hs.onPath d).mpr hmem] at hmark
          cases hmark
        have hedge : w.WaitsFor t d := ⟨htrail.declared (by simp), hknown, hd⟩
        have hvisit := ih hs hchart (htrail.snoc hedge hnew) hmark
        exact ⟨hvisit.charted, fun a b hr => (hvisit.fresh a b hr).imp_right (Or.imp_right False.elim)⟩
    | some m =>
        cases m with
        | done => exact hchart.explores
        | onPath =>
            have hmem : d ∈ path ++ [t] := (hs.onPath d).mp hmark
            refine ⟨⟨[], ?_⟩, fun a b hr => (reported_snoc hmem hr).imp_right Or.inr⟩
            rw [List.append_nil]
            exact hchart.report hs hmem hopen
  · rw [if_neg (by simpa using hknown)]
    exact hchart.explores

/-- Following distinct edges that are not reported yet, one after another. -/
theorem explores_foldl (ds : List TaskId) (hdistinct : ds.Nodup)
    (hsound : ∀ d ∈ ds, ∀ s, Sound w (path ++ [t]) s →
      Sound w (path ++ [t]) (follow w fuel (path ++ [t]) s d))
    (hfollow : ∀ d ∈ ds, ∀ seen s, Sound w (path ++ [t]) s → Charted (path ++ [t]) seen s →
      ¬ Reported s.errors t d →
        Explores (path ++ [t]) seen (fun a b => a = t ∧ b = d) s (follow w fuel (path ++ [t]) s d))
    (hs : Sound w (path ++ [t]) s) (hchart : Charted (path ++ [t]) seen s)
    (hopen : ∀ d ∈ ds, ¬ Reported s.errors t d) :
    Explores (path ++ [t]) seen (fun a _ => a = t) s (ds.foldl (follow w fuel (path ++ [t])) s) := by
  induction ds generalizing seen s with
  | nil => exact hchart.explores
  | cons d ds ih =>
      rw [List.nodup_cons] at hdistinct
      have hone := hfollow d (by simp) seen s hs hchart (hopen d (by simp))
      obtain ⟨more, hmore⟩ := hone.charted
      have ht : t ∈ seen := hchart.path.subset (by simp)
      -- of the edges from `t` only the one just followed can be reported by now
      have hopen' : ∀ d' ∈ ds, ¬ Reported (follow w fuel (path ++ [t]) s d).errors t d' := by
        intro d' hd' hr
        rcases hone.fresh t d' hr with hr | hnew | ⟨-, rfl⟩
        · exact hopen d' (List.mem_cons_of_mem d hd') hr
        · exact hnew ht
        · exact hdistinct.1 hd'
      have hrest := ih hdistinct.2 (fun d' hd' => hsound d' (List.mem_cons_of_mem d hd'))
        (fun d' hd' => hfollow d' (List.mem_cons_of_mem d hd')) (hsound d (by simp) s hs) hmore hopen'
      obtain ⟨more', hmore'⟩ := hrest.charted
      refine ⟨⟨more ++ more', by rwa [← List.append_assoc]⟩, fun a b hr => ?_⟩
      rcases hrest.fresh a b hr with hr | hnew | rfl
      · exact (hone.fresh a b hr).imp_right (Or.imp_right And.left)
      · exact Or.inr (Or.inl fun hmem => hnew (List.mem_append_left _ hmem))
      · exact Or.inr (Or.inr rfl)

/-- **A visit charts what it enters and reports edges from there only.** -/
theorem explores_visit (hs : Sound w path s) (hchart : Charted path seen s)
    (htrail : Trail w (path ++ [t])) (hnew : s.marks.find? t = none)
    (hfuel : (NameSet.ofList w.taskIds).size ≤ fuel + path.length) :
    Explores path seen (fun _ _ => False) s
      (visit w (NameSet.ofList w.taskIds) fuel path t s) := by
  induction fuel generalizing path seen t s with
  | zero =>
      have hlen := htrail.length_le
      rw [List.length_append, List.length_singleton] at hlen
      omega
  | succ fuel ih =>
      have hfuel' : (NameSet.ofList w.taskIds).size ≤ fuel + (path ++ [t]).length := by
        rw [List.length_append, List.length_singleton]
        omega
      have hnotin : t ∉ seen := fun hmem => (hchart.entered t).mp hmem hnew
      have hall := explores_foldl (w.dependenciesOf t).toList
        ((w.dependenciesOf t).ascending.imp fun {a b} hlt => ?_)
        (fun d hd s hs => (advance_follow (fun hs htrail hnew => advance_visit hs htrail hnew hfuel')
          hs htrail hd).sound)
        (fun d hd seen s hs hchart => explores_follow
          (fun hs hchart htrail hnew => ih hs hchart htrail hnew hfuel') hs hchart htrail hd)
        hs.enter (hchart.enter hnew)
        (fun d _ hr => hnotin (hchart.mem_of_reported hr))
      · obtain ⟨more, hmore⟩ := hall.charted
        rw [visit_succ]
        refine ⟨⟨[t] ++ more, ?_⟩, fun a b hr => ?_⟩
        · rw [← List.append_assoc]
          exact hmore.leave
        · -- the visited task is new itself
          rcases hall.fresh a b hr with hr | hout | rfl
          · exact Or.inl hr
          · exact Or.inr (Or.inl fun hmem => hout (List.mem_append_left _ hmem))
          · exact Or.inr (Or.inl hnotin)
      · rintro rfl
        exact String.lt_irrefl _ hlt

/-! ## The whole search -/

theorem exists_charted_tryRoot (hs : Sound w [] s) (hchart : Charted [] seen s) (ht : t ∈ w.taskIds) :
    ∃ seen', Charted [] seen' (tryRoot w s t) := by
  unfold tryRoot
  cases hmark : s.marks.find? t with
  | some m => exact ⟨seen, hchart⟩
  | none =>
      obtain ⟨more, hmore⟩ := (explores_visit hs hchart ⟨by simp, by simpa using ht, by simp⟩ hmark
        (Nat.le_add_right _ _)).charted
      exact ⟨_, hmore⟩

/-- **The whole search has a chart.** -/
theorem exists_charted (w : Workflow) : ∃ seen, Charted [] seen (ofWorkflow w) := by
  have key : ∀ ts ⊆ w.taskIds, ∀ s seen, Sound w [] s → Charted [] seen s →
      ∃ seen', Charted [] seen' (ts.foldl (tryRoot w) s) := by
    intro ts
    induction ts with
    | nil => exact fun _ s seen _ hchart => ⟨seen, hchart⟩
    | cons t ts ih =>
        intro hsub s seen hs hchart
        have ht : t ∈ w.taskIds := hsub (List.mem_cons_self ..)
        obtain ⟨seen', hchart'⟩ := exists_charted_tryRoot hs hchart ht
        exact ih (fun u hu => hsub (List.mem_cons_of_mem t hu)) _ seen' (advance_tryRoot hs ht).sound hchart'
  have hsound : Sound w [] ⟨∅, []⟩ :=
    ⟨fun u => iff_of_false nofun (by simp), fun e he => absurd he (by simp), fun u hu => nomatch hu⟩
  rw [ofWorkflow_eq]
  exact key _ (fun _ => id) _ [] hsound
    ⟨List.nodup_nil, fun u => iff_of_false (by simp) fun hmark => hmark rfl,
      List.Sublist.refl _, fun _ _ hmem => absurd hmem (by simp), List.Pairwise.nil⟩

/-- **No two reports are rotations of one cycle.** -/
theorem apart_cycleErrors (w : Workflow) : w.cycleErrors.Pairwise fun e e' =>
    ∀ t path t' path', e = .cycleDetected t path → e' = .cycleDetected t' path' →
      ¬ path.dropLast.IsRotated path'.dropLast := by
  obtain ⟨seen, hchart⟩ := exists_charted w
  refine List.Pairwise.imp_of_mem (fun {e e'} he he' hne => ?_) hchart.apart
  rintro t path t' path' rfl rfl hrot
  obtain ⟨t, body, heq, hhead, -, -⟩ := isSimpleCycle_of_mem he
  obtain ⟨rfl, rfl⟩ := ValidationError.cycleDetected.inj heq
  obtain ⟨t', body', heq', hhead', -, -⟩ := isSimpleCycle_of_mem he'
  obtain ⟨rfl, rfl⟩ := ValidationError.cycleDetected.inj heq'
  rw [List.dropLast_concat, List.dropLast_concat] at hrot
  -- both are the same part of the chart, so they are the same report
  obtain rfl : body = body' := (hchart.nodup.perm_iff_eq_of_sublist (hchart.bodies _ _ he)
    (hchart.bodies _ _ he')).mp hrot.perm
  obtain rfl : t = t' := Option.some.inj (hhead.symm.trans hhead')
  exact hne rfl

/-! ## Cycles and closing edges -/

theorem transGen_of_isChain {α : Type} {r : α → α → Prop} {a b : α} {ts : List α}
    (h : (a :: (ts ++ [b])).IsChain r) : TransGen r a b := by
  induction ts generalizing a with
  | nil => exact .single (by simpa using h)
  | cons c ts ih => exact .head (h.rel_head? rfl) (ih h.tail)

theorem not_self_of_acc {α : Type} {r : α → α → Prop} {a : α} (h : Acc r a) : ¬ r a a := by
  induction h with
  | intro a _ ih => exact fun hself => ih a hself hself

/-- **Every cycle runs through an edge that closes a reported one.** -/
theorem exists_closing_edge (h : (t :: (path ++ [t])).IsChain w.WaitsFor) :
    ∃ a b, Reported w.cycleErrors a b ∧ [a, b] <:+: t :: (path ++ [t]) := by
  refine Classical.byContradiction fun hnone => ?_
  have hchain : (t :: (path ++ [t])).IsChain fun t d => w.WaitsFor t d ∧ ¬ Reported w.cycleErrors t d := by
    refine List.isChain_iff_forall_rel_of_append_cons_cons.mpr fun a b before after heq => ?_
    refine ⟨List.isChain_iff_forall_rel_of_append_cons_cons.mp h heq, fun hr => ?_⟩
    exact hnone ⟨a, b, hr, before, after, by rw [heq]; simp⟩
  have hcyc := transGen_of_isChain hchain
  obtain ⟨d, ⟨hedge, -⟩, -⟩ := TransGen.head'_iff.mp hcyc
  -- but descending along such edges comes to an end
  exact not_self_of_acc (settled_of_mem hedge.1).transGen (transGen_swap.mp hcyc)

end CycleSearch

namespace Workflow

open CycleSearch

variable {w : Workflow} {t d a b : TaskId} {path : List TaskId}

/-! ## Cutting the cycles open -/

theorem mem_closingEdges_iff : (a, b) ∈ w.closingEdges ↔ Reported w.cycleErrors a b := by
  rw [closingEdges, List.mem_filterMap, reported_iff fun e he => isSimpleCycle_of_mem he]
  refine exists_congr fun e => and_congr_left fun hedge => ?_
  -- only a report of a cycle has a closing edge
  cases e with
  | cycleDetected t path => exact mem_validationErrors_cycleDetected
  | _ => cases hedge

theorem dependenciesOf_removeDependency (w : Workflow) (t d u : TaskId) :
    (w.removeDependency t d).dependenciesOf u =
      if u = t then (w.dependenciesOf t).erase d else w.dependenciesOf u := by
  by_cases hu : u = t
  · subst hu
    cases hfind : w.dependencies.find? u with
    | none =>
        simp only [dependenciesOf, removeDependency, NameMap.find?_modify, hfind, if_true, Option.map_none,
          Option.getD_none]
        rfl
    | some ds => simp [dependenciesOf, removeDependency, NameMap.find?_modify, hfind]
  · simp [dependenciesOf, removeDependency, NameMap.find?_modify, hu]

theorem waitsFor_removeDependency_iff :
    (w.removeDependency a b).WaitsFor t d ↔ w.WaitsFor t d ∧ (t, d) ≠ (a, b) := by
  have hids : (w.removeDependency a b).taskIds = w.taskIds := rfl
  simp only [WaitsFor, hids, dependenciesOf_removeDependency, ne_eq, Prod.mk.injEq, and_assoc]
  refine and_congr_right fun _ => and_congr_right fun _ => ?_
  by_cases ht : t = a
  · subst ht
    simp
  · simp [ht]

/-- Removing edges leaves all others. -/
theorem waitsFor_foldl_removeDependency_iff (edges : List (TaskId × TaskId)) :
    (edges.foldl (fun w e => w.removeDependency e.1 e.2) w).WaitsFor t d ↔
      w.WaitsFor t d ∧ (t, d) ∉ edges := by
  induction edges generalizing w with
  | nil => simp
  | cons e edges ih =>
      rw [List.foldl_cons, ih, waitsFor_removeDependency_iff, and_assoc, List.mem_cons, not_or]

theorem taskIds_foldl_removeDependency (edges : List (TaskId × TaskId)) (w : Workflow) :
    (edges.foldl (fun w e => w.removeDependency e.1 e.2) w).taskIds = w.taskIds := by
  induction edges generalizing w with
  | nil => rfl
  | cons e edges ih => exact ih _

/-- Without the closing edges there is no cycle. -/
theorem not_cyclic_cutOpen (w : Workflow) : ¬ w.cutOpen.Cyclic := by
  refine not_cyclic_iff.mpr fun t ht => ?_
  rw [cutOpen, taskIds_foldl_removeDependency] at ht
  refine Subrelation.accessible (fun {d t} hedge => ?_) (settled_of_mem ht)
  obtain ⟨hwaits, hnot⟩ := waitsFor_foldl_removeDependency_iff _ |>.mp hedge
  exact ⟨hwaits, fun hr => hnot (mem_closingEdges_iff.mpr hr)⟩

theorem simpleCycle_of_mem (h : .cycleDetected t path ∈ w.validationErrors) : w.SimpleCycle t path := by
  obtain ⟨u, body, heq, hhead, hnodup, hchain⟩ :=
    isSimpleCycle_of_mem (mem_validationErrors_cycleDetected.mp h)
  obtain ⟨rfl, rfl⟩ := ValidationError.cycleDetected.inj heq
  obtain ⟨a, body, rfl⟩ := List.exists_cons_of_ne_nil fun hnil : body = [] => by simp [hnil] at hhead
  exact ⟨by simp, by simpa using hhead, List.getLast?_concat, hchain, by rwa [List.dropLast_concat]⟩

/-- The other checks report no cycles. -/
theorem exists_validationErrors_eq (w : Workflow) : ∃ others,
    w.validationErrors = w.cycleErrors ++ others ∧ ∀ t path, .cycleDetected t path ∉ others := by
  refine ⟨w.referenceErrors ++ w.requirementErrors ++ w.budgetErrors, by simp [validationErrors], ?_⟩
  intro t path hmem
  rcases List.mem_append.mp hmem with hmem | hmem
  · rcases List.mem_append.mp hmem with hmem | hmem
    · rw [mem_referenceErrors_iff] at hmem
      simp at hmem
    · obtain ⟨_, _, heq⟩ := exists_of_mem_requirementErrors hmem
      cases heq
  · obtain ⟨_, _, heq⟩ := exists_of_mem_budgetErrors hmem
    cases heq

/-- **The reports of cycles are genuine, distinct and sufficient.** Every reported path is a simple
    cycle from its task back to it; no two are rotations of the same one; and every cycle of the known
    graph contains the last edge of some reported path. Without these edges validation reports no
    cycle. -/
theorem reported_cycles_cover (w : Workflow) :
    (∀ t path, .cycleDetected t path ∈ w.validationErrors → w.SimpleCycle t path) ∧
    (w.validationErrors.Pairwise fun e e' => ∀ t path t' path', e = .cycleDetected t path →
      e' = .cycleDetected t' path' → ¬ path.dropLast.IsRotated path'.dropLast) ∧
    (∀ t ts, (t :: (ts ++ [t])).IsChain w.WaitsFor →
      ∃ edge ∈ w.closingEdges, [edge.1, edge.2] <:+: t :: (ts ++ [t])) ∧
    ∀ t path, .cycleDetected t path ∉ w.cutOpen.validationErrors := by
  refine ⟨fun t path => simpleCycle_of_mem, ?_, fun t ts hcycle => ?_, fun t path hmem => ?_⟩
  · obtain ⟨others, heq, hothers⟩ := exists_validationErrors_eq w
    rw [heq]
    refine List.pairwise_append.mpr ⟨apart_cycleErrors w, ?_, ?_⟩
    · refine List.pairwise_of_forall_mem_list fun e he e' _ t path _ _ hcycle => ?_
      exact absurd (hcycle ▸ he) (hothers t path)
    · intro e _ e' he' t path t' path' _ hcycle
      exact absurd (hcycle ▸ he') (hothers t' path')
  · obtain ⟨a, b, hr, hinfix⟩ := exists_closing_edge hcycle
    exact ⟨(a, b), mem_closingEdges_iff.mpr hr, hinfix⟩
  · exact not_cyclic_cutOpen w (cycleDetected_iff_cyclic.mp ⟨t, path, hmem⟩)

/-- Three tasks that wait for each other in a ring, and a short cut in it. -/
def knot : Workflow :=
  ((({ id := "knot", name := "Knot" } : Workflow).addTask { id := "a", name := "A" } ["b"]).addTask
    { id := "b", name := "B" } ["c"]).addTask { id := "c", name := "C" } ["a", "b"]

/-- Two cycles share an edge, and each is closed by one of its own. -/
example : knot.cycleErrors = [.cycleDetected "a" ["a", "b", "c", "a"], .cycleDetected "b" ["b", "c", "b"]] ∧
    knot.closingEdges = [("c", "a"), ("c", "b")] ∧ knot.cutOpen.cycleErrors = [] := by
  decide +kernel

end Workflow

end Foreman
