import Foreman.Proofs.Depths

/-!
# `Foreman.Proofs.ReleaseOrder` — the topological order is that of releases

A task is released when the last of its dependencies is placed, and tasks are placed in the order of their
release. So the order is determined by an equation of its own: the roots come first, and everything else is
sorted by where its last dependency stands (`InReleaseOrder`). The lists of that shape are the ones that are
sorted by `releaseTime`, with zero for a root (`inReleaseOrder_iff`).

The invariant of the procedure is that what is placed, followed by what is released, is sorted that way
(`sorted_run`): whatever a round releases has just got its last dependency, and so comes after all that was
released before.

What else is said of the order follows from its shape. It is a topological one (`InReleaseOrder.ordered`), no
other list has it (`InReleaseOrder.unique`), and the levels never mix in it (`InReleaseOrder.byWholeLevels`).
-/

namespace Foreman

open Workflow

variable {w : Workflow} {t u d a b : TaskId} {order order' placed : List TaskId} {m n : Nat}

/-! ## The shape -/

/-- The tasks that wait for no declared one, in the order of their declaration. -/
def roots (w : Workflow) : List TaskId :=
  (distinct w.taskIds).filter fun t => ((Graph.ofWorkflow w).dependenciesOf t).isEmpty

/-- Where that dependency of a task stands that comes last. -/
def lastWait (w : Workflow) (order : List TaskId) (t : TaskId) : Nat :=
  greatest (((Graph.ofWorkflow w).dependenciesOf t).map order.idxOf)

/-- The last dependency of `a` comes earlier than that of `b`; or it is the same, and `a` is declared
    first. -/
def WaitsLess (w : Workflow) (order : List TaskId) (a b : TaskId) : Prop :=
  lastWait w order a < lastWait w order b ∨
    lastWait w order a = lastWait w order b ∧ w.taskIds.idxOf a < w.taskIds.idxOf b

/-- **The order of releases**: first the roots as they are declared, and then all others by their last
    dependency. -/
structure InReleaseOrder (w : Workflow) (order : List TaskId) : Prop where
  perm : order.Perm (distinct w.taskIds)
  shape : ∃ rest, order = roots w ++ rest ∧ rest.Pairwise (WaitsLess w order)

/-! ## The greatest of some numbers -/

theorem greatest_le_iff {ns : List Nat} : greatest ns ≤ n ↔ ∀ m ∈ ns, m ≤ n := by
  constructor
  · exact fun h m hm => Nat.le_trans (le_greatest hm) h
  · intro h
    rcases greatest_eq_zero_or_mem ns with hzero | hmem
    · exact hzero ▸ Nat.zero_le n
    · exact h _ hmem

theorem greatest_map_succ {ns : List Nat} (h : ns ≠ []) :
    greatest (ns.map (· + 1)) = greatest ns + 1 := by
  apply Nat.le_antisymm
  · refine greatest_le_iff.mpr fun m hm => ?_
    obtain ⟨n, hn, rfl⟩ := List.mem_map.mp hm
    exact Nat.succ_le_succ (le_greatest hn)
  · rcases greatest_eq_zero_or_mem ns with hzero | hmem
    · obtain ⟨n, hn⟩ := List.exists_mem_of_ne_nil ns h
      rw [hzero]
      exact Nat.le_trans (Nat.le_add_left 1 n) (le_greatest (List.mem_map_of_mem hn))
    · exact le_greatest (List.mem_map_of_mem hmem)

/-! ## Release times -/

/-- How many tasks are placed when a task is released: all up to its last dependency. -/
def releaseTime (w : Workflow) (order : List TaskId) (t : TaskId) : Nat :=
  greatest (((Graph.ofWorkflow w).dependenciesOf t).map fun d => order.idxOf d + 1)

/-- `a` is released before `b`, or with it and is declared first. -/
def ReleasedBefore (w : Workflow) (order : List TaskId) (a b : TaskId) : Prop :=
  releaseTime w order a < releaseTime w order b ∨
    releaseTime w order a = releaseTime w order b ∧ w.taskIds.idxOf a < w.taskIds.idxOf b

theorem releaseTime_le_iff : releaseTime w order t ≤ n ↔ ∀ d, w.WaitsFor t d → order.idxOf d < n := by
  rw [releaseTime, greatest_le_iff, List.forall_mem_map]
  exact forall_congr' fun d => imp_congr_left mem_dependenciesOf_iff

theorem idxOf_lt_releaseTime (h : w.WaitsFor t d) : order.idxOf d < releaseTime w order t :=
  releaseTime_le_iff.mp (Nat.le_refl _) d h

theorem releaseTime_of_root (h : ((Graph.ofWorkflow w).dependenciesOf t).isEmpty = true) :
    releaseTime w order t = 0 := by
  rw [releaseTime, List.isEmpty_iff.mp h]
  rfl

theorem releaseTime_of_not_root (h : ((Graph.ofWorkflow w).dependenciesOf t).isEmpty ≠ true) :
    releaseTime w order t = lastWait w order t + 1 := by
  rw [releaseTime, lastWait, ← greatest_map_succ fun hnil => h (by simpa using hnil), List.map_map]
  rfl

/-- Only a root is released before anything is placed; all others have a last dependency. -/
theorem releaseTime_eq_zero_or_succ (w : Workflow) (order : List TaskId) (t : TaskId) :
    releaseTime w order t = 0 ∨ ∃ d, w.WaitsFor t d ∧ releaseTime w order t = order.idxOf d + 1 := by
  refine (greatest_eq_zero_or_mem _).imp_right fun hmem => ?_
  obtain ⟨d, hd, heq⟩ := List.mem_map.mp hmem
  exact ⟨d, mem_dependenciesOf_iff.mp hd, heq.symm⟩

theorem releaseTime_congr (h : ∀ d, w.WaitsFor t d → order.idxOf d = order'.idxOf d) :
    releaseTime w order t = releaseTime w order' t := by
  have hmap := List.map_congr_left (l := (Graph.ofWorkflow w).dependenciesOf t)
    (f := fun d => order.idxOf d + 1) (g := fun d => order'.idxOf d + 1)
    fun d hd => congrArg (· + 1) (h d (mem_dependenciesOf_iff.mp hd))
  rw [releaseTime, hmap, releaseTime]

/-- What comes after all dependencies of a task does not change when it is released. -/
theorem releaseTime_append (h : ∀ d, w.WaitsFor t d → d ∈ placed) (after : List TaskId) :
    releaseTime w (placed ++ after) t = releaseTime w placed t :=
  releaseTime_congr fun d hd => List.idxOf_append_of_mem (h d hd)

/-- Whose last dependency is placed just now is released when all up to there are placed. -/
theorem releaseTime_snoc (hnot : t ∉ placed) (hwaits : w.WaitsFor u t)
    (hall : ∀ d, w.WaitsFor u d → d ∈ placed ++ [t]) :
    releaseTime w (placed ++ [t]) u = placed.length + 1 := by
  apply Nat.le_antisymm
  · refine releaseTime_le_iff.mpr fun d hd => ?_
    simpa using List.idxOf_lt_length_of_mem (hall d hd)
  · have hlast : (placed ++ [t]).idxOf t = placed.length := by simp [List.idxOf_append_of_notMem hnot]
    exact hlast ▸ idxOf_lt_releaseTime hwaits

/-! ## Lists in the order of releases -/

/-- What is in order with respect to a property falls into two parts. -/
theorem eq_filter_append_filter {α : Type} {p : α → Bool} {xs : List α}
    (h : xs.Pairwise fun a b => p b = true → p a = true) :
    xs = xs.filter p ++ xs.filter fun a => !p a := by
  induction xs with
  | nil => rfl
  | cons x xs ih =>
      rw [List.pairwise_cons] at h
      cases hx : p x with
      | true => simpa [hx] using ih h.2
      | false =>
          -- nothing after it has the property either
          have hnone : ∀ a ∈ xs, p a = false := fun a ha =>
            Bool.eq_false_iff.mpr fun hp => Bool.noConfusion (hx.symm.trans (h.1 a ha hp))
          have hfirst : xs.filter p = [] := List.filter_eq_nil_iff.mpr fun a ha => by simp [hnone a ha]
          have hsecond : xs.filter (fun a => !p a) = xs :=
            List.filter_eq_self.mpr fun a ha => by simp [hnone a ha]
          simp [hx, hfirst, hsecond]

/-- Declared tasks are told apart by where they are first declared. -/
theorem eq_of_pairwise_declared {ts us : List TaskId} (hperm : ts.Perm us)
    (hts : ts.Pairwise fun a b => w.taskIds.idxOf a < w.taskIds.idxOf b)
    (hus : us.Pairwise fun a b => w.taskIds.idxOf a < w.taskIds.idxOf b) : ts = us :=
  List.Perm.eq_of_pairwise (fun _ _ _ _ hab hba => absurd hab (Nat.lt_asymm hba)) hts hus hperm

/-- **The order of releases is the one sorted by release times.** -/
theorem inReleaseOrder_iff : InReleaseOrder w order ↔
    order.Perm (distinct w.taskIds) ∧ order.Pairwise (ReleasedBefore w order) := by
  have hroots := (pairwise_idxOf_distinct w.taskIds).filter
    fun t => ((Graph.ofWorkflow w).dependenciesOf t).isEmpty
  constructor
  · rintro ⟨hperm, rest, heq, hrest⟩
    have hnodup : (roots w ++ rest).Nodup := heq ▸ hperm.nodup_iff.mpr (nodup_distinct _)
    have htime : ∀ a ∈ roots w, releaseTime w order a = 0 := fun a ha =>
      releaseTime_of_root (List.mem_filter.mp ha).2
    -- all roots stand in front
    have hlater : ∀ b ∈ rest, releaseTime w order b = lastWait w order b + 1 := by
      refine fun b hb => releaseTime_of_not_root fun hroot => ?_
      have hdeclared : b ∈ distinct w.taskIds :=
        hperm.mem_iff.mp (heq ▸ List.mem_append_right _ hb)
      exact (List.nodup_append.mp hnodup).2.2 b (List.mem_filter.mpr ⟨hdeclared, hroot⟩) b hb rfl
    have hpair : (roots w ++ rest).Pairwise (ReleasedBefore w order) := by
      refine List.pairwise_append.mpr ⟨?_, ?_, fun a ha b hb => Or.inl ?_⟩
      · exact List.Pairwise.imp_of_mem
          (fun ha hb hlt => Or.inr ⟨(htime _ ha).trans (htime _ hb).symm, hlt⟩) hroots
      · refine List.Pairwise.imp_of_mem (fun ha hb hless => ?_) hrest
        rw [ReleasedBefore, hlater _ ha, hlater _ hb]
        exact hless.imp Nat.succ_lt_succ (And.imp_left (congrArg Nat.succ))
      · rw [htime a ha, hlater b hb]
        exact Nat.succ_pos _
    exact ⟨hperm, heq.symm ▸ heq ▸ hpair⟩
  · rintro ⟨hperm, hpair⟩
    have hsplit := eq_filter_append_filter
      (p := fun t => ((Graph.ofWorkflow w).dependenciesOf t).isEmpty) <| hpair.imp fun {a b} hab hb => by
        rw [ReleasedBefore, releaseTime_of_root hb] at hab
        refine Classical.byContradiction fun ha => ?_
        rw [releaseTime_of_not_root ha] at hab
        omega
    have hfirst : (order.filter fun t => ((Graph.ofWorkflow w).dependenciesOf t).isEmpty) = roots w := by
      refine eq_of_pairwise_declared (hperm.filter _) ?_ hroots
      refine List.Pairwise.imp_of_mem (fun {a b} ha hb hab => ?_) (hpair.filter _)
      rw [ReleasedBefore, releaseTime_of_root (List.mem_filter.mp ha).2,
        releaseTime_of_root (List.mem_filter.mp hb).2] at hab
      omega
    rw [hfirst] at hsplit
    refine ⟨hperm, _, hsplit, List.Pairwise.imp_of_mem (fun {a b} ha hb hab => ?_) (hpair.filter _)⟩
    have hnot : ∀ c ∈ order.filter (fun t => !((Graph.ofWorkflow w).dependenciesOf t).isEmpty),
        ((Graph.ofWorkflow w).dependenciesOf c).isEmpty ≠ true := fun c hc => by
      simpa using (List.mem_filter.mp hc).2
    rw [ReleasedBefore, releaseTime_of_not_root (hnot a ha), releaseTime_of_not_root (hnot b hb)] at hab
    exact hab.imp Nat.lt_of_succ_lt_succ (And.imp_left Nat.succ.inj)

/-! ## The procedure -/

namespace Release

variable {r : Release} {us due : List TaskId}

/-- What is placed or released waits for placed tasks only. -/
theorem Sound.waits_placed (h : Sound w [] r) (ht : t ∈ r.placed ++ r.ready) (hd : w.WaitsFor t d) :
    d ∈ r.placed := by
  have hzero : openCount w r.placed t = 0 := by simpa using ((h.released t).mp ht).2
  exact openCount_eq_zero_iff.mp hzero d hd

theorem Sound.ready_drop (h : Sound w (u :: due) r) (hu : u ∈ w.taskIds) :
    (Release.drop r u).ready = r.ready ++ [u].filter fun u => openCount w r.placed u = 0 := by
  simp only [Release.drop, h.find?_of_due hu (List.mem_cons_self ..), Nat.add_sub_cancel]
  by_cases hz : openCount w r.placed u = 0 <;> simp [hz]

/-- Dropping the dependents of a placed task releases those that miss nothing else, in their order. -/
theorem Sound.ready_foldl_drop (h : Sound w (us ++ due) r) (hnodup : (us ++ due).Nodup)
    (hsub : us ⊆ w.taskIds) :
    (us.foldl Release.drop r).ready = r.ready ++ us.filter fun u => openCount w r.placed u = 0 := by
  induction us generalizing r with
  | nil => simp
  | cons u us ih =>
      rw [List.cons_append, List.nodup_cons] at hnodup
      have hu : u ∈ w.taskIds := hsub (List.mem_cons_self ..)
      have hplaced : (Release.drop r u).placed = r.placed := placed_foldl_drop [u] r
      rw [List.foldl_cons, ih (h.drop hu hnodup.1) hnodup.2 fun a ha => hsub (List.mem_cons_of_mem u ha),
        h.ready_drop hu, hplaced, List.append_assoc, ← List.filter_append, List.singleton_append]

/-- Dependents are listed as they are declared. -/
theorem pairwise_dependentsOf (w : Workflow) (t : TaskId) : ((Graph.ofWorkflow w).dependentsOf t).Pairwise
    fun a b => w.taskIds.idxOf a < w.taskIds.idxOf b :=
  (pairwise_idxOf_distinct w.taskIds).sublist (Graph.dependentsOf_sublist w t)

/-- What is placed and what is released stand in the order of releases. -/
def Sorted (w : Workflow) (r : Release) : Prop :=
  (r.placed ++ r.ready).Pairwise (ReleasedBefore w r.placed)

theorem sorted_start (w : Workflow) : Sorted w (start (Graph.ofWorkflow w)) := by
  refine List.Pairwise.imp_of_mem (fun {a b} ha hb hlt => Or.inr ⟨?_, hlt⟩)
    ((pairwise_idxOf_distinct w.taskIds).filter _)
  rw [releaseTime_of_root (List.mem_filter.mp ha).2, releaseTime_of_root (List.mem_filter.mp hb).2]

/-- **One round keeps the order.** The tasks that it releases got their last dependency just now. -/
theorem Sorted.next (h : Sorted w r) (hs : Sound w [] r) :
    Sorted w (next (Graph.ofWorkflow w) r) := by
  unfold Release.next
  split
  · exact h
  · next t rest hready =>
      have hnew := hs.place hready
      rw [← List.append_nil ((Graph.ofWorkflow w).dependentsOf t)] at hnew
      have hcat : (r.placed ++ [t]) ++ rest = r.placed ++ r.ready := by simp [hready]
      have hnotin : t ∉ r.placed := fun hmem =>
        (List.nodup_append.mp hs.nodup).2.2 t hmem t (by simp [hready]) rfl
      rw [Sorted, placed_foldl_drop, hnew.ready_foldl_drop (by simpa using nodup_dependentsOf w t)
        (dependentsOf_subset w t), ← List.append_assoc, hcat]
      -- release times of what was there already stay, and lie within the old list
      have hold : ∀ a ∈ r.placed ++ r.ready,
          releaseTime w (r.placed ++ [t]) a = releaseTime w r.placed a :=
        fun a ha => releaseTime_append (fun d hd => hs.waits_placed ha hd) [t]
      have hle : ∀ a ∈ r.placed ++ r.ready, releaseTime w (r.placed ++ [t]) a ≤ r.placed.length := by
        intro a ha
        rw [hold a ha]
        exact releaseTime_le_iff.mpr fun d hd => List.idxOf_lt_length_of_mem (hs.waits_placed ha hd)
      -- and the new ones have waited for the task that is placed in this round
      have hfresh : ∀ u ∈ ((Graph.ofWorkflow w).dependentsOf t).filter
          (fun u => openCount w (r.placed ++ [t]) u = 0),
          releaseTime w (r.placed ++ [t]) u = r.placed.length + 1 := by
        intro u hu
        obtain ⟨hdep, hzero⟩ := List.mem_filter.mp hu
        exact releaseTime_snoc hnotin (mem_dependentsOf_iff.mp hdep)
          (openCount_eq_zero_iff.mp (of_decide_eq_true hzero))
      refine List.pairwise_append.mpr ⟨?_, ?_, fun a ha b hb => Or.inl ?_⟩
      · refine List.Pairwise.imp_of_mem (fun ha hb hab => ?_) h
        rwa [ReleasedBefore, hold _ ha, hold _ hb]
      · exact List.Pairwise.imp_of_mem
          (fun ha hb hlt => Or.inr ⟨(hfresh _ ha).trans (hfresh _ hb).symm, hlt⟩)
          ((pairwise_dependentsOf w t).filter _)
      · rw [hfresh b hb]
        exact Nat.lt_succ_of_le (hle a ha)

theorem sorted_run (w : Workflow) (k : Nat) :
    Sorted w (run (Graph.ofWorkflow w) k (start (Graph.ofWorkflow w))) := by
  have key : ∀ r, Sound w [] r → Sorted w r → Sorted w (run (Graph.ofWorkflow w) k r) := by
    induction k with
    | zero => exact fun _ _ h => h
    | succ k ih => exact fun r hs h => ih _ hs.next (h.next hs)
  exact key _ (sound_start w) (sorted_start w)

end Release

/-- Without cycles the order is that of releases. -/
theorem inReleaseOrder_final (h : ¬ w.Cyclic) : InReleaseOrder w (Release.final w).placed := by
  have horder := isOrder_of_topologicalOrder (topologicalOrder_of_not_cyclic h)
  have hsorted := Release.sorted_run w (Graph.ofWorkflow w).size
  rw [Release.Sorted, show (Release.run _ _ _).ready = [] from Release.ready_final w,
    List.append_nil] at hsorted
  refine inReleaseOrder_iff.mpr ⟨?_, hsorted⟩
  exact (List.perm_ext_iff_of_nodup horder.nodup (nodup_distinct _)).mpr fun t =>
    (horder.mem_iff t).trans mem_distinct.symm

/-! ## What the shape implies -/

namespace InReleaseOrder

/-- Release times do not decrease along the order. -/
theorem releaseTime_le (h : InReleaseOrder w order) (hb : b ∈ order)
    (hab : order.idxOf a ≤ order.idxOf b) : releaseTime w order a ≤ releaseTime w order b := by
  have hidx := List.idxOf_lt_length_of_mem hb
  rcases Nat.lt_or_eq_of_le hab with hlt | heq
  · have hbefore := List.pairwise_iff_getElem.mp (inReleaseOrder_iff.mp h).2 (order.idxOf a)
      (order.idxOf b) (Nat.lt_trans hlt hidx) hidx hlt
    rw [List.getElem_idxOf, List.getElem_idxOf] at hbefore
    exact hbefore.elim Nat.le_of_lt fun heq => Nat.le_of_eq heq.1
  · have hsame : a = b := (List.idxOf_inj (List.idxOf_lt_length_iff.mp (heq ▸ hidx))).mp heq
    exact Nat.le_of_eq (congrArg _ hsame)

theorem mem_iff (h : InReleaseOrder w order) (t : TaskId) : t ∈ order ↔ t ∈ w.taskIds :=
  h.perm.mem_iff.trans mem_distinct

theorem nodup (h : InReleaseOrder w order) : order.Nodup := h.perm.nodup_iff.mpr (nodup_distinct _)

/-- **Every task stands behind its dependencies.** From one that does not, the last dependency would
    lead further and further back: it is not released earlier, so its own last dependency stands behind
    it too. -/
theorem releaseTime_le_idxOf (h : InReleaseOrder w order) (hacyc : ¬ w.Cyclic) (ht : t ∈ order) :
    releaseTime w order t ≤ order.idxOf t := by
  refine Classical.byContradiction fun hlate => ?_
  generalize hn : order.length - order.idxOf t = n
  induction n using Nat.strongRecOn generalizing t with
  | _ n ih =>
      rcases releaseTime_eq_zero_or_succ w order t with hzero | ⟨d, hd, hlast⟩
      · omega
      · have hdmem : d ∈ order := (h.mem_iff d).mpr hd.2.1
        have hidx := List.idxOf_lt_length_of_mem hdmem
        have hne : order.idxOf t ≠ order.idxOf d := fun heq => by
          obtain rfl : t = d := (List.idxOf_inj ht).mp heq
          exact hacyc ⟨t, .single hd⟩
        have hle := h.releaseTime_le hdmem (a := t) (by omega)
        exact ih _ (by omega) hdmem (by omega) rfl

theorem ordered (h : InReleaseOrder w order) (hacyc : ¬ w.Cyclic) : Ordered w order := by
  rintro before t after rfl d hd
  have hnotin : t ∉ before := fun hmem =>
    (List.nodup_append.mp h.nodup).2.2 t hmem t (List.mem_cons_self ..) rfl
  have hbehind := h.releaseTime_le_idxOf hacyc (t := t) (by simp)
  have hlt := Nat.lt_of_lt_of_le (idxOf_lt_releaseTime hd) hbehind
  rw [List.idxOf_append_of_notMem hnotin, List.idxOf_cons_self, Nat.add_zero] at hlt
  refine Classical.byContradiction fun hmem => ?_
  rw [List.idxOf_append_of_notMem hmem] at hlt
  omega

theorem isOrder (h : InReleaseOrder w order) (hacyc : ¬ w.Cyclic) : IsOrder w order :=
  ⟨h.nodup, h.mem_iff, h.ordered hacyc⟩

/-- Of two tasks that wait for tasks in front of both only, the one that comes first is released first. -/
theorem releasedBefore (h : InReleaseOrder w order) {common after : List TaskId}
    (heq : order = common ++ a :: after) (hb : b ∈ after) (ha : ∀ d, w.WaitsFor a d → d ∈ common)
    (hb' : ∀ d, w.WaitsFor b d → d ∈ common) : ReleasedBefore w common a b := by
  have hpair := (inReleaseOrder_iff.mp h).2
  rw [heq, List.pairwise_append] at hpair
  have hab := List.rel_of_pairwise_cons hpair.2.1 hb
  rwa [ReleasedBefore, releaseTime_append ha, releaseTime_append hb'] at hab

/-- **There is only one list in the order of releases.** At the first difference both tasks have all
    their dependencies in the common part, so both lists agree on which of the two comes first. -/
theorem unique (h : InReleaseOrder w order) (h' : InReleaseOrder w order') (hacyc : ¬ w.Cyclic) :
    order' = order := by
  have hord := h.ordered hacyc
  have hord' := h'.ordered hacyc
  have hperm : order.Perm order' := h.perm.trans h'.perm.symm
  have key : ∀ xs common ys, order = common ++ xs → order' = common ++ ys → ys = xs := by
    intro xs
    induction xs with
    | nil =>
        rintro common ys rfl rfl
        exact List.perm_nil.mp ((List.perm_append_left_iff common).mp hperm).symm
    | cons a xs ih =>
        intro common ys heq heq'
        have hrest : (a :: xs).Perm ys := by
          rw [heq, heq'] at hperm
          exact (List.perm_append_left_iff common).mp hperm
        cases ys with
        | nil => exact absurd hrest.length_eq (by simp)
        | cons b ys =>
            obtain rfl : a = b := by
              refine Classical.byContradiction fun hne => ?_
              have hb : b ∈ xs :=
                (List.mem_cons.mp (hrest.mem_iff.mpr (List.mem_cons_self ..))).resolve_left (Ne.symm hne)
              have ha : a ∈ ys :=
                (List.mem_cons.mp (hrest.mem_iff.mp (List.mem_cons_self ..))).resolve_left hne
              have hta := hord common a xs heq
              have htb := hord' common b ys heq'
              have hab := h.releasedBefore heq hb hta htb
              have hba := h'.releasedBefore heq' ha htb hta
              rw [ReleasedBefore] at hab hba
              omega
            rw [ih (common ++ [a]) ys (by simp [heq]) (by simp [heq'])]
  exact key order [] order' rfl rfl

/-- **The levels do not decrease along the order.** A task above level zero has a dependency one level
    below, and whatever comes later waits for that one too or for something behind it. -/
theorem numberOf_le (h : InReleaseOrder w order) (hacyc : ¬ w.Cyclic) (ha : a ∈ order) (hb : b ∈ order)
    (hab : order.idxOf a ≤ order.idxOf b) : numberOf w order a ≤ numberOf w order b := by
  have horder := h.isOrder hacyc
  generalize hn : order.idxOf b = n at hab
  induction n using Nat.strongRecOn generalizing a b with
  | _ n ih =>
      obtain ⟨i, hi, -⟩ := exists_number horder.nodup horder.ordered ha
      rcases number_eq_zero_or_succ horder.nodup horder.ordered ha hi with rfl | ⟨d, m, hd, rfl, hm⟩
      · rw [numberOf, hi]
        exact Nat.zero_le _
      · have htime := h.releaseTime_le hb (hn ▸ hab)
        have hbehind := h.releaseTime_le_idxOf hacyc hb
        have hwait : order.idxOf d < releaseTime w order a := idxOf_lt_releaseTime hd
        rcases releaseTime_eq_zero_or_succ w order b with hzero | ⟨d', hd', hlast⟩
        · omega
        · have hle := ih (order.idxOf d') (by omega) ((h.mem_iff d).mpr hd.2.1)
            ((h.mem_iff d').mpr hd'.2.1) rfl (by omega)
          have hlt := stratified_numberOf horder b d' hd'
          rw [numberOf, hm, Option.getD_some] at hle
          rw [numberOf, hi, Option.getD_some]
          omega

end InReleaseOrder

/-! ## Whole levels -/

/-- **An order that lists one level after another.** -/
structure ByWholeLevels (levels : List Level) (order : List TaskId) : Prop where
  ascending : order.Pairwise fun a b => ∀ level ∈ levels, ∀ later ∈ levels,
    a ∈ level.tasks → b ∈ later.tasks → level.index ≤ later.index
  whole : order = levels.flatMap fun level => order.filter (· ∈ level.tasks)
  complete : ∀ level ∈ levels, (order.filter (· ∈ level.tasks)).Perm level.tasks

/-- What is sorted by a key falls into its parts of one key each. -/
theorem eq_flatMap_range {α : Type} {key : α → Nat} {xs : List α}
    (h : xs.Pairwise fun a b => key a ≤ key b) (hlt : ∀ a ∈ xs, key a < n) :
    xs = (List.range n).flatMap fun i => xs.filter (key · = i) := by
  induction n generalizing xs with
  | zero =>
      rw [List.eq_nil_iff_forall_not_mem.mpr fun a ha => Nat.not_lt_zero _ (hlt a ha)]
      rfl
  | succ n ih =>
      have hsplit := eq_filter_append_filter (p := fun a => decide (key a < n)) <|
        h.imp fun hab hb => by simpa using Nat.lt_of_le_of_lt hab (of_decide_eq_true hb)
      have hlow := ih (h.filter fun a => decide (key a < n)) fun a ha => by
        simpa using (List.mem_filter.mp ha).2
      have hparts : ∀ i ∈ List.range n, (xs.filter fun a => decide (key a < n)).filter (key · = i) =
          xs.filter (key · = i) := by
        intro i hi
        rw [List.filter_filter]
        refine List.filter_congr fun a _ => ?_
        have := List.mem_range.mp hi
        by_cases hkey : key a = i <;> simp [hkey, this]
      have hhigh : (xs.filter fun a => !decide (key a < n)) = xs.filter (key · = n) := by
        refine List.filter_congr fun a ha => ?_
        have := hlt a ha
        by_cases hkey : key a = n
        · simp [hkey]
        · simp [hkey, show key a < n by omega]
      rw [List.range_succ, List.flatMap_append, List.flatMap_singleton, ← hhigh,
        ← List.flatMap_congr hparts, ← hlow]
      exact hsplit

theorem InReleaseOrder.byWholeLevels (h : InReleaseOrder w order) (hacyc : ¬ w.Cyclic)
    (mode : ExecutionMode) :
    ByWholeLevels (computeLevels (Graph.ofWorkflow w) order mode) order := by
  have horder := h.isOrder hacyc
  have hnumber : ∀ level ∈ computeLevels (Graph.ofWorkflow w) order mode, ∀ t ∈ order,
      (t ∈ level.tasks ↔ numberOf w order t = level.index) := by
    intro level hlevel t ht
    obtain ⟨i, hi, -⟩ := exists_number horder.nodup horder.ordered ht
    rw [mem_level_iff hlevel, numberOf, hi, Option.getD_some, Option.some_inj]
    exact and_iff_right ((h.mem_iff t).mp ht)
  have hsorted : order.Pairwise fun a b => numberOf w order a ≤ numberOf w order b := by
    refine List.pairwise_iff_getElem.mpr fun i j hi hj hij => ?_
    refine h.numberOf_le hacyc (List.getElem_mem hi) (List.getElem_mem hj) ?_
    rw [h.nodup.idxOf_getElem, h.nodup.idxOf_getElem]
    exact Nat.le_of_lt hij
  refine ⟨?_, ?_, fun level hlevel => ?_⟩
  · refine List.Pairwise.imp_of_mem (fun ha hb hab level hlevel later hlater hmem hmem' => ?_) hsorted
    rwa [← (hnumber level hlevel _ ha).mp hmem, ← (hnumber later hlater _ hb).mp hmem']
  · have hlt : ∀ t ∈ order,
        numberOf w order t < (computeLevels (Graph.ofWorkflow w) order mode).length := by
      intro t ht
      obtain ⟨i, hi, -⟩ := exists_number horder.nodup horder.ordered ht
      obtain ⟨level, hlevel, rfl⟩ :
          ∃ level ∈ computeLevels (Graph.ofWorkflow w) order mode, level.index = i := exists_level hi
      rw [numberOf, hi, Option.getD_some, ← List.mem_range, ← index_computeLevels]
      exact List.mem_map_of_mem hlevel
    have hrange := eq_flatMap_range hsorted hlt
    rw [← index_computeLevels, List.flatMap_map] at hrange
    refine hrange.trans (List.flatMap_congr fun level hlevel => List.filter_congr fun t ht => ?_)
    exact decide_eq_decide.mpr (hnumber level hlevel t ht).symm
  · refine (List.perm_ext_iff_of_nodup (h.nodup.filter _) (nodup_tasks hlevel)).mpr fun t => ?_
    rw [List.mem_filter, decide_eq_true_iff, h.mem_iff]
    exact and_iff_right_of_imp fun ht => ((mem_level_iff hlevel).mp ht).1

/-! ## The result -/

/-- **The topological order is the order of releases.** Without a cycle there is an order: of all
    declared ids, first those without dependencies, as they are declared, and then the others by where
    their last dependency stands and by declaration. No other list has that shape. So every dependency
    stands before what waits for it, and the order lists whole levels one after another. -/
theorem topologicalOrder_follows_releases (h : ¬ w.Cyclic) (mode : ExecutionMode) :
    ∃ order, (Graph.ofWorkflow w).topologicalOrder = .ok order ∧ InReleaseOrder w order ∧
      (∀ order', InReleaseOrder w order' → order' = order) ∧ Ordered w order ∧
        ByWholeLevels (computeLevels (Graph.ofWorkflow w) order mode) order := by
  have hrelease := inReleaseOrder_final h
  exact ⟨_, topologicalOrder_of_not_cyclic h, hrelease, fun order' h' => hrelease.unique h' h,
    hrelease.ordered h, hrelease.byWholeLevels h mode⟩

/-- Two tasks that wait for two others, declared before them and crosswise. -/
def crossing : Workflow :=
  (((({ id := "crossing", name := "Crossing" } : Workflow).addTask
    { id := "c", name := "C" } ["b"]).addTask { id := "d", name := "D" } ["a"]).addTask
    { id := "a", name := "A" } []).addTask { id := "b", name := "B" } []

/-- The one whose dependency comes first is released first, although it is declared second. -/
theorem topologicalOrder_follows_releases_crossing :
    ¬ crossing.Cyclic ∧ ∃ order, (Graph.ofWorkflow crossing).topologicalOrder = .ok order ∧
      order = ["a", "b", "d", "c"] ∧ roots crossing = ["a", "b"] ∧ InReleaseOrder crossing order ∧
      (computeLevels (Graph.ofWorkflow crossing) order .parallel).map Level.tasks =
        [["a", "b"], ["c", "d"]] ∧
      ByWholeLevels (computeLevels (Graph.ofWorkflow crossing) order .parallel) order := by
  have horder : (Graph.ofWorkflow crossing).topologicalOrder = .ok ["a", "b", "d", "c"] := rfl
  have hacyc := (isOrder_of_topologicalOrder horder).acyclic
  obtain ⟨order, heq, hrelease, -, -, hlevels⟩ := topologicalOrder_follows_releases hacyc .parallel
  obtain rfl : ["a", "b", "d", "c"] = order := Except.ok.inj (horder.symm.trans heq)
  exact ⟨hacyc, _, heq, rfl, rfl, hrelease, by decide +kernel, hlevels⟩

end Foreman
