import Foreman.Proofs.CycleAgreement

/-!
# `Foreman.Proofs.Adjacency` — the two adjacency lists of a graph are inverse to each other

A node keeps what its task waits for and what waits for it. The first list is made at one go, the second
one grows while other tasks are wired up, and a task that waits for itself is in both. `InverseLists` says
that they come to the same in the end, whatever the workflow declares twice, leaves undeclared or lets
wait in a circle.

Ordering lives on that. It counts along the first list how much a task waits for, and counts down along
the second one: `drops` is how often the count of a task is lowered when some tasks are placed. At every
moment of the procedure the count and the drops so far make up the number of dependencies
(`openCount_add_drops`), and with all tasks placed nothing is left of it (`drops_tasks`).
-/

namespace Foreman

open Workflow

variable {w : Workflow} {t : TaskId} {ts placed : List TaskId}

/-! ## Lists in declaration order -/

/-- **Ids in the order of their first declaration**, each once. -/
structure InDeclarationOrder (w : Workflow) (ts : List TaskId) : Prop where
  nodup : ts.Nodup
  sorted : ts.Pairwise fun a b => w.taskIds.idxOf a < w.taskIds.idxOf b

theorem InDeclarationOrder.of_sublist (h : ts.Sublist (distinct w.taskIds)) :
    InDeclarationOrder w ts :=
  ⟨(nodup_distinct _).sublist h, (pairwise_idxOf_distinct _).sublist h⟩

/-- **What the adjacency lists of a graph are to each other and to the workflow.** -/
structure InverseLists (w : Workflow) (g : Graph) : Prop where
  tasks : InDeclarationOrder w g.tasks
  mem_tasks_iff : ∀ t, t ∈ g.tasks ↔ t ∈ w.taskIds
  inverse : ∀ t d, d ∈ g.dependenciesOf t ↔ t ∈ g.dependentsOf d
  edges : ∀ t d, t ∈ g.dependentsOf d ↔ w.WaitsFor t d
  dependencies : ∀ t, InDeclarationOrder w (g.dependenciesOf t)
  dependents : ∀ t, InDeclarationOrder w (g.dependentsOf t)
  undeclared : ∀ t, t ∉ w.taskIds → g.dependenciesOf t = [] ∧ g.dependentsOf t = []

theorem inverseLists_ofWorkflow (w : Workflow) : InverseLists w (Graph.ofWorkflow w) where
  tasks := .of_sublist (List.Sublist.refl _)
  mem_tasks_iff _ := mem_distinct
  inverse _ _ := mem_dependenciesOf_iff.trans mem_dependentsOf_iff.symm
  edges _ _ := mem_dependentsOf_iff
  dependencies t := .of_sublist (Graph.dependenciesOf_sublist w t)
  dependents t := .of_sublist (Graph.dependentsOf_sublist w t)
  undeclared t ht := by
    rw [Graph.dependenciesOf_ofWorkflow, Graph.dependentsOf_ofWorkflow, if_neg ht, if_neg ht]
    exact ⟨rfl, rfl⟩

/-! ## Counting up and counting down -/

/-- How often the count of a task is lowered when some tasks are placed: once for each time that it
    stands among the dependents of one of them. -/
def Graph.drops (g : Graph) (placed : List TaskId) (t : TaskId) : Nat :=
  sumOf (fun u => (g.dependentsOf u).count t) placed

/-- **What is still open and what has been dropped** make up the dependencies of a task. By induction on
    what is placed, from its end: placing one more task drops what it closes. -/
theorem openCount_add_drops (hnodup : placed.Nodup) (t : TaskId) :
    openCount w placed t + (Graph.ofWorkflow w).drops placed t =
      ((Graph.ofWorkflow w).dependenciesOf t).length := by
  induction placed using List.reverseRecOn with
  | nil => simp [openCount, Graph.drops]
  | append_singleton placed u ih =>
      obtain ⟨hplaced, -, hnew⟩ := List.nodup_append.mp hnodup
      have hu : u ∉ placed := fun hmem => hnew u hmem u (by simp) rfl
      have hcount := (nodup_dependentsOf w u).count (a := t)
      have hclose := openCount_place (w := w) hu t
      rw [← ih hplaced, Graph.drops, sumOf_append, ← Graph.drops]
      simp only [sumOf]
      omega

/-- Placing all tasks uses up the count of each of them. -/
theorem drops_tasks (w : Workflow) (t : TaskId) :
    (Graph.ofWorkflow w).drops (Graph.ofWorkflow w).tasks t =
      ((Graph.ofWorkflow w).dependenciesOf t).length := by
  have hclosed : openCount w (Graph.ofWorkflow w).tasks t = 0 :=
    openCount_eq_zero_iff.mpr fun d hd => mem_distinct.mpr hd.2.1
  have hsum := openCount_add_drops (w := w) (nodup_distinct w.taskIds) t
  rwa [← Graph.tasks_ofWorkflow, hclosed, Nat.zero_add] at hsum

/-- Along the procedure, what a task misses is what has not been dropped. -/
theorem Release.Sound.missing_add_drops {r : Release} (h : Release.Sound w [] r) (ht : t ∈ w.taskIds) :
    ∃ n, r.missing.find? t = some n ∧
      n + (Graph.ofWorkflow w).drops r.placed t = ((Graph.ofWorkflow w).dependenciesOf t).length := by
  have hplaced := (List.nodup_append.mp h.nodup).1
  exact ⟨_, by simpa using h.counts t ht, openCount_add_drops hplaced t⟩

/-! ## Results -/

/-- **The adjacency lists of every workflow are inverse to each other.** The tasks of the graph are the
    declared ids in the order of their first declaration. One id is among the dependencies of another
    just if that is among its dependents, and just if both are declared and the workflow lets the other
    wait for it; both lists keep the order of declaration and repeat nothing, and an undeclared id has
    neither. So ordering starts every count with as many as can be dropped from it, and no moment of it
    changes the sum of what is missing and what has been dropped. -/
theorem adjacency_lists_are_inverse (w : Workflow) :
    InverseLists w (Graph.ofWorkflow w) ∧
      (∀ t, ((Graph.ofWorkflow w).dependenciesOf t).length =
        (Graph.ofWorkflow w).drops (Graph.ofWorkflow w).tasks t) ∧
      ∀ t ∈ w.taskIds,
        (Release.start (Graph.ofWorkflow w)).missing.find? t =
            some ((Graph.ofWorkflow w).dependenciesOf t).length ∧
          ∀ k, ∃ n,
            (Release.run (Graph.ofWorkflow w) k (Release.start (Graph.ofWorkflow w))).missing.find? t =
                some n ∧
              n + (Graph.ofWorkflow w).drops
                  (Release.run (Graph.ofWorkflow w) k (Release.start (Graph.ofWorkflow w))).placed t =
                ((Graph.ofWorkflow w).dependenciesOf t).length := by
  refine ⟨inverseLists_ofWorkflow w, fun t => (drops_tasks w t).symm, fun t ht => ⟨?_, fun k => ?_⟩⟩
  · rw [Release.start, find?_tabulate, Graph.tasks_ofWorkflow, if_pos (mem_distinct.mpr ht)]
  · exact ((Release.sound_start w).run k).missing_add_drops ht

/-- A task that waits for itself and for one that waits for it, declared twice, and a wait for nothing
    that is declared. -/
def tangle : Workflow :=
  ((({ id := "tangle", name := "Tangle" } : Workflow).addTask { id := "a", name := "A" }
    ["b", "a", "ghost"]).addTask { id := "b", name := "B" } ["a"]).addTask { id := "a", name := "Again" } []

/-- In the tangle `a` waits for itself and for `b`, and both wait for it; the two it misses at the start
    are dropped once both are placed. -/
theorem adjacency_lists_are_inverse_tangle :
    (Graph.ofWorkflow tangle).tasks = ["a", "b"] ∧
      (Graph.ofWorkflow tangle).dependenciesOf "a" = ["a", "b"] ∧
      (Graph.ofWorkflow tangle).dependentsOf "a" = ["a", "b"] ∧
      InverseLists tangle (Graph.ofWorkflow tangle) ∧ "a" ∈ tangle.taskIds ∧
      (Release.start (Graph.ofWorkflow tangle)).missing.find? "a" = some 2 ∧
      (Graph.ofWorkflow tangle).drops ["a", "b"] "a" = 2 := by
  obtain ⟨hlists, hdrops, hcounts⟩ := adjacency_lists_are_inverse tangle
  have ha : "a" ∈ tangle.taskIds := by decide
  exact ⟨rfl, rfl, rfl, hlists, ha, (hcounts "a" ha).1, (hdrops "a").symm⟩

end Foreman
