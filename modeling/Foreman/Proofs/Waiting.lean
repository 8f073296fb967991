import Foreman.Graph
import Mathlib.Data.Fintype.EquivFin
import Mathlib.Logic.Relation

/-!
# `Foreman.Proofs.Waiting` — cycles of the known dependency graph

The known graph of a workflow has the declared ids as nodes and an edge from a task to everything
declared that it waits for. Validation and ordering both hinge on its cycles, so the notions they
share are fixed here once:

* `WaitsFor`, the edges; `Cyclic`, the presence of a directed cycle;
* `ReachesCycle`, a cycle somewhere below a task, and its opposite `Grounded`: what a task waits for,
  directly or not, is well-founded.

Only finitely many ids are declared, so the two are complements (`grounded_iff`). `Grounded` is the
form in which both algorithms carry their invariants, since it is closed under placing a task on top
of grounded ones.
-/

namespace Foreman
namespace Workflow

open Relation

variable {w : Workflow} {t d : TaskId}

/-- **An edge of the known graph.** `t` waits for `d`, and both are declared. -/
def WaitsFor (w : Workflow) (t d : TaskId) : Prop :=
  t ∈ w.taskIds ∧ d ∈ w.taskIds ∧ d ∈ w.dependenciesOf t

/-- The known graph has a directed cycle. -/
def Cyclic (w : Workflow) : Prop := ∃ t, TransGen w.WaitsFor t t

/-- A directed cycle can be reached from `t` by following edges, none included. -/
def ReachesCycle (w : Workflow) (t : TaskId) : Prop :=
  ∃ u, ReflTransGen w.WaitsFor t u ∧ TransGen w.WaitsFor u u

/-- Descending from `t` along edges comes to an end. -/
def Grounded (w : Workflow) (t : TaskId) : Prop := Acc (fun d t => w.WaitsFor t d) t

/-- The graph's adjacency lists hold exactly the edges. -/
theorem mem_dependenciesOf_iff : d ∈ (Graph.ofWorkflow w).dependenciesOf t ↔ w.WaitsFor t d :=
  Graph.mem_dependenciesOf

theorem mem_dependentsOf_iff : t ∈ (Graph.ofWorkflow w).dependentsOf d ↔ w.WaitsFor t d :=
  Graph.mem_dependentsOf

theorem Grounded.intro (h : ∀ d, w.WaitsFor t d → w.Grounded d) : w.Grounded t := Acc.intro t h

/-- A task above a cycle waits for a task above that cycle. -/
theorem ReachesCycle.exists_waitsFor (h : w.ReachesCycle t) :
    ∃ d, w.WaitsFor t d ∧ w.ReachesCycle d := by
  obtain ⟨u, htu, hcyc⟩ := h
  rcases htu.cases_head with rfl | ⟨d, htd, hdu⟩
  · obtain ⟨d, htd, hdt⟩ := TransGen.head'_iff.mp hcyc
    exact ⟨d, htd, t, hdt, hcyc⟩
  · exact ⟨d, htd, u, hdu, hcyc⟩

theorem Grounded.not_reachesCycle (h : w.Grounded t) : ¬ w.ReachesCycle t := by
  induction h with
  | intro t _ ih =>
      intro hcyc
      obtain ⟨d, htd, hd⟩ := hcyc.exists_waitsFor
      exact ih d htd hd

/-- **A task above no cycle is grounded.** The tasks that can be reached from it are finitely many,
    and being reachable in at least one step is a strict order on them. -/
theorem grounded_of_not_reachesCycle (h : ¬ w.ReachesCycle t) : w.Grounded t := by
  let Below := { v : TaskId // v ∈ w.taskIds ∧ ReflTransGen w.WaitsFor t v }
  have hfin : Finite Below :=
    Finite.of_injective (β := { v : TaskId // v ∈ w.taskIds }) (fun v => ⟨v.1, v.2.1⟩)
      (fun a b hab => Subtype.ext (Subtype.mk.inj hab))
  let r : Below → Below → Prop := fun a b => TransGen w.WaitsFor b.1 a.1
  have htrans : IsTrans Below r := ⟨fun _ _ _ hab hbc => TransGen.trans hbc hab⟩
  have hirr : Std.Irrefl r := ⟨fun a ha => h ⟨a.1, a.2.2, ha⟩⟩
  have hwf : WellFounded r := Finite.wellFounded_of_trans_of_irrefl r
  have hbelow : ∀ v : Below, w.Grounded v.1 := by
    intro v
    induction v using hwf.induction with
    | _ v ih =>
        refine Grounded.intro fun d hd => ?_
        exact ih ⟨d, hd.2.1, v.2.2.tail hd⟩ (TransGen.single hd)
  refine Grounded.intro fun d hd => ?_
  exact hbelow ⟨d, hd.2.1, ReflTransGen.single hd⟩

theorem grounded_iff : w.Grounded t ↔ ¬ w.ReachesCycle t :=
  ⟨Grounded.not_reachesCycle, grounded_of_not_reachesCycle⟩

/-- A cycle runs through declared tasks only. -/
theorem mem_taskIds_of_transGen (h : TransGen w.WaitsFor t d) : t ∈ w.taskIds := by
  obtain ⟨u, htu, _⟩ := TransGen.head'_iff.mp h
  exact htu.1

theorem ReachesCycle.cyclic (h : w.ReachesCycle t) : w.Cyclic := by
  obtain ⟨u, _, hu⟩ := h
  exact ⟨u, hu⟩

/-- **Without a cycle, every declared task is grounded**, and conversely. -/
theorem not_cyclic_iff : ¬ w.Cyclic ↔ ∀ t ∈ w.taskIds, w.Grounded t := by
  constructor
  · intro h t _
    exact grounded_of_not_reachesCycle fun ht => h ht.cyclic
  · rintro h ⟨t, ht⟩
    exact (h t (mem_taskIds_of_transGen ht)).not_reachesCycle ⟨t, ReflTransGen.refl, ht⟩

end Workflow
end Foreman
