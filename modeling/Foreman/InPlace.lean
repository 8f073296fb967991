/-!
# `Foreman.InPlace` — operations in place

Most operations say what a state becomes, or why not. Where it matters what a refusal leaves behind, the
same operation is written as a computation on the state: it reads and writes one part after another and
may refuse anywhere, and what has been written by then stays written.

## Contents
- How the parts of such a computation run, one after another.
-/

namespace Foreman
namespace InPlace

variable {ε σ α β : Type}

@[simp] theorem run_pure (a : α) (s : σ) : (pure a : ExceptT ε (StateM σ) α).run s = (.ok a, s) := rfl

@[simp] theorem run_throw (e : ε) (s : σ) :
    (throw e : ExceptT ε (StateM σ) α).run s = (.error e, s) := rfl

@[simp] theorem run_throw_bind (e : ε) (next : α → ExceptT ε (StateM σ) β) (s : σ) :
    ((throw e : ExceptT ε (StateM σ) α) >>= next).run s = (.error e, s) := rfl

@[simp] theorem run_get_bind (next : σ → ExceptT ε (StateM σ) α) (s : σ) :
    ((get : ExceptT ε (StateM σ) σ) >>= next).run s = (next s).run s := rfl

@[simp] theorem run_set_bind (other : σ) (next : PUnit → ExceptT ε (StateM σ) α) (s : σ) :
    ((set other : ExceptT ε (StateM σ) PUnit) >>= next).run s = (next ⟨⟩).run other := rfl

@[simp] theorem run_modify (change : σ → σ) (s : σ) :
    (modify change : ExceptT ε (StateM σ) PUnit).run s = (.ok ⟨⟩, change s) := rfl

@[simp] theorem run_modify_bind (change : σ → σ) (next : PUnit → ExceptT ε (StateM σ) α) (s : σ) :
    ((modify change : ExceptT ε (StateM σ) PUnit) >>= next).run s = (next ⟨⟩).run (change s) := rfl

/-- A computation goes on where the one before has ended, unless that was refused. -/
theorem run_bind (x : ExceptT ε (StateM σ) α) (next : α → ExceptT ε (StateM σ) β) (s : σ) :
    (x >>= next).run s = match x.run s with
      | (.ok a, s) => (next a).run s
      | (.error e, s) => (.error e, s) := by
  show (match x.run s with | (answer, s) => ExceptT.bindCont next answer s) = _
  cases x.run s with
  | mk answer s => cases answer <;> rfl

end InPlace
end Foreman
