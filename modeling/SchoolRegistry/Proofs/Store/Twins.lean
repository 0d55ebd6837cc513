import SchoolRegistry.Proofs.Store.Running

/-!
# Two stores that are asked the same

`Twins` are two stores side by side. Every request goes to both, the first one answers, and it is
kept whether the answers were the same. Twins are a store themselves, so what is known of runs of
services over any store holds of them.

As long as the twins answer alike, a service runs over each of them as it does over both
(`Twins.run_alike`): it cannot tell which of them it runs over.
-/

namespace SchoolRegistry

variable {σ τ α : Type}

/-- Two stores, and whether they have answered all requests alike. -/
structure Twins (σ τ : Type) where
  left : σ
  right : τ
  alike : Prop

namespace Twins

/-- Both stores answer; the answer of the first one counts. -/
def answer (h : Handler σ) (h' : Handler τ) (r : Request) (w : Twins σ τ) :
    Except Failure r.Reply × Twins σ τ :=
  ((h.answer r w.left).1, ⟨(h.answer r w.left).2, (h'.answer r w.right).2,
    w.alike ∧ (h'.answer r w.right).1 = (h.answer r w.left).1⟩)

/-- A step of both units of work. -/
def both (step : σ → Except Failure Unit × σ) (step' : τ → Except Failure Unit × τ)
    (w : Twins σ τ) : Except Failure Unit × Twins σ τ :=
  ((step w.left).1, ⟨(step w.left).2, (step' w.right).2,
    w.alike ∧ (step' w.right).1 = (step w.left).1⟩)

/-- Two stores as one. -/
def engine (e : Engine σ) (e' : Engine τ) : Engine (Twins σ τ) where
  handler := ⟨answer e.handler e'.handler⟩
  enter w := ⟨e.enter w.left, e'.enter w.right, w.alike⟩
  commit := both e.commit e'.commit
  rollback := both e.rollback e'.rollback
  leave failed := both (e.leave failed) (e'.leave failed)

variable {h : Handler σ} {h' : Handler τ}

/-- What twins once answered differently stays so. -/
theorem alike_of_run (p : Program α) {w : Twins σ τ}
    (alike : (p.run ⟨answer h h'⟩ w).state.alike) : w.alike := by
  induction p generalizing w with
  | done a => exact alike
  | note r p ih => exact ih alike
  | ask r k ih => exact (ih _ alike).1

/-- A program runs over twins as over the first of them, and if they answer alike, as over the
second one too. -/
theorem run_program (p : Program α) (w : Twins σ τ) :
    let ran := p.run ⟨answer h h'⟩ w
    ran.result = (p.run h w.left).result ∧ ran.state.left = (p.run h w.left).state ∧
      (ran.state.alike → ran.result = (p.run h' w.right).result ∧
        ran.state.right = (p.run h' w.right).state) := by
  induction p generalizing w with
  | done a => exact ⟨rfl, rfl, fun _ => ⟨rfl, rfl⟩⟩
  | note r p ih => exact ih w
  | ask r k ih =>
    obtain ⟨result, left, right⟩ := ih (h.answer r w.left).1 (answer h h' r w).2
    refine ⟨result, left, fun alike => ?_⟩
    have first : (answer h h' r w).2.alike := alike_of_run (k (h.answer r w.left).1) alike
    have same : (h'.answer r w.right).1 = (h.answer r w.left).1 := first.2
    simp only [Program.run, same]
    exact right alike

variable {e : Engine σ} {e' : Engine τ}

/-- Over twins that answer alike a service ends as over each of them. -/
theorem run_alike {s : Service α} {w : Twins σ τ} {I : Twins σ τ → Prop}
    (ends : (engine e e').Ends s w fun _ w' => w'.alike ∧ I w') :
    (e'.run s w.right).result = (e.run s w.left).result ∧
      I ⟨(e.run s w.left).state, (e'.run s w.right).state, True⟩ := by
  obtain ⟨alike, holds⟩ := ends
  obtain ⟨result, left, right⟩ := @run_program _ _ _ e.handler e'.handler (ExceptT.run s) w
  obtain ⟨result', right⟩ := right alike
  refine ⟨result'.symm.trans result, ?_⟩
  rw [Engine.run, Engine.run, ← left, ← right, ← eq_true alike]
  exact holds

end Twins

end SchoolRegistry
