import Mathlib.Data.List.Basic
import UciSim.General.Runs

/-!
# Stores that may lose

Every operation puts a list of items into a store, and a store without room loses
some of them. What a run keeps is, in order, part of what its operations put, and
all of it exactly when each of them found room.
-/

set_option autoImplicit false

namespace Losses

open Runs

variable {σ ι α : Type} {step : σ → ι → σ} {put : σ → ι → List α} {kept : σ → List α}
  {good room : σ → ι → Prop} {I : σ → Prop}

/-- What the operations of a run put into the store, in order. -/
def history (step : σ → ι → σ) (put : σ → ι → List α) : σ → List ι → List α
  | _, [] => []
  | s, op::ops => put s op ++ history step put (step s op) ops

/-- One operation keeps part of what was kept and put, and all of it exactly when there is
room. -/
structure Stores (step : σ → ι → σ) (put : σ → ι → List α) (kept : σ → List α)
    (room : σ → ι → Prop) (s : σ) (op : ι) : Prop where
  sublist : (kept (step s op)).Sublist (kept s ++ put s op)
  complete : room s op → kept (step s op) = kept s ++ put s op
  loses : ¬ room s op → (kept (step s op)).length < (kept s ++ put s op).length

theorem run_sublist (hstep : ∀ s op, I s → good s op → I (step s op))
    (hstores : ∀ s op, I s → good s op → Stores step put kept room s op)
    (s : σ) (ops : List ι) (hs : I s) (hg : Along step good s ops) :
    (kept (run step s ops)).Sublist (kept s ++ history step put s ops) := by
  induction ops generalizing s with
  | nil => simp [run, history]
  | cons op ops ih =>
    have hrest := ih (step s op) (hstep s op hs hg.1) hg.2
    have hfirst := (hstores s op hs hg.1).sublist
    rw [history, ← List.append_assoc]
    exact hrest.trans (hfirst.append_right _)

theorem run_complete (hstep : ∀ s op, I s → good s op → I (step s op))
    (hstores : ∀ s op, I s → good s op → Stores step put kept room s op)
    (s : σ) (ops : List ι) (hs : I s) (hg : Along step good s ops) :
    kept (run step s ops) = kept s ++ history step put s ops ↔ Along step room s ops := by
  induction ops generalizing s with
  | nil => simp [run, history, Along]
  | cons op ops ih =>
    have hnext := hstep s op hs hg.1
    have hfirst := hstores s op hs hg.1
    rw [history, ← List.append_assoc]
    by_cases hroom : room s op
    · rw [← hfirst.complete hroom]
      exact (ih (step s op) hnext hg.2).trans ⟨fun h => ⟨hroom,h⟩,And.right⟩
    · constructor
      · intro heq
        have hlost := hfirst.loses hroom
        have hrest := (run_sublist hstep hstores (step s op) ops hnext hg.2).length_le
        have hlen := congrArg List.length heq
        simp only [run, List.length_append] at hlost hrest hlen
        omega
      · exact fun h => absurd h.1 hroom

end Losses
