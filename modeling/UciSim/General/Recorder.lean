import UciSim.General.Runs

/-!
# Machines with a record of their calls

A program that drives a machine keeps the machine and the calls it has made so far.
However the program chooses its next call, the machine is where a run of the record
leads, and a condition that each call meets when it is made holds along that run.
-/

set_option autoImplicit false

namespace Recorder

open Runs

variable {σ ι : Type} {step : σ → ι → σ} {good : σ → ι → Prop} {start : σ}

structure Recorded (σ ι : Type) where
  machine : σ
  made : List ι

def call (step : σ → ι → σ) (r : Recorded σ ι) (op : ι) : Recorded σ ι :=
  ⟨step r.machine op,r.made ++ [op]⟩

/-- The record leads to the machine, along calls that meet the condition. -/
structure Follows (step : σ → ι → σ) (good : σ → ι → Prop) (start : σ) (r : Recorded σ ι) :
    Prop where
  reached : r.machine = run step start r.made
  along : Along step good start r.made

theorem Follows.init : Follows step good start ⟨start,[]⟩ := ⟨rfl,trivial⟩

theorem Follows.call {r : Recorded σ ι} (h : Follows step good start r) {op : ι}
    (hop : good r.machine op) : Follows step good start (Recorder.call step r op) where
  reached := by
    rw [Recorder.call, run_append, ← h.reached]
    rfl
  along := by
    rw [Recorder.call, along_append, ← h.reached]
    exact ⟨h.along,hop,trivial⟩

end Recorder
