import UciSim.General.Runs

/-!
# Steps that are due in rounds

A state waits for its next step with some time left and some others before it. Time brings
the step nearer, and once it is due each turn brings it one place forward. So a run with
time and turns enough for every step makes all of them.
-/

set_option autoImplicit false

namespace Deadlines

variable {σ ι : Type} {step : σ → ι → σ} {good : σ → ι → Prop} {done : σ → Prop}
  {waits : ℕ → ℕ → ℕ → σ → Prop} {elapsed turns : ι → ℕ} {period places : ℕ}

/-- In each round `period` passes, and then more turns are taken than there are places. -/
inductive Rounds (elapsed turns : ι → ℕ) (period places : ℕ) : ℕ → List ι → Prop
  | done (ops : List ι) : Rounds elapsed turns period places 0 ops
  | more {rounds : ℕ} (waiting serving rest : List ι) (time : period ≤ (waiting.map elapsed).sum)
      (served : places < (serving.map turns).sum)
      (next : Rounds elapsed turns period places rounds rest) :
      Rounds elapsed turns period places (rounds+1) (waiting ++ (serving ++ rest))

/-- Where `waits k time place` holds, `k` steps are made and the next is due in `time` at most,
behind `place` others at most. A good operation ends the waiting, makes the step, or brings it
nearer. -/
structure Progress (step : σ → ι → σ) (good : σ → ι → Prop) (done : σ → Prop)
    (waits : ℕ → ℕ → ℕ → σ → Prop) (elapsed turns : ι → ℕ) (period places : ℕ) : Prop where
  mono : ∀ {k time time' place place' s}, waits k time place s → time ≤ time' →
    place ≤ place' → waits k time' place' s
  step : ∀ {k time place s op}, waits k time place s → good s op →
    done (step s op) ∨ waits (k+1) period places (step s op) ∨
      ∃ place', place' ≤ place ∧ (time-elapsed op = 0 → place'+turns op ≤ place) ∧
        waits k (time-elapsed op) place' (step s op)

def Advanced (waits : ℕ → ℕ → ℕ → σ → Prop) (period places k : ℕ) (s : σ) : Prop :=
  ∃ l, k < l ∧ waits l period places s

namespace Progress

variable {k time place : ℕ} {s : σ} {op : ι} {ops : List ι}

theorem nearer (h : Progress step good done waits elapsed turns period places)
    (hw : waits k time place s) (hg : good s op) :
    done (step s op) ∨ Advanced waits period places k (step s op) ∨
      ∃ place', place' ≤ place ∧ (time-elapsed op = 0 → place'+turns op ≤ place) ∧
        waits k (time-elapsed op) place' (step s op) := by
  obtain hdone | hnext | hwaits := h.step hw hg
  · exact Or.inl hdone
  · exact Or.inr (Or.inl ⟨k+1,Nat.lt_succ_self k,hnext⟩)
  · exact Or.inr (Or.inr hwaits)

theorem advanced (h : Progress step good done waits elapsed turns period places)
    (hw : Advanced waits period places k s) (hg : good s op) :
    done (step s op) ∨ Advanced waits period places k (step s op) := by
  obtain ⟨l,hl,hwaits⟩ := hw
  obtain hdone | ⟨m,hm,hnext⟩ | ⟨place',hplace,-,hnear⟩ := h.nearer hwaits hg
  · exact Or.inl hdone
  · exact Or.inr ⟨m,Nat.lt_trans hl hm,hnext⟩
  · exact Or.inr ⟨l,hl,h.mono hnear (Nat.sub_le _ _) hplace⟩

theorem comes_due (h : Progress step good done waits elapsed turns period places)
    (hw : waits k period places s) (hg : Runs.Along step good s ops)
    (htime : period ≤ (ops.map elapsed).sum) :
    Runs.Reaches step done s ops ∨ Advanced waits period places k (Runs.run step s ops) ∨
      waits k 0 places (Runs.run step s ops) := by
  let distance : ℕ → σ → Prop := fun left s =>
    Advanced waits period places k s ∨ waits k left places s
  have hstep : ∀ left s op, distance left s → good s op →
      done (step s op) ∨ distance (left-elapsed op) (step s op) := by
    rintro left s op (hadvanced | hwaits) hop
    · exact (h.advanced hadvanced hop).imp id Or.inl
    · obtain hdone | hadvanced | ⟨place',hplace,-,hnext⟩ := h.nearer hwaits hop
      · exact Or.inl hdone
      · exact Or.inr (Or.inl hadvanced)
      · exact Or.inr (Or.inr (h.mono hnext (Nat.le_refl _) hplace))
  have hnear := Runs.reaches_or_nearer hstep period s ops (Or.inr hw) hg
  rwa [Nat.sub_eq_zero_of_le htime] at hnear

theorem is_served (h : Progress step good done waits elapsed turns period places)
    (hw : Advanced waits period places k s ∨ waits k 0 places s)
    (hg : Runs.Along step good s ops) (hturns : places < (ops.map turns).sum) :
    Runs.Reaches step done s ops ∨ Advanced waits period places k (Runs.run step s ops) := by
  let distance : ℕ → σ → Prop := fun left s =>
    Advanced waits period places k s ∨ ∃ place, place < left ∧ waits k 0 place s
  have hstep : ∀ left s op, distance left s → good s op →
      done (step s op) ∨ distance (left-turns op) (step s op) := by
    rintro left s op (hadvanced | ⟨place,hplace,hwaits⟩) hop
    · exact (h.advanced hadvanced hop).imp id Or.inl
    · obtain hdone | hadvanced | ⟨place',-,hturn,hnext⟩ := h.nearer hwaits hop
      · exact Or.inl hdone
      · exact Or.inr (Or.inl hadvanced)
      · have hnearer := hturn (Nat.zero_sub _)
        exact Or.inr (Or.inr ⟨place',by omega,h.mono hnext (Nat.sub_le _ _) (Nat.le_refl _)⟩)
  have hnear := Runs.reaches_or_nearer hstep (places+1) s ops
    (hw.imp id fun hdue => ⟨_,Nat.lt_succ_self _,hdue⟩) hg
  rw [Nat.sub_eq_zero_of_le hturns] at hnear
  obtain hreaches | hadvanced | ⟨place,hnone,-⟩ := hnear
  · exact Or.inl hreaches
  · exact Or.inr hadvanced
  · exact absurd hnone (Nat.not_lt_zero place)

/-- No more than `goal` steps are made before the end, so as many rounds reach it. -/
theorem finishes (h : Progress step good done waits elapsed turns period places) {goal : ℕ}
    (hgoal : ∀ {k time place s}, waits k time place s → k < goal) {rounds : ℕ}
    (hr : Rounds elapsed turns period places rounds ops) (henough : goal ≤ k+rounds)
    (hw : waits k period places s) (hg : Runs.Along step good s ops) :
    Runs.Reaches step done s ops := by
  induction hr generalizing k s with
  | done ops =>
    have hbelow := hgoal hw
    omega
  | more waiting serving rest time served next ih =>
    rw [Runs.along_append, Runs.along_append] at hg
    obtain ⟨hwaiting,hserving,hrest⟩ := hg
    obtain hreaches | hdue := h.comes_due hw hwaiting time
    · exact Runs.reaches_append _ hreaches
    · refine Runs.reaches_later ?_
      obtain hreaches | ⟨l,hl,hnext⟩ := h.is_served hdue hserving served
      · exact Runs.reaches_append _ hreaches
      · exact Runs.reaches_later (ih (by omega) hnext hrest)

end Progress

end Deadlines
