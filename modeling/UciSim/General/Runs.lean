import Mathlib.Algebra.GroupWithZero.Nat
import Mathlib.Data.List.Basic
import Mathlib.Data.List.Induction

/-!
# Runs of a step function

A run folds a step function over its operations. A condition on single steps
holds along a run when every step of the run meets it in the state the step
starts from, and an invariant that such steps keep holds wherever the run ends.
-/

set_option autoImplicit false

namespace Runs

variable {σ ι : Type}

def run (step : σ → ι → σ) : σ → List ι → σ
  | s, [] => s
  | s, op::ops => run step (step s op) ops

def Along (step : σ → ι → σ) (good : σ → ι → Prop) : σ → List ι → Prop
  | _, [] => True
  | s, op::ops => good s op ∧ Along step good (step s op) ops

instance decidableAlong {step : σ → ι → σ} {good : σ → ι → Prop}
    [∀ s op, Decidable (good s op)] : (s : σ) → (ops : List ι) → Decidable (Along step good s ops)
  | _, [] => isTrue trivial
  | s, op::ops => @instDecidableAnd _ _ inferInstance (decidableAlong (step s op) ops)

theorem run_append (step : σ → ι → σ) (s : σ) (ops rest : List ι) :
    run step s (ops ++ rest) = run step (run step s ops) rest := by
  induction ops generalizing s with
  | nil => rfl
  | cons op ops ih => exact ih _

theorem along_append {step : σ → ι → σ} {good : σ → ι → Prop} (s : σ) (ops rest : List ι) :
    Along step good s (ops ++ rest) ↔
      Along step good s ops ∧ Along step good (run step s ops) rest := by
  induction ops generalizing s with
  | nil => simp [Along, run]
  | cons op ops ih => simp [Along, run, ih, and_assoc]

theorem along_mono {step : σ → ι → σ} {good good' : σ → ι → Prop}
    (h : ∀ s op, good s op → good' s op) (s : σ) (ops : List ι)
    (hg : Along step good s ops) : Along step good' s ops := by
  induction ops generalizing s with
  | nil => trivial
  | cons op ops ih => exact ⟨h _ _ hg.1, ih _ hg.2⟩

theorem along_and {step : σ → ι → σ} {good good' : σ → ι → Prop} (s : σ) (ops : List ι)
    (hg : Along step good s ops) (hg' : Along step good' s ops) :
    Along step (fun s op => good s op ∧ good' s op) s ops := by
  induction ops generalizing s with
  | nil => trivial
  | cons op ops ih => exact ⟨⟨hg.1,hg'.1⟩, ih _ hg.2 hg'.2⟩

theorem along_of_forall {step : σ → ι → σ} {good : σ → ι → Prop}
    (h : ∀ s op, good s op) (s : σ) (ops : List ι) : Along step good s ops := by
  induction ops generalizing s with
  | nil => trivial
  | cons op ops ih => exact ⟨h _ _, ih _⟩

theorem along_of_mem {step : σ → ι → σ} {good : σ → ι → Prop} {ops : List ι}
    (h : ∀ op ∈ ops, ∀ s, good s op) (s : σ) : Along step good s ops := by
  induction ops generalizing s with
  | nil => trivial
  | cons op ops ih =>
    exact ⟨h op List.mem_cons_self _,ih (fun b hb => h b (List.mem_cons_of_mem op hb)) _⟩

theorem invariant_of_steps {step : σ → ι → σ} {good : σ → ι → Prop} {I : σ → Prop}
    (hstep : ∀ s op, I s → good s op → I (step s op)) (s : σ) (ops : List ι)
    (hs : I s) (hg : Along step good s ops) : I (run step s ops) := by
  induction ops generalizing s with
  | nil => exact hs
  | cons op ops ih => exact ih _ (hstep _ _ hs hg.1) hg.2

theorem invariant_of_all_steps {step : σ → ι → σ} {I : σ → Prop}
    (hstep : ∀ s op, I s → I (step s op)) (s : σ) (ops : List ι) (hs : I s) :
    I (run step s ops) := by
  induction ops generalizing s with
  | nil => exact hs
  | cons op ops ih => exact ih _ (hstep _ _ hs)

theorem along_of_invariant {step : σ → ι → σ} {good rel : σ → ι → Prop} {I : σ → Prop}
    (hstep : ∀ s op, I s → good s op → I (step s op))
    (hrel : ∀ s op, I s → good s op → rel s op) (s : σ) (ops : List ι)
    (hs : I s) (hg : Along step good s ops) : Along step rel s ops := by
  induction ops generalizing s with
  | nil => trivial
  | cons op ops ih => exact ⟨hrel _ _ hs hg.1, ih _ (hstep _ _ hs hg.1) hg.2⟩

/-- One of the operations makes the fact, and none behind it ends it. -/
def Since (step : σ → ι → σ) (makes ends : σ → ι → Prop) (s : σ) (ops : List ι) : Prop :=
  ∃ before op after, ops = before ++ op::after ∧ makes (run step s before) op ∧
    Along step (fun s op => ¬ ends s op) (run step s (before ++ [op])) after

theorem since_append {step : σ → ι → σ} {makes ends : σ → ι → Prop} (s : σ) (ops : List ι)
    (op : ι) : Since step makes ends s (ops ++ [op]) ↔ makes (run step s ops) op ∨
      (Since step makes ends s ops ∧ ¬ ends (run step s ops) op) := by
  constructor
  · rintro ⟨before,made,after,hsplit,hmakes,hkept⟩
    rcases List.eq_nil_or_concat after with rfl | ⟨after,last,rfl⟩
    · rcases List.append_inj' hsplit rfl with ⟨rfl,hlast⟩
      cases hlast
      exact Or.inl hmakes
    · rw [List.concat_eq_append] at hsplit hkept
      have hsplit' : ops ++ [op] = (before ++ made::after) ++ [last] := by
        rw [hsplit, List.append_assoc, List.cons_append]
      rcases List.append_inj' hsplit' rfl with ⟨rfl,hlast⟩
      cases hlast
      rw [along_append, ← run_append, List.append_assoc] at hkept
      exact Or.inr ⟨⟨before,made,after,rfl,hmakes,hkept.1⟩,hkept.2.1⟩
  · rintro (hmakes | ⟨⟨before,made,after,rfl,hmakes,hkept⟩,hstays⟩)
    · exact ⟨ops,op,[],rfl,hmakes,trivial⟩
    · refine ⟨before,made,after ++ [op],by simp,hmakes,?_⟩
      rw [along_append, ← run_append, List.append_assoc]
      exact ⟨hkept,hstays,trivial⟩

/-- A fact that steps make and end, and that does not hold at the start, holds after a run
exactly when a step of the run made it and none has ended it since. -/
theorem holds_iff_since {step : σ → ι → σ} {P I : σ → Prop} {makes ends : σ → ι → Prop}
    (hkept : ∀ s op, I s → I (step s op))
    (hstep : ∀ s op, I s → (P (step s op) ↔ makes s op ∨ (P s ∧ ¬ ends s op)))
    (s : σ) (hs : I s) (hnot : ¬ P s) (ops : List ι) :
    P (run step s ops) ↔ Since step makes ends s ops := by
  induction ops using List.reverseRecOn with
  | nil =>
    refine iff_of_false hnot ?_
    rintro ⟨before,op,after,hsplit,-⟩
    simp at hsplit
  | append_singleton ops op ih =>
    rw [since_append, ← ih, run_append]
    exact hstep _ op (invariant_of_all_steps hkept s ops hs)

/-- The run has the property in one of its states, the first and the last included. -/
def Reaches (step : σ → ι → σ) (P : σ → Prop) (s : σ) (ops : List ι) : Prop :=
  ∃ before after, ops = before ++ after ∧ P (run step s before)

theorem reaches_append {step : σ → ι → σ} {P : σ → Prop} {s : σ} {ops : List ι}
    (rest : List ι) (h : Reaches step P s ops) : Reaches step P s (ops ++ rest) := by
  rcases h with ⟨before,after,rfl,hp⟩
  exact ⟨before,after ++ rest,List.append_assoc _ _ _,hp⟩

theorem reaches_later {step : σ → ι → σ} {P : σ → Prop} {s : σ} {ops rest : List ι}
    (h : Reaches step P (run step s ops) rest) : Reaches step P s (ops ++ rest) := by
  rcases h with ⟨before,after,rfl,hp⟩
  refine ⟨ops ++ before,after,(List.append_assoc _ _ _).symm,?_⟩
  rwa [run_append]

/-- While a run has not come to its goal, each operation takes what it is worth off the distance
to it. -/
theorem reaches_or_nearer {step : σ → ι → σ} {good : σ → ι → Prop} {P : σ → Prop}
    {distance : ℕ → σ → Prop} {worth : ι → ℕ}
    (hstep : ∀ n s op, distance n s → good s op →
      P (step s op) ∨ distance (n-worth op) (step s op))
    (n : ℕ) (s : σ) (ops : List ι) (hs : distance n s) (hg : Along step good s ops) :
    Reaches step P s ops ∨ distance (n-(ops.map worth).sum) (run step s ops) := by
  induction ops generalizing n s with
  | nil => exact Or.inr hs
  | cons op ops ih =>
    rcases hstep n s op hs hg.1 with hp | hnear
    · exact Or.inl ⟨[op],ops,rfl,hp⟩
    · rcases ih _ _ hnear hg.2 with hreach | hnear
      · have hlater : Reaches step P s ([op] ++ ops) := reaches_later hreach
        exact Or.inl hlater
      · refine Or.inr ?_
        rw [List.map_cons, List.sum_cons, Nat.sub_add_eq]
        exact hnear

section

variable {τ : Type} {step : σ → ι → σ} {step' : τ → ι → τ} {f : τ → σ}

/-- Two machines whose steps keep a relation are related after the same operations. -/
theorem related_of_all_steps {R : σ → τ → Prop}
    (hstep : ∀ s t op, R s t → R (step s op) (step' t op)) (s : σ) (t : τ) (ops : List ι)
    (h : R s t) : R (run step s ops) (run step' t ops) := by
  induction ops generalizing s t with
  | nil => exact h
  | cons op ops ih => exact ih _ _ (hstep s t op h)

theorem run_map (h : ∀ t op, f (step' t op) = step (f t) op) (t : τ) (ops : List ι) :
    f (run step' t ops) = run step (f t) ops := by
  induction ops generalizing t with
  | nil => rfl
  | cons op ops ih =>
    show f (run step' (step' t op) ops) = run step (step (f t) op) ops
    rw [ih, h]

theorem along_map (good : σ → ι → Prop) (h : ∀ t op, f (step' t op) = step (f t) op) (t : τ)
    (ops : List ι) (hg : Along step good (f t) ops) :
    Along step' (fun t op => good (f t) op) t ops := by
  induction ops generalizing t with
  | nil => trivial
  | cons op ops ih => exact ⟨hg.1,ih _ (by rw [h]; exact hg.2)⟩

end

end Runs
