import UciSim.General.Arrays

/-!
# Patches of a template

A patch has its place in a template and either writes its cells there or leaves what the
template holds. Patches that lie apart do not disturb each other: each place shows its own
patch, and all other places show the template.
-/

set_option autoImplicit false

namespace Patches

variable {α : Type}

/-- Cells past the end of the template are not written. -/
def overwrite (s : List α) (offset : ℕ) : List α → List α
  | [] => s
  | a::cells => overwrite (s.set offset a) (offset+1) cells

/-- A place of the template, and the cells that are written there, if there are any. -/
structure Patch (α : Type) where
  offset : ℕ
  width : ℕ
  cells : Option {cells : List α // cells.length = width}

namespace Patch

def apply (s : List α) (p : Patch α) : List α :=
  match p.cells with
  | none => s
  | some cells => overwrite s p.offset cells.1

def Covers (p : Patch α) (k : ℕ) : Prop := p.offset ≤ k ∧ k < p.offset+p.width

def Inside (p : Patch α) (length : ℕ) : Prop := p.offset+p.width ≤ length

def Apart (p q : Patch α) : Prop :=
  p.offset+p.width ≤ q.offset ∨ q.offset+q.width ≤ p.offset

/-- The cells at the place of the patch. -/
def slice (p : Patch α) (s : List α) : List α := (s.drop p.offset).take p.width

/-- What the place shows once the template is patched. -/
def shown (p : Patch α) (template : List α) : List α :=
  match p.cells with
  | none => p.slice template
  | some cells => cells.1

end Patch

def applyAll (s : List α) (ps : List (Patch α)) : List α := ps.foldl Patch.apply s

theorem overwrite_length (s : List α) (offset : ℕ) (cells : List α) :
    (overwrite s offset cells).length = s.length := by
  induction cells generalizing s offset with
  | nil => rfl
  | cons a cells ih => rw [overwrite, ih, List.length_set]

theorem overwrite_frame (s : List α) (offset : ℕ) (cells : List α) (k : ℕ)
    (h : k < offset ∨ offset+cells.length ≤ k) : (overwrite s offset cells)[k]? = s[k]? := by
  induction cells generalizing s offset with
  | nil => rfl
  | cons a cells ih =>
    rw [List.length_cons] at h
    rw [overwrite, ih _ _ (by omega), List.getElem?_set_ne (by omega)]

theorem overwrite_written (s : List α) (offset : ℕ) (cells : List α) (k : ℕ)
    (hk : k < cells.length) (h : offset+cells.length ≤ s.length) :
    (overwrite s offset cells)[offset+k]? = cells[k]? := by
  induction cells generalizing s offset k with
  | nil => exact absurd hk (Nat.not_lt_zero k)
  | cons a cells ih =>
    rw [List.length_cons] at h hk
    cases k with
    | zero =>
      rw [overwrite, overwrite_frame _ _ _ _ (Or.inl (by omega)), Nat.add_zero,
        List.getElem?_set_self (by omega)]
      rfl
    | succ k =>
      have hrest := ih (s.set offset a) (offset+1) k (by omega) (by rw [List.length_set]; omega)
      rw [overwrite, show offset+(k+1) = offset+1+k by omega, hrest]
      rfl

namespace Patch

variable {p q : Patch α} {s s' : List α} {k : ℕ}

theorem apply_length (s : List α) (p : Patch α) : (apply s p).length = s.length := by
  unfold apply
  cases p.cells with
  | none => rfl
  | some cells => exact overwrite_length s p.offset cells.1

theorem apply_frame (s : List α) (h : ¬ p.Covers k) : (apply s p)[k]? = s[k]? := by
  unfold apply
  cases p.cells with
  | none => rfl
  | some cells =>
    refine overwrite_frame s p.offset cells.1 k ?_
    unfold Covers at h
    rw [cells.2]
    omega

theorem slice_congr (h : ∀ k, p.Covers k → s'[k]? = s[k]?) : p.slice s' = p.slice s := by
  apply List.ext_getElem?
  intro k
  unfold slice
  rw [List.getElem?_take, List.getElem?_take, List.getElem?_drop, List.getElem?_drop]
  by_cases hk : k < p.width
  · rw [if_pos hk, if_pos hk, h (p.offset+k) ⟨by omega,by omega⟩]
  · rw [if_neg hk, if_neg hk]

theorem slice_apply (s : List α) (h : p.Inside s.length) : p.slice (apply s p) = p.shown s := by
  rcases p with ⟨offset,width,_ | cells⟩
  · rfl
  · apply List.ext_getElem?
    intro k
    show (((overwrite s offset cells.1).drop offset).take width)[k]? = cells.1[k]?
    rw [List.getElem?_take, List.getElem?_drop]
    by_cases hk : k < width
    · rw [if_pos hk]
      exact overwrite_written s offset cells.1 k (by rw [cells.2]; exact hk)
        (by rw [cells.2]; exact h)
    · rw [if_neg hk, List.getElem?_eq_none (by rw [cells.2]; omega)]

theorem Apart.not_covers (h : p.Apart q) (hk : p.Covers k) : ¬ q.Covers k := by
  unfold Covers Apart at *
  omega

theorem Apart.symm (h : p.Apart q) : q.Apart p := Or.symm h

theorem shown_congr (h : ∀ k, p.Covers k → s'[k]? = s[k]?) : p.shown s' = p.shown s := by
  rcases p with ⟨offset,width,_ | cells⟩
  · exact slice_congr h
  · rfl

end Patch

theorem apply_all_length (s : List α) (ps : List (Patch α)) :
    (applyAll s ps).length = s.length := by
  induction ps generalizing s with
  | nil => rfl
  | cons p ps ih => exact (ih _).trans (Patch.apply_length s p)

theorem apply_all_frame (s : List α) {ps : List (Patch α)} {k : ℕ}
    (h : ∀ p ∈ ps, ¬ p.Covers k) : (applyAll s ps)[k]? = s[k]? := by
  induction ps generalizing s with
  | nil => rfl
  | cons p ps ih =>
    exact (ih _ fun q hq => h q (List.mem_cons_of_mem p hq)).trans
      (Patch.apply_frame s (h p List.mem_cons_self))

/-- Where the patches lie apart each place shows its own patch. -/
theorem apply_all_slice (s : List α) {ps : List (Patch α)} (happart : ps.Pairwise Patch.Apart)
    {p : Patch α} (hp : p ∈ ps) (hinside : p.Inside s.length) :
    p.slice (applyAll s ps) = p.shown s := by
  induction ps generalizing s with
  | nil => cases hp
  | cons q ps ih =>
    rcases List.pairwise_cons.mp happart with ⟨hq,hrest⟩
    rcases List.mem_cons.mp hp with rfl | hp
    · rw [← Patch.slice_apply s hinside]
      refine Patch.slice_congr fun k hk => ?_
      exact apply_all_frame _ fun q' hq' => (hq q' hq').not_covers hk
    · show p.slice (applyAll (Patch.apply s q) ps) = p.shown s
      rw [ih _ hrest hp (by rw [Patch.apply_length]; exact hinside)]
      refine Patch.shown_congr fun k hk => ?_
      exact Patch.apply_frame s ((hq p hp).symm.not_covers hk)

section

open Arrays

/-- A patch that writes cells has to lie inside. -/
def Patch.place (s : List α) (p : Patch α) : Checked (List α) :=
  match p.cells with
  | none => .ok s
  | some cells => do
    touch p.offset p.width s.length
    return overwrite s p.offset cells.1

def placeAll (s : List α) (ps : List (Patch α)) : Checked (List α) := ps.foldlM Patch.place s

theorem Patch.place_ok_iff (s s' : List α) (p : Patch α) :
    p.place s = .ok s' ↔ (p.cells ≠ none → p.Inside s.length) ∧ s' = p.apply s := by
  rcases p with ⟨offset,width,_ | cells⟩
  · constructor
    · intro h
      cases h
      exact ⟨fun hnone => absurd rfl hnone,rfl⟩
    · rintro ⟨-,rfl⟩
      rfl
  · show (touch offset width s.length >>= fun _ => .ok (overwrite s offset cells.1)) = .ok s' ↔ _
    constructor
    · intro h
      cases htouch : touch offset width s.length with
      | error fault =>
        rw [htouch] at h
        cases h
      | ok _ =>
        rw [htouch] at h
        cases h
        exact ⟨fun _ => touch_ok_iff.mp htouch,rfl⟩
    · rintro ⟨hinside,rfl⟩
      rw [touch_inside (hinside (Option.some_ne_none _))]
      rfl

theorem place_all_ok_iff (s s' : List α) (ps : List (Patch α)) :
    placeAll s ps = .ok s' ↔
      (∀ p ∈ ps, p.cells ≠ none → p.Inside s.length) ∧ s' = applyAll s ps := by
  induction ps generalizing s with
  | nil =>
    constructor
    · intro h
      cases h
      exact ⟨nofun,rfl⟩
    · rintro ⟨-,rfl⟩
      rfl
  | cons p ps ih =>
    show (p.place s >>= fun s => placeAll s ps) = .ok s' ↔ _
    rw [List.forall_mem_cons]
    constructor
    · intro h
      cases hplace : p.place s with
      | error fault =>
        rw [hplace] at h
        cases h
      | ok middle =>
        rw [hplace, ok_bind, ih] at h
        rcases (p.place_ok_iff s middle).mp hplace with ⟨hinside,rfl⟩
        rcases h with ⟨hrest,rfl⟩
        rw [Patch.apply_length] at hrest
        exact ⟨⟨hinside,hrest⟩,rfl⟩
    · rintro ⟨⟨hinside,hrest⟩,rfl⟩
      rw [(p.place_ok_iff s _).mpr ⟨hinside,rfl⟩, ok_bind, ih, Patch.apply_length]
      exact ⟨hrest,rfl⟩

end

end Patches
