import Mathlib.Data.Fintype.Fin
import Mathlib.Data.Set.Card
import Mathlib.Logic.Function.Basic

/-!
# Maps kept in slots

A fixed number of slots holds a map: a slot in use stands for one key, and the
first slot that is found answers for its key. As long as no key has two slots
and a slot that is not in use is blank, the slots behave as a finite map.
-/

set_option autoImplicit false

namespace Slots

/-- How a slot shows that it is in use and for which key, and what a blank one is. -/
structure Layout (κ α : Type) where
  used : α → Bool
  key : α → κ
  blank : α
  blank_unused : used blank = false

variable {n : ℕ} {κ α : Type} (L : Layout κ α)

def find [DecidableEq κ] (slots : Fin n → α) (k : κ) : Option (Fin n) :=
  (List.finRange n).find? fun i => L.used (slots i) && L.key (slots i) == k

def free (slots : Fin n → α) : Option (Fin n) :=
  (List.finRange n).find? fun i => !L.used (slots i)

def count (slots : Fin n → α) : ℕ := (List.finRange n).countP fun i => L.used (slots i)

/-- The map the slots stand for. -/
def map [DecidableEq κ] (slots : Fin n → α) (k : κ) : Option α := (find L slots k).map slots

/-- The number of the keys of a map. -/
noncomputable def size (m : κ → Option α) : ℕ := Set.ncard {k | m k ≠ none}

/-- No key has two slots, and every slot that is not in use is blank. -/
structure Kept (slots : Fin n → α) : Prop where
  distinct : ∀ i j, L.used (slots i) = true → L.used (slots j) = true →
    L.key (slots i) = L.key (slots j) → i = j
  blank : ∀ i, L.used (slots i) = false → slots i = L.blank

variable {L} {slots : Fin n → α} {k : κ} {i : Fin n} {v : α}

theorem free_some (h : free L slots = some i) : L.used (slots i) = false := by
  have hi := List.find?_some h
  simpa using hi

theorem free_none (h : free L slots = none) (i : Fin n) : L.used (slots i) = true := by
  have hi := List.find?_eq_none.mp h i (List.mem_finRange i)
  simpa using hi

theorem kept_update (h : Kept L slots)
    (hdistinct : L.used v = true → ∀ j, j ≠ i → L.used (slots j) = true →
      L.key (slots j) ≠ L.key v)
    (hblank : L.used v = false → v = L.blank) : Kept L (Function.update slots i v) := by
  constructor
  · intro j l hj hl hkey
    by_cases hji : j = i
    · subst hji
      by_contra hne
      rw [Function.update_self] at hj hkey
      rw [Function.update_of_ne (fun e => hne e.symm)] at hl hkey
      exact hdistinct hj l (fun e => hne e.symm) hl hkey.symm
    · rw [Function.update_of_ne hji] at hj hkey
      by_cases hli : l = i
      · subst hli
        rw [Function.update_self] at hl hkey
        exact absurd hkey (hdistinct hl j hji hj)
      · rw [Function.update_of_ne hli] at hl hkey
        exact h.distinct j l hj hl hkey
  · intro j hj
    by_cases hji : j = i
    · subst hji
      rw [Function.update_self] at hj ⊢
      exact hblank hj
    · rw [Function.update_of_ne hji] at hj ⊢
      exact h.blank j hj

theorem count_eq_card (slots : Fin n → α) :
    count L slots = (Finset.univ.filter fun i => L.used (slots i) = true).card := by
  rw [count, List.countP_eq_length_filter, Fin.univ_def]
  simp [Finset.card, Finset.filter]

theorem count_le (slots : Fin n → α) : count L slots ≤ n := by
  rw [count_eq_card]
  exact (Finset.card_filter_le _ _).trans (Finset.card_fin n).le

theorem free_isSome_iff (slots : Fin n → α) : (free L slots).isSome = true ↔ count L slots < n := by
  rw [count_eq_card]
  constructor
  · intro h
    rcases Option.isSome_iff_exists.mp h with ⟨i,hi⟩
    refine (Finset.card_lt_univ_of_notMem (x := i) ?_).trans_eq (Fintype.card_fin n)
    simp [free_some hi]
  · intro h
    by_contra hnone
    have hall := free_none (Option.not_isSome_iff_eq_none.mp hnone)
    rw [Finset.filter_true_of_mem fun i _ => hall i, Finset.card_fin] at h
    exact Nat.lt_irrefl n h

variable [DecidableEq κ]

theorem find_some (h : find L slots k = some i) :
    L.used (slots i) = true ∧ L.key (slots i) = k := by
  have hi := List.find?_some h
  simpa using hi

theorem find_none (h : find L slots k = none) (hu : L.used (slots i) = true) :
    L.key (slots i) ≠ k := by
  have hi := List.find?_eq_none.mp h i (List.mem_finRange i)
  simpa [hu] using hi

theorem find_congr {slots' : Fin n → α}
    (h : ∀ j, (L.used (slots' j) && L.key (slots' j) == k) =
      (L.used (slots j) && L.key (slots j) == k)) : find L slots' k = find L slots k :=
  congrArg (fun p => (List.finRange n).find? p) (funext h)

theorem Kept.find_own (h : Kept L slots) (hu : L.used (slots i) = true) :
    find L slots (L.key (slots i)) = some i := by
  cases hf : find L slots (L.key (slots i)) with
  | none => exact absurd rfl (find_none hf hu)
  | some j =>
    rcases find_some hf with ⟨hj,hkey⟩
    rw [h.distinct j i hj hu hkey]

theorem map_none_iff : map L slots k = none ↔ find L slots k = none := Option.map_eq_none_iff

/-- Writing slot `i` does not show at a key that neither its old nor its new content has. -/
theorem map_update_other (hold : L.used (slots i) = true → L.key (slots i) ≠ k)
    (hnew : L.used v = true → L.key v ≠ k) :
    map L (Function.update slots i v) k = map L slots k := by
  have hfind : find L (Function.update slots i v) k = find L slots k := by
    apply find_congr
    intro j
    by_cases hj : j = i
    · subst hj
      rw [Function.update_self]
      cases hu : L.used (slots j) <;> cases hv : L.used v <;> simp_all
    · rw [Function.update_of_ne hj]
  unfold map
  rw [hfind]
  cases hf : find L slots k with
  | none => rfl
  | some j =>
    rcases find_some hf with ⟨hu,hkey⟩
    have hj : j ≠ i := by
      rintro rfl
      exact hold hu hkey
    rw [Option.map_some, Option.map_some, Function.update_of_ne hj]

theorem map_insert (hf : free L slots = some i) (hk : find L slots k = none)
    (hu : L.used v = true) (hkey : L.key v = k) :
    map L (Function.update slots i v) = Function.update (map L slots) k (some v) := by
  have hi := free_some hf
  ext1 l
  by_cases hl : l = k
  · subst hl
    rw [Function.update_self]
    have hfind : find L (Function.update slots i v) l = some i := by
      cases hn : find L (Function.update slots i v) l with
      | none =>
        have hother := find_none (i := i) hn (by rwa [Function.update_self])
        rw [Function.update_self] at hother
        exact absurd hkey hother
      | some j =>
        by_cases hj : j = i
        · rw [hj]
        · rcases find_some hn with ⟨hju,hjk⟩
          rw [Function.update_of_ne hj] at hju hjk
          exact absurd hjk (find_none hk hju)
    rw [map, hfind, Option.map_some, Function.update_self]
  · rw [Function.update_of_ne hl]
    exact map_update_other (fun hused => absurd hused (by rw [hi]; decide))
      fun _ e => hl (e.symm.trans hkey)

theorem map_erase (h : Kept L slots) (hk : find L slots k = some i) :
    map L (Function.update slots i L.blank) = Function.update (map L slots) k none := by
  rcases find_some hk with ⟨hu,hkey⟩
  ext1 l
  by_cases hl : l = k
  · subst hl
    rw [Function.update_self, map_none_iff]
    cases hn : find L (Function.update slots i L.blank) l with
    | none => rfl
    | some j =>
      rcases find_some hn with ⟨hju,hjk⟩
      by_cases hj : j = i
      · rw [hj, Function.update_self, L.blank_unused] at hju
        cases hju
      · rw [Function.update_of_ne hj] at hju hjk
        exact absurd (h.distinct j i hju hu (hjk.trans hkey.symm)) hj
  · rw [Function.update_of_ne hl]
    refine map_update_other (fun _ e => hl (e.symm.trans hkey)) fun hused => ?_
    rw [L.blank_unused] at hused
    cases hused

theorem Kept.count_eq_size (h : Kept L slots) : count L slots = size (map L slots) := by
  have hkeys : {k | map L slots k ≠ none} =
      ((Finset.univ.filter fun i => L.used (slots i) = true).image
        fun i => L.key (slots i) : Set κ) := by
    ext k
    simp only [Set.mem_ofPred_eq, ne_eq, map_none_iff, Finset.coe_image, Set.mem_image,
      Finset.mem_coe, Finset.mem_filter, Finset.mem_univ, true_and]
    constructor
    · intro hk
      rcases Option.ne_none_iff_exists'.mp hk with ⟨i,hi⟩
      exact ⟨i,find_some hi⟩
    · rintro ⟨i,hu,rfl⟩
      rw [h.find_own hu]
      exact Option.some_ne_none i
  rw [size, hkeys, Set.ncard_coe_finset, Finset.card_image_of_injOn, count_eq_card]
  intro i hi j hj hkey
  simp only [Finset.coe_filter, Finset.mem_univ, true_and, Set.mem_ofPred_eq] at hi hj
  exact h.distinct i j hi hj hkey

end Slots
