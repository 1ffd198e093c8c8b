import Mathlib.Data.List.Basic

/-!
# Arrays with a live prefix

An array of a fixed capacity and a count: the items stand in front, and the cells
behind them are blank. A search looks at the items only, a new item takes the
first cell behind them, and the items behind a removed one move up.
-/

set_option autoImplicit false

namespace Compact

structure Store (γ : Type) where
  cells : List γ
  count : ℕ
  deriving DecidableEq

variable {γ : Type} (blank : γ)

/-- The first cell among the counted ones that has the property. -/
def find (p : γ → Bool) (s : Store γ) : Option ℕ :=
  (List.range s.count).find? fun i => p (s.cells.getD i blank)

def push (item : γ) (s : Store γ) : Store γ := ⟨s.cells.set s.count item,s.count+1⟩

/-- Each cell from `i` on takes what the next one holds. -/
def shift : ℕ → ℕ → List γ → List γ
  | 0, _, cells => cells
  | turns+1, i, cells => shift turns (i+1) (cells.set i (cells.getD (i+1) blank))

def removeAt (i : ℕ) (s : Store γ) : Store γ :=
  ⟨(shift blank (s.count-1-i) i s.cells).set (s.count-1) blank,s.count-1⟩

def empty (capacity : ℕ) : Store γ := ⟨List.replicate capacity blank,0⟩

/-- The store holds the items, in order, and nothing behind them. -/
structure Holds (capacity : ℕ) (items : List γ) (s : Store γ) : Prop where
  count : s.count = items.length
  cells : s.cells = items ++ List.replicate (capacity-items.length) blank
  room : items.length ≤ capacity

variable {blank} {capacity : ℕ} {items : List γ} {s : Store γ}

theorem holds_empty (capacity : ℕ) : Holds blank capacity [] (empty blank capacity) :=
  ⟨rfl,rfl,Nat.zero_le _⟩

theorem Holds.length (h : Holds blank capacity items s) : s.cells.length = capacity := by
  have hroom := h.room
  rw [h.cells, List.length_append, List.length_replicate]
  omega

theorem Holds.getD (h : Holds blank capacity items s) {i : ℕ} (hi : i < items.length) :
    s.cells.getD i blank = items[i] := by
  rw [h.cells, List.getD_eq_getElem?_getD, List.getElem?_append_left hi,
    List.getElem?_eq_getElem hi]
  rfl

theorem Holds.blank_behind (h : Holds blank capacity items s) {i : ℕ} (hi : items.length ≤ i) :
    s.cells.getD i blank = blank := by
  rw [h.cells, List.getD_eq_getElem?_getD, List.getElem?_append_right hi, List.getElem?_replicate]
  split <;> rfl

theorem Holds.find (h : Holds blank capacity items s) (p : γ → Bool) :
    find blank p s = items.findIdx? p := by
  unfold Compact.find
  rw [h.count]
  cases hfound : items.findIdx? p with
  | none =>
    rw [List.find?_eq_none]
    intro i hi
    have hlt := List.mem_range.mp hi
    rw [h.getD hlt]
    have hnot := List.findIdx?_eq_none_iff.mp hfound items[i] (List.getElem_mem hlt)
    simp [hnot]
  | some i =>
    rcases List.findIdx?_eq_some_iff_getElem.mp hfound with ⟨hi,hp,hbefore⟩
    rw [List.find?_range_eq_some]
    refine ⟨?_,List.mem_range.mpr hi,?_⟩
    · rwa [h.getD hi]
    · intro j hj
      rw [h.getD (Nat.lt_trans hj hi)]
      simpa using hbefore j hj

theorem Holds.push (h : Holds blank capacity items s) (hroom : items.length < capacity)
    (item : γ) : Holds blank capacity (items ++ [item]) (push item s) where
  count := by
    rw [List.length_append, ← h.count]
    rfl
  cells := by
    have hblanks : capacity-items.length = capacity-(items ++ [item]).length+1 := by
      rw [List.length_append, List.length_singleton]
      omega
    show s.cells.set s.count item = _
    rw [h.count, h.cells, hblanks, List.replicate_succ, List.set_append_right _ _ (Nat.le_refl _),
      Nat.sub_self, List.set_cons_zero, List.append_assoc]
    rfl
  room := by
    rw [List.length_append, List.length_singleton]
    exact hroom

theorem shift_moves (blank : γ) (before : List γ) (item : γ) (after rest : List γ) :
    ∃ last, shift blank after.length before.length (before ++ item::(after ++ rest)) =
      before ++ (after ++ last::rest) := by
  induction after generalizing before item with
  | nil => exact ⟨item,rfl⟩
  | cons next after ih =>
    have hnext : (before ++ item::(next::after ++ rest)).getD (before.length+1) blank = next := by
      rw [List.getD_eq_getElem?_getD, List.getElem?_append_right (Nat.le_succ _)]
      simp
    rcases ih (before ++ [next]) next with ⟨last,hlast⟩
    refine ⟨last,?_⟩
    rw [List.length_cons, shift, hnext, List.set_append_right _ _ (Nat.le_refl _), Nat.sub_self,
      List.set_cons_zero]
    rw [List.length_append, List.length_singleton, List.append_assoc] at hlast
    simpa using hlast

theorem Holds.removeAt (h : Holds blank capacity items s) {i : ℕ} (hi : i < items.length) :
    Holds blank capacity (items.eraseIdx i) (removeAt blank i s) where
  count := by
    rw [List.length_eraseIdx_of_lt hi, ← h.count]
    rfl
  cells := by
    have hroom := h.room
    have hsplit : items = items.take i ++ items[i]::items.drop (i+1) := by
      rw [List.getElem_cons_drop, List.take_append_drop]
    have hbefore : (items.take i).length = i := List.length_take_of_le (Nat.le_of_lt hi)
    have hafter : (items.drop (i+1)).length = s.count-1-i := by
      rw [List.length_drop, h.count]
      omega
    have hblanks : capacity-(items.eraseIdx i).length = capacity-items.length+1 := by
      rw [List.length_eraseIdx_of_lt hi]
      omega
    rcases shift_moves blank (items.take i) items[i] (items.drop (i+1))
      (List.replicate (capacity-items.length) blank) with ⟨last,hshift⟩
    rw [hbefore, hafter] at hshift
    have hcells : s.cells = items.take i ++ items[i]::(items.drop (i+1) ++
        List.replicate (capacity-items.length) blank) := by
      rw [h.cells]
      refine (congrArg (· ++ List.replicate (capacity-items.length) blank) hsplit).trans ?_
      rw [List.append_assoc, List.cons_append]
    have hlast : s.count-1 = (items.take i ++ items.drop (i+1)).length := by
      rw [List.length_append, hbefore, hafter, h.count]
      omega
    show (shift blank (s.count-1-i) i s.cells).set (s.count-1) blank = _
    rw [hcells, hshift, ← List.append_assoc, hlast, List.set_append_right _ _ (Nat.le_refl _),
      Nat.sub_self, List.set_cons_zero, hblanks, List.replicate_succ,
      List.eraseIdx_eq_take_drop_succ]
  room := by
    have hroom := h.room
    rw [List.length_eraseIdx_of_lt hi]
    omega

end Compact
