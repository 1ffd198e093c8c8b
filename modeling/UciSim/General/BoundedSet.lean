import Mathlib.Data.Finset.Card
import Mathlib.Data.List.ReduceOption

/-!
# Bounded sets kept in cells

A set with room for a fixed number of members is kept in cells, each empty or
holding an entry for one member. A new entry takes the first empty cell and a
removed one leaves a hole, so the order of the cells says nothing. As long as no
member has two cells, the cells behave as the set.
-/

set_option autoImplicit false

namespace BoundedSet

inductive Verdict where
  | done
  | present
  | full
  | absent
  deriving DecidableEq, Repr

variable {α β : Type} [DecidableEq α]

def add (capacity : ℕ) (s : Finset α) (a : α) : Verdict × Finset α :=
  if a ∈ s then (.present,s)
  else if s.card < capacity then (.done,insert a s)
  else (.full,s)

def remove (s : Finset α) (a : α) : Verdict × Finset α :=
  if a ∈ s then (.done,s.erase a) else (.absent,s)

/-- The verdicts of a sequence of operations, and the set they leave. -/
def run (op : Finset α → α → Verdict × Finset α) (s : Finset α) :
    List α → List Verdict × Finset α
  | [] => ([],s)
  | a::as => ((op s a).1::(run op (op s a).2 as).1,(run op (op s a).2 as).2)

omit [DecidableEq α] in
theorem run_length (op : Finset α → α → Verdict × Finset α) (s : Finset α) (as : List α) :
    (run op s as).1.length = as.length := by
  induction as generalizing s with
  | nil => rfl
  | cons a as ih => simp [run, ih]

theorem add_card {capacity : ℕ} {s : Finset α} {a : α} (h : (add capacity s a).1 = .done) :
    (add capacity s a).2.card = s.card+1 ∧ s.card < capacity := by
  unfold add at h ⊢
  by_cases ha : a ∈ s
  · rw [if_pos ha] at h
    cases h
  by_cases hroom : s.card < capacity
  · rw [if_neg ha, if_pos hroom]
    exact ⟨Finset.card_insert_of_notMem ha,hroom⟩
  · rw [if_neg ha, if_neg hroom] at h
    cases h

theorem remove_card {s : Finset α} {a : α} (h : (remove s a).1 = .done) :
    (remove s a).2.card+1 = s.card := by
  unfold remove at h ⊢
  by_cases ha : a ∈ s
  · rw [if_pos ha]
    exact Finset.card_erase_add_one ha
  · rw [if_neg ha] at h
    cases h

/-- No more additions succeed in a row than there is room for. -/
theorem adds_bounded {capacity : ℕ} {s : Finset α} {as : List α} (hs : s.card ≤ capacity)
    (h : ∀ verdict ∈ (run (add capacity) s as).1, verdict = .done) :
    s.card+as.length ≤ capacity := by
  induction as generalizing s with
  | nil => simpa using hs
  | cons a as ih =>
    have hcard := add_card (h (add capacity s a).1 List.mem_cons_self)
    have htail := ih (s := (add capacity s a).2) (by omega)
      (fun verdict hmem => h verdict (List.mem_cons_of_mem _ hmem))
    rw [List.length_cons]
    omega

/-- No more removals succeed in a row than there are members. -/
theorem removes_bounded {s : Finset α} {as : List α}
    (h : ∀ verdict ∈ (run remove s as).1, verdict = .done) : as.length ≤ s.card := by
  induction as generalizing s with
  | nil => exact Nat.zero_le _
  | cons a as ih =>
    have hcard := remove_card (h (remove s a).1 List.mem_cons_self)
    have htail := ih (s := (remove s a).2)
      (fun verdict hmem => h verdict (List.mem_cons_of_mem _ hmem))
    rw [List.length_cons]
    omega

section

variable (key : β → α)

def members (cells : List (Option β)) : List α := cells.reduceOption.map key

def contents (cells : List (Option β)) : Finset α := (members key cells).toFinset

/-- No member has two cells. -/
def Distinct (cells : List (Option β)) : Prop := (members key cells).Nodup

instance (cells : List (Option β)) : Decidable (Distinct key cells) :=
  inferInstanceAs (Decidable (List.Nodup _))

def holds (a : α) : Option β → Bool
  | none => false
  | some b => key b == a

def put (cells : List (Option β)) (b : β) : Verdict × List (Option β) :=
  if cells.any (holds key (key b)) then (.present,cells)
  else match cells.findIdx? Option.isNone with
    | some i => (.done,cells.set i (some b))
    | none => (.full,cells)

def clear (cells : List (Option β)) (a : α) : Verdict × List (Option β) :=
  match cells.findIdx? (holds key a) with
  | some i => (.done,cells.set i none)
  | none => (.absent,cells)

end

variable {key : β → α} {cells : List (Option β)}

theorem any_holds_iff (a : α) : cells.any (holds key a) = true ↔ a ∈ contents key cells := by
  simp only [contents, members, List.mem_toFinset, List.mem_map, List.reduceOption_mem_iff,
    List.any_eq_true]
  constructor
  · rintro ⟨cell,hmem,hholds⟩
    cases cell with
    | none => cases hholds
    | some b => exact ⟨b,hmem,by simpa [holds] using hholds⟩
  · rintro ⟨b,hmem,rfl⟩
    exact ⟨some b,hmem,by simp [holds]⟩

theorem contents_card (h : Distinct key cells) :
    (contents key cells).card = cells.reduceOption.length := by
  rw [contents, List.toFinset_card_of_nodup h, members, List.length_map]

theorem contents_card_le (h : Distinct key cells) : (contents key cells).card ≤ cells.length := by
  rw [contents_card h]
  exact List.reduceOption_length_le cells

omit [DecidableEq α] in
/-- Overwriting a cell exchanges what it holds. -/
theorem members_set {i : ℕ} (hi : i < cells.length) (cell : Option β) :
    (members key (cells.set i cell)).Perm
      ((cell.map key).toList ++ members key (cells.eraseIdx i)) := by
  have hperm := ((List.set_perm_cons_eraseIdx hi cell).filterMap id).map key
  cases cell with
  | none => exact hperm
  | some b => exact hperm

omit [DecidableEq α] in
theorem members_get {i : ℕ} (hi : i < cells.length) :
    (members key cells).Perm ((cells[i].map key).toList ++ members key (cells.eraseIdx i)) := by
  have hperm : (members key (cells.set i cells[i])).Perm _ := members_set hi cells[i]
  rwa [List.set_getElem_self] at hperm

/-- With distinct members, putting an entry is adding its member. -/
theorem put_refines (h : Distinct key cells) (b : β) :
    Distinct key (put key cells b).2 ∧ (put key cells b).2.length = cells.length ∧
      add cells.length (contents key cells) (key b) =
        ((put key cells b).1,contents key (put key cells b).2) := by
  unfold put add
  by_cases hmem : key b ∈ contents key cells
  · rw [if_pos ((any_holds_iff _).mpr hmem), if_pos hmem]
    exact ⟨h,rfl,rfl⟩
  rw [if_neg fun hany => hmem ((any_holds_iff _).mp hany), if_neg hmem, contents_card h]
  cases hfree : cells.findIdx? Option.isNone with
  | none =>
    have hsome : cells.filter Option.isNone = [] := by
      rw [List.filter_eq_nil_iff]
      intro cell hcell
      have hused := List.findIdx?_eq_none_iff.mp hfree cell hcell
      simp [hused]
    have hlength := List.length_eq_reduceOption_length_add_filter_none (l := cells)
    rw [hsome, List.length_nil] at hlength
    rw [if_neg (by omega)]
    exact ⟨h,rfl,rfl⟩
  | some i =>
    rcases List.findIdx?_eq_some_iff_getElem.mp hfree with ⟨hi,hnone,-⟩
    have hcell : cells[i] = none := Option.isNone_iff_eq_none.mp hnone
    have hbefore : (members key cells).Perm _ := members_get hi
    have hafter : (members key (cells.set i (some b))).Perm _ := members_set hi (some b)
    rw [hcell] at hbefore
    have hperm : (members key (cells.set i (some b))).Perm (key b::members key cells) :=
      hafter.trans (hbefore.symm.cons (key b))
    have hroom : cells.reduceOption.length < cells.length := by
      rw [List.length_eq_reduceOption_length_add_filter_none (l := cells)]
      have hpos := List.length_filter_pos_iff.mpr ⟨cells[i],List.getElem_mem hi,hnone⟩
      omega
    rw [if_pos hroom]
    refine ⟨?_,List.length_set,?_⟩
    · refine hperm.nodup_iff.mpr (List.nodup_cons.mpr ⟨?_,h⟩)
      rwa [contents, List.mem_toFinset] at hmem
    · refine Prod.ext rfl ?_
      ext a
      simp [contents, hperm.mem_iff]

/-- With distinct members, clearing a cell is removing its member. -/
theorem clear_refines (h : Distinct key cells) (a : α) :
    Distinct key (clear key cells a).2 ∧ (clear key cells a).2.length = cells.length ∧
      remove (contents key cells) a =
        ((clear key cells a).1,contents key (clear key cells a).2) := by
  unfold clear remove
  cases hfound : cells.findIdx? (holds key a) with
  | none =>
    have habsent : a ∉ contents key cells := by
      intro hmem
      rcases List.any_eq_true.mp ((any_holds_iff a).mpr hmem) with ⟨cell,hcell,hholds⟩
      exact absurd (List.findIdx?_eq_none_iff.mp hfound cell hcell) (by simp [hholds])
    rw [if_neg habsent]
    exact ⟨h,rfl,rfl⟩
  | some i =>
    rcases List.findIdx?_eq_some_iff_getElem.mp hfound with ⟨hi,hholds,-⟩
    have hmem : a ∈ contents key cells :=
      (any_holds_iff a).mp (List.any_eq_true.mpr ⟨cells[i],List.getElem_mem hi,hholds⟩)
    have hcell : cells[i].map key = some a := by
      cases hc : cells[i] with
      | none =>
        rw [hc] at hholds
        cases hholds
      | some b =>
        rw [hc] at hholds
        simpa [holds] using hholds
    have hbefore : (members key cells).Perm _ := members_get hi
    have hafter : (members key (cells.set i none)).Perm _ := members_set hi none
    rw [hcell] at hbefore
    have hperm : (members key cells).Perm (a::members key (cells.set i none)) :=
      hbefore.trans (hafter.symm.cons a)
    have hnodup := List.nodup_cons.mp (hperm.nodup_iff.mp h)
    rw [if_pos hmem]
    refine ⟨hnodup.2,List.length_set,?_⟩
    refine Prod.ext rfl ?_
    ext b
    simp only [contents, Finset.mem_erase, List.mem_toFinset, hperm.mem_iff, List.mem_cons]
    constructor
    · rintro ⟨hne,hb⟩
      exact hb.resolve_left hne
    · intro hb
      refine ⟨?_,Or.inr hb⟩
      rintro rfl
      exact hnodup.1 hb

end BoundedSet
