import UciSim.General.KeyedQueue

/-!
# Timers in a queue

An entry of the queue runs down while time passes. A key is paced when one entry at
most carries it and what is left of that entry, with the time that has passed since,
makes up the time demanded.
-/

set_option autoImplicit false

namespace Timers

variable {ε κ : Type} [DecidableEq κ] {key : ε → κ} {left : ε → ℕ} {k : κ}
  {demanded passed : ℕ} {entries : List ε}

def Paced (key : ε → κ) (left : ε → ℕ) (k : κ) (demanded passed : ℕ) (entries : List ε) : Prop :=
  (∀ e ∈ entries, key e = k → demanded ≤ passed+left e) ∧ (entries.map key).count k ≤ 1

theorem paced_absent (h : ∀ e ∈ entries, key e ≠ k) : Paced key left k demanded passed entries := by
  constructor
  · intro e he hk
    exact absurd hk (h e he)
  · rw [List.count_eq_zero.mpr]
    · exact Nat.zero_le 1
    · intro hk
      rcases List.mem_map.mp hk with ⟨e,he,hek⟩
      exact h e he hek

theorem paced_sublist {entries' : List ε} (hs : entries'.Sublist entries)
    (h : Paced key left k demanded passed entries) : Paced key left k demanded passed entries' :=
  ⟨fun e he => h.1 e (hs.subset he),Nat.le_trans ((hs.map key).count_le k) h.2⟩

theorem paced_append_other {e : ε} (he : key e ≠ k)
    (h : Paced key left k demanded passed entries) :
    Paced key left k demanded passed (entries ++ [e]) := by
  constructor
  · intro b hb hk
    rcases List.mem_append.mp hb with hb | hb
    · exact h.1 b hb hk
    · rw [List.mem_singleton.mp hb] at hk
      exact absurd hk he
  · rw [List.map_append, List.count_append, List.map_singleton, List.count_singleton,
      if_neg (by simpa using he)]
    exact h.2

theorem paced_append_alone {e : ε} (halone : ∀ b ∈ entries, key b ≠ k)
    (hlasts : demanded ≤ passed+left e) :
    Paced key left k demanded passed (entries ++ [e]) := by
  constructor
  · intro b hb hk
    rcases List.mem_append.mp hb with hb | hb
    · exact absurd hk (halone b hb)
    · rwa [List.mem_singleton.mp hb]
  · have hnone : (entries.map key).count k = 0 := by
      rw [List.count_eq_zero]
      intro hk
      rcases List.mem_map.mp hk with ⟨b,hb,hbk⟩
      exact halone b hb hbk
    rw [List.map_append, List.count_append, hnone, List.map_singleton, List.count_singleton]
    split <;> omega

theorem paced_aged {f : ε → ε} {elapsed : ℕ} (hkey : ∀ e, key (f e) = key e)
    (hleft : ∀ e, left e ≤ elapsed+left (f e)) (h : Paced key left k demanded passed entries) :
    Paced key left k demanded (passed+elapsed) (entries.map f) := by
  constructor
  · intro b hb hk
    rcases List.mem_map.mp hb with ⟨e,he,rfl⟩
    have hpaced := h.1 e he ((hkey e).symm.trans hk)
    have hage := hleft e
    omega
  · have hkeys : (entries.map f).map key = entries.map key := by
      rw [List.map_map]
      exact List.map_congr_left fun e _ => hkey e
    rw [hkeys]
    exact h.2

theorem paced_taken {due : ε → Bool} {e : ε} (hfind : entries.find? due = some e)
    (h : Paced key left (key e) demanded passed entries) :
    demanded ≤ passed+left e ∧ ∀ b ∈ entries.eraseP due, key b ≠ key e := by
  rcases KeyedQueue.due_split hfind with ⟨before,after,hentries,herased⟩
  constructor
  · exact h.1 e (List.mem_of_find?_eq_some hfind) rfl
  · intro b hb hk
    have hcount := h.2
    have hmem : key e ∈ (before ++ after).map key := by
      rw [← herased, ← hk]
      exact List.mem_map_of_mem hb
    have hpos := List.count_pos_iff.mpr hmem
    rw [hentries] at hcount
    simp only [List.map_append, List.map_cons, List.count_append, List.count_cons_self]
      at hcount hpos
    omega

end Timers
