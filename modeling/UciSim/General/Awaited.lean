import UciSim.General.KeyedQueue

/-!
# The entry a key waits for

Entries of a queue run down, and the first that is due is taken at each turn. A key is
awaited when one entry carries it: that entry is taken once its time is up and the
entries before it are gone.
-/

set_option autoImplicit false

namespace Awaited

variable {ε κ : Type} {key : ε → κ} {left : ε → ℕ} {k : κ} {entries : List ε}

/-- One entry carries the key, with `time` at most left and `place` entries at most before it. -/
def Awaits (key : ε → κ) (left : ε → ℕ) (k : κ) (time place : ℕ) (entries : List ε) : Prop :=
  ∃ before e after, entries = before ++ e::after ∧ key e = k ∧ left e ≤ time ∧
    before.length ≤ place ∧ ∀ b ∈ before ++ after, key b ≠ k

/-- The entry of the key, if there is one, comes no later, and no other joins it. -/
def Keeps (key : ε → κ) (left : ε → ℕ) (k : κ) (entries entries' : List ε) : Prop :=
  (∀ time place, Awaits key left k time place entries → Awaits key left k time place entries') ∧
    ((∀ e ∈ entries, key e ≠ k) → ∀ e ∈ entries', key e ≠ k)

variable {time place : ℕ} {entries' entries'' : List ε} {due : ε → Bool} {e x : ε}

theorem awaits_mono {time' place' : ℕ} (h : Awaits key left k time place entries)
    (ht : time ≤ time') (hp : place ≤ place') : Awaits key left k time' place' entries := by
  rcases h with ⟨before,e,after,hentries,he,hleft,hlength,hother⟩
  exact ⟨before,e,after,hentries,he,Nat.le_trans hleft ht,Nat.le_trans hlength hp,hother⟩

theorem awaits_append (halone : ∀ b ∈ entries, key b ≠ k) (he : key e = k) :
    Awaits key left k (left e) entries.length (entries ++ [e]) := by
  refine ⟨entries,e,[],rfl,he,Nat.le_refl _,Nat.le_refl _,?_⟩
  rwa [List.append_nil]

theorem awaits_aged {f : ε → ε} {elapsed : ℕ} (hkey : ∀ e, key (f e) = key e)
    (hleft : ∀ e, left (f e) ≤ left e-elapsed) (h : Awaits key left k time place entries) :
    Awaits key left k (time-elapsed) place (entries.map f) := by
  rcases h with ⟨before,e,after,rfl,he,htime,hlength,hother⟩
  refine ⟨before.map f,f e,after.map f,by simp,(hkey e).trans he,?_,by simpa using hlength,?_⟩
  · have hage := hleft e
    omega
  · intro b hb
    rw [← List.map_append] at hb
    rcases List.mem_map.mp hb with ⟨c,hc,rfl⟩
    rw [hkey]
    exact hother c hc

theorem absent_aged {f : ε → ε} (hkey : ∀ e, key (f e) = key e)
    (h : ∀ e ∈ entries, key e ≠ k) : ∀ e ∈ entries.map f, key e ≠ k := by
  intro b hb
  rcases List.mem_map.mp hb with ⟨e,he,rfl⟩
  rw [hkey]
  exact h e he

theorem keeps_refl (entries : List ε) : Keeps key left k entries entries :=
  ⟨fun _ _ h => h,fun h => h⟩

theorem Keeps.trans (h : Keeps key left k entries entries')
    (h' : Keeps key left k entries' entries'') : Keeps key left k entries entries'' :=
  ⟨fun time place hw => h'.1 time place (h.1 time place hw),fun hn => h'.2 (h.2 hn)⟩

theorem keeps_append (he : key e ≠ k) : Keeps key left k entries (entries ++ [e]) := by
  constructor
  · rintro time place ⟨before,x,after,rfl,hx,hleft,hlength,hother⟩
    refine ⟨before,x,after ++ [e],by simp,hx,hleft,hlength,?_⟩
    intro b hb
    rw [← List.append_assoc] at hb
    rcases List.mem_append.mp hb with hb | hb
    · exact hother b hb
    · rwa [List.mem_singleton.mp hb]
  · intro hn b hb
    rcases List.mem_append.mp hb with hb | hb
    · exact hn b hb
    · rwa [List.mem_singleton.mp hb]

theorem keeps_filter {keep : ε → Bool} (hkeep : ∀ e, key e = k → keep e = true) :
    Keeps key left k entries (entries.filter keep) := by
  constructor
  · rintro time place ⟨before,e,after,rfl,he,hleft,hlength,hother⟩
    refine ⟨before.filter keep,e,after.filter keep,?_,he,hleft,
      Nat.le_trans (List.length_filter_le keep before) hlength,?_⟩
    · rw [List.filter_append, List.filter_cons_of_pos (hkeep e he)]
    · intro b hb
      rw [← List.filter_append] at hb
      exact hother b (List.mem_filter.mp hb).1
  · exact fun hn b hb => hn b (List.mem_filter.mp hb).1

theorem taken_beside {before after : List ε} (hfind : (before ++ e::after).find? due = some x)
    (hx : x ≠ e) :
    ((before.eraseP due).length+1 = before.length ∧
        (before ++ e::after).eraseP due = before.eraseP due ++ e::after) ∨
      (due e ≠ true ∧ (before ++ e::after).eraseP due = before ++ e::after.eraseP due) := by
  by_cases hbefore : ∃ b ∈ before, due b = true
  · rcases hbefore with ⟨b,hb,hdue⟩
    have hlength := List.length_eraseP_of_mem hb hdue
    have hpos := List.length_pos_of_mem hb
    exact Or.inl ⟨by omega,List.eraseP_append_left hdue _ hb⟩
  · have hnone : ∀ b ∈ before, ¬ due b = true := fun b hb hdue => hbefore ⟨b,hb,hdue⟩
    have hskip : before.find? due = none := List.find?_eq_none.mpr hnone
    rw [List.find?_append, hskip, Option.none_or] at hfind
    have hdue : due e ≠ true := by
      intro hdue
      rw [List.find?_cons_of_pos hdue] at hfind
      exact hx (Option.some.inj hfind).symm
    refine Or.inr ⟨hdue,?_⟩
    rw [List.eraseP_append_right _ hnone, List.eraseP_cons_of_neg hdue]

theorem keeps_taken (hfind : entries.find? due = some x) (hx : key x ≠ k) :
    Keeps key left k entries (entries.eraseP due) := by
  constructor
  · rintro time place ⟨before,e,after,rfl,he,hleft,hlength,hother⟩
    have hne : x ≠ e := fun h => hx (h ▸ he)
    rcases taken_beside hfind hne with ⟨hshorter,herased⟩ | ⟨-,herased⟩
    · refine ⟨before.eraseP due,e,after,herased,he,hleft,by omega,?_⟩
      intro b hb
      rcases List.mem_append.mp hb with hb | hb
      · exact hother b (List.mem_append_left _ (List.mem_of_mem_eraseP hb))
      · exact hother b (List.mem_append_right _ hb)
    · refine ⟨before,e,after.eraseP due,herased,he,hleft,hlength,?_⟩
      intro b hb
      rcases List.mem_append.mp hb with hb | hb
      · exact hother b (List.mem_append_left _ hb)
      · exact hother b (List.mem_append_right _ (List.mem_of_mem_eraseP hb))
  · exact fun hn b hb => hn b (List.mem_of_mem_eraseP hb)

theorem awaits_turn (hfind : entries.find? due = some x) (hx : key x ≠ k)
    (hdue : ∀ e, left e = 0 → due e = true) (h : Awaits key left k 0 place entries) :
    0 < place ∧ Awaits key left k 0 (place-1) (entries.eraseP due) := by
  rcases h with ⟨before,e,after,rfl,he,hleft,hlength,hother⟩
  have hne : x ≠ e := fun h => hx (h ▸ he)
  rcases taken_beside hfind hne with ⟨hshorter,herased⟩ | ⟨hlate,-⟩
  · refine ⟨by omega,before.eraseP due,e,after,herased,he,hleft,by omega,?_⟩
    intro b hb
    rcases List.mem_append.mp hb with hb | hb
    · exact hother b (List.mem_append_left _ (List.mem_of_mem_eraseP hb))
    · exact hother b (List.mem_append_right _ hb)
  · exact absurd (hdue e (Nat.le_zero.mp hleft)) hlate

theorem awaits_found (hdue : ∀ e, left e = 0 → due e = true)
    (h : Awaits key left k 0 place entries) : entries.find? due ≠ none := by
  rcases h with ⟨before,e,after,rfl,-,hleft,-⟩
  intro hnone
  exact List.find?_eq_none.mp hnone e (by simp) (hdue e (Nat.le_zero.mp hleft))

theorem awaits_taken [DecidableEq κ] (hfind : entries.find? due = some x)
    (h : Awaits key left (key x) time place entries) :
    ∀ b ∈ entries.eraseP due, key b ≠ key x := by
  rcases h with ⟨before,e,after,rfl,he,-,-,hother⟩
  rcases KeyedQueue.due_split hfind with ⟨front,back,hentries,herased⟩
  intro b hb hk
  have hcount := congrArg (fun es => (es.map key).count (key x)) hentries
  have habsent : (before.map key).count (key x) = 0 ∧ (after.map key).count (key x) = 0 := by
    constructor
    · refine List.count_eq_zero.mpr fun hmem => ?_
      rcases List.mem_map.mp hmem with ⟨c,hc,hck⟩
      exact hother c (List.mem_append_left _ hc) hck
    · refine List.count_eq_zero.mpr fun hmem => ?_
      rcases List.mem_map.mp hmem with ⟨c,hc,hck⟩
      exact hother c (List.mem_append_right _ hc) hck
  have hpos : 0 < ((front ++ back).map key).count (key x) := by
    rw [List.count_pos_iff, ← hk, ← herased]
    exact List.mem_map_of_mem hb
  simp only [List.map_append, List.map_cons, List.count_append, he, List.count_cons_self]
    at hcount hpos
  omega

end Awaited
