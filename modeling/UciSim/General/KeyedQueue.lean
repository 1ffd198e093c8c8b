import Mathlib.Data.List.Basic
import Mathlib.Data.List.Nodup

/-!
# Queues of keyed entries

A queue covers the keys that need an entry, admits only some keys, and may hold
each key once. The lemmas say what appending, filtering, rewriting an entry in
place and taking the first entry that is due do to each of the three.
-/

set_option autoImplicit false

namespace KeyedQueue

variable {ε κ : Type} {key : ε → κ}

def Covers (key : ε → κ) (needed : κ → Prop) (entries : List ε) : Prop :=
  ∀ k, needed k → ∃ e ∈ entries, key e = k

def Only (key : ε → κ) (admitted : κ → Prop) (entries : List ε) : Prop :=
  ∀ e ∈ entries, admitted (key e)

def Once (key : ε → κ) (entries : List ε) : Prop := (entries.map key).Nodup

section Due

variable {due : ε → Bool} {entries : List ε} {e : ε}

theorem due_split (h : entries.find? due = some e) :
    ∃ before after, entries = before ++ e::after ∧ entries.eraseP due = before ++ after := by
  obtain ⟨hdue,before,after,rfl,hbefore⟩ := List.find?_eq_some_iff_append.mp h
  refine ⟨before,after,rfl,?_⟩
  have hnot : ∀ b ∈ before, ¬ due b = true := by simpa using hbefore
  rw [List.eraseP_append_right _ hnot, List.eraseP_cons_of_pos hdue]

theorem taken_length (h : entries.find? due = some e) :
    (entries.eraseP due).length+1 = entries.length := by
  obtain ⟨before,after,hentries,herased⟩ := due_split h
  rw [herased, hentries]
  simp only [List.length_append, List.length_cons]
  omega

/-- With each key once, the entry taken leaves no other of its key behind. -/
theorem taken_fresh (hfind : entries.find? due = some e) (h : Once key entries) :
    key e ∉ (entries.eraseP due).map key := by
  obtain ⟨before,after,hentries,herased⟩ := due_split hfind
  rw [herased]
  have hnodup : (before.map key ++ key e::after.map key).Nodup := by
    simpa [Once, hentries] using h
  rw [List.map_append]
  exact (List.nodup_middle.mp hnodup).notMem

/-- Every other entry stays. -/
theorem taken_covers {needed : κ → Prop} (hfind : entries.find? due = some e)
    (h : Covers key needed entries) :
    Covers key (fun k => needed k ∧ k ≠ key e) (entries.eraseP due) := by
  obtain ⟨before,after,hentries,herased⟩ := due_split hfind
  rintro k ⟨hk,hne⟩
  obtain ⟨b,hb,hkey⟩ := h k hk
  refine ⟨b,?_,hkey⟩
  rw [hentries] at hb
  rw [herased]
  rcases List.mem_append.mp hb with hb | hb
  · exact List.mem_append_left _ hb
  · rcases List.mem_cons.mp hb with rfl | hb
    · exact absurd hkey.symm hne
    · exact List.mem_append_right _ hb

end Due

variable {entries : List ε}

theorem covers_mono {needed needed' : κ → Prop} (h : Covers key needed entries)
    (hle : ∀ k, needed' k → needed k) : Covers key needed' entries :=
  fun k hk => h k (hle k hk)

theorem only_mono {admitted admitted' : κ → Prop} (h : Only key admitted entries)
    (hle : ∀ e ∈ entries, admitted (key e) → admitted' (key e)) : Only key admitted' entries :=
  fun e he => hle e he (h e he)

theorem covers_append {needed : κ → Prop} {e : ε}
    (h : Covers key (fun k => needed k ∧ k ≠ key e) entries) :
    Covers key needed (entries ++ [e]) := by
  intro k hk
  by_cases hke : k = key e
  · exact ⟨e,List.mem_append_right _ (List.mem_singleton.mpr rfl),hke.symm⟩
  · obtain ⟨b,hb,hkey⟩ := h k ⟨hk,hke⟩
    exact ⟨b,List.mem_append_left _ hb,hkey⟩

theorem only_append {admitted : κ → Prop} {e : ε} (h : Only key admitted entries)
    (he : admitted (key e)) : Only key admitted (entries ++ [e]) := by
  intro b hb
  rcases List.mem_append.mp hb with hb | hb
  · exact h b hb
  · rwa [List.mem_singleton.mp hb]

theorem once_append {e : ε} (h : Once key entries) (he : key e ∉ entries.map key) :
    Once key (entries ++ [e]) := by
  unfold Once
  rw [List.map_append]
  exact List.Nodup.append h (List.nodup_singleton _) (by simpa using he)

theorem covers_filter {needed : κ → Prop} {keep : ε → Bool} (h : Covers key needed entries) :
    Covers key (fun k => needed k ∧ ∀ e, key e = k → keep e = true) (entries.filter keep) := by
  rintro k ⟨hk,hkeep⟩
  obtain ⟨b,hb,hkey⟩ := h k hk
  exact ⟨b,List.mem_filter.mpr ⟨hb,hkeep b hkey⟩,hkey⟩

section Rewriting

variable {f : ε → ε} (hf : ∀ e, key (f e) = key e)

include hf

theorem covers_map {needed : κ → Prop} (h : Covers key needed entries) :
    Covers key needed (entries.map f) := by
  intro k hk
  obtain ⟨b,hb,hkey⟩ := h k hk
  exact ⟨f b,List.mem_map_of_mem hb,(hf b).trans hkey⟩

theorem only_map {admitted : κ → Prop} (h : Only key admitted entries) :
    Only key admitted (entries.map f) := by
  intro e he
  obtain ⟨b,hb,rfl⟩ := List.mem_map.mp he
  rw [hf b]
  exact h b hb

theorem once_map (h : Once key entries) : Once key (entries.map f) := by
  have hkeys : (entries.map f).map key = entries.map key := by
    rw [List.map_map]
    exact List.map_congr_left fun e _ => hf e
  rwa [Once, hkeys]

end Rewriting

end KeyedQueue
