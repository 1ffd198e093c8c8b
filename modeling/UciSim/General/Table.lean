import Mathlib.Data.List.Induction
import Mathlib.Data.List.Nodup

/-!
# Bounded tables in insertion order

A table overwrites an existing key in place and appends a new one while it has
room. The operation fails only for a new key at full capacity.
-/

set_option autoImplicit false

namespace Table

variable {κ ν : Type} [DecidableEq κ]

def lookup (key : κ) : List (κ × ν) → Option ν
  | [] => none
  | (k,v)::rest => if k = key then some v else lookup key rest

def overwrite (key : κ) (value : ν) : List (κ × ν) → Option (List (κ × ν))
  | [] => none
  | (k,v)::rest =>
    if k = key then some ((k,value)::rest) else (overwrite key value rest).map ((k,v)::·)

def store (capacity : ℕ) (table : List (κ × ν)) (key : κ) (value : ν) :
    Option (List (κ × ν)) :=
  match overwrite key value table with
  | some table' => some table'
  | none => if table.length < capacity then some (table ++ [(key,value)]) else none

def keys (table : List (κ × ν)) : List κ := table.map Prod.fst

theorem lookup_eq_none_iff (key : κ) (table : List (κ × ν)) :
    lookup key table = none ↔ key ∉ keys table := by
  induction table with
  | nil => simp [lookup, keys]
  | cons entry rest ih =>
    obtain ⟨k,v⟩ := entry
    by_cases h : k = key
    · simp [lookup, keys, h]
    · have h' : ¬ key = k := fun e => h e.symm
      simpa [lookup, keys, h, h'] using ih

theorem overwrite_eq_none_iff (key : κ) (value : ν) (table : List (κ × ν)) :
    overwrite key value table = none ↔ key ∉ keys table := by
  induction table with
  | nil => simp [overwrite, keys]
  | cons entry rest ih =>
    obtain ⟨k,v⟩ := entry
    by_cases h : k = key
    · simp [overwrite, keys, h]
    · have h' : ¬ key = k := fun e => h e.symm
      simpa [overwrite, keys, h, h'] using ih

theorem store_cases {capacity : ℕ} {key : κ} {value : ν} {table table' : List (κ × ν)}
    (h : store capacity table key value = some table') :
    overwrite key value table = some table' ∨
      (key ∉ keys table ∧ table.length < capacity ∧ table' = table ++ [(key,value)]) := by
  unfold store at h
  cases ho : overwrite key value table with
  | some updated =>
    rw [ho] at h
    exact Or.inl h
  | none =>
    rw [ho] at h
    by_cases hroom : table.length < capacity
    · rw [if_pos hroom] at h
      exact Or.inr ⟨(overwrite_eq_none_iff key value table).mp ho,hroom,(Option.some.inj h).symm⟩
    · rw [if_neg hroom] at h
      cases h

theorem lookup_append_new (key other : κ) (value : ν) (table : List (κ × ν)) :
    lookup other (table ++ [(key,value)]) =
      (lookup other table).or (if key = other then some value else none) := by
  induction table with
  | nil => simp [lookup]
  | cons entry rest ih =>
    obtain ⟨k,v⟩ := entry
    by_cases h : k = other <;> simp [lookup, h, ih]

theorem lookup_overwrite (key other : κ) (value : ν) (table table' : List (κ × ν))
    (h : overwrite key value table = some table') :
    lookup other table' = if key = other then some value else lookup other table := by
  induction table generalizing table' with
  | nil => simp [overwrite] at h
  | cons entry rest ih =>
    obtain ⟨k,v⟩ := entry
    by_cases hk : k = key
    · simp only [overwrite, hk, if_true, Option.some.injEq] at h
      subst h
      subst hk
      by_cases ho : k = other <;> simp [lookup, ho]
    · simp only [overwrite, hk, if_false, Option.map_eq_some_iff] at h
      obtain ⟨rest',hrest,rfl⟩ := h
      by_cases ho : k = other
      · subst ho
        have hk' : ¬ key = k := fun e => hk e.symm
        simp [lookup, hk']
      · simp [lookup, ho, ih rest' hrest]

theorem lookup_store (capacity : ℕ) (key other : κ) (value : ν)
    (table table' : List (κ × ν)) (h : store capacity table key value = some table') :
    lookup other table' = if key = other then some value else lookup other table := by
  rcases store_cases h with ho | ⟨hnew,-,rfl⟩
  · exact lookup_overwrite key other value table table' ho
  · rw [lookup_append_new]
    by_cases hk : key = other
    · subst hk
      simp [(lookup_eq_none_iff key table).mpr hnew]
    · simp [hk]

theorem store_isSome_of_mem (capacity : ℕ) (key : κ) (value : ν) (table : List (κ × ν))
    (h : key ∈ keys table) : (store capacity table key value).isSome := by
  unfold store
  cases ho : overwrite key value table with
  | some updated => rfl
  | none => exact absurd h ((overwrite_eq_none_iff key value table).mp ho)

theorem overwrite_keys (key : κ) (value : ν) (table table' : List (κ × ν))
    (h : overwrite key value table = some table') : keys table' = keys table := by
  induction table generalizing table' with
  | nil => simp [overwrite] at h
  | cons entry rest ih =>
    obtain ⟨k,v⟩ := entry
    by_cases hk : k = key
    · simp only [overwrite, hk, if_true, Option.some.injEq] at h
      subst h
      simp [keys, hk]
    · simp only [overwrite, hk, if_false, Option.map_eq_some_iff] at h
      obtain ⟨rest',hrest,rfl⟩ := h
      have := ih rest' hrest
      simp only [keys, List.map_cons] at this ⊢
      rw [this]

theorem store_keys_nodup (capacity : ℕ) (key : κ) (value : ν) (table table' : List (κ × ν))
    (hn : (keys table).Nodup) (h : store capacity table key value = some table') :
    (keys table').Nodup := by
  rcases store_cases h with ho | ⟨hnew,-,rfl⟩
  · rwa [overwrite_keys key value table table' ho]
  · simp only [keys, List.map_append, List.map_cons, List.map_nil]
    refine List.nodup_append.mpr ⟨hn,List.nodup_singleton _,?_⟩
    rintro a ha b hb rfl
    rw [List.mem_singleton.mp hb] at ha
    exact hnew ha

theorem store_length_le (capacity : ℕ) (key : κ) (value : ν) (table table' : List (κ × ν))
    (hl : table.length ≤ capacity) (h : store capacity table key value = some table') :
    table'.length ≤ capacity := by
  rcases store_cases h with ho | ⟨-,hroom,rfl⟩
  · have hkeys := congrArg List.length (overwrite_keys key value table table' ho)
    simp only [keys, List.length_map] at hkeys
    omega
  · simp only [List.length_append, List.length_singleton]
    omega

theorem store_keys_subset (capacity : ℕ) (key : κ) (value : ν) (table table' : List (κ × ν))
    (h : store capacity table key value = some table') : keys table' ⊆ key :: keys table := by
  intro k hk
  have hlookup := lookup_store capacity key k value table table' h
  rw [List.mem_cons]
  by_contra hnew
  rw [not_or] at hnew
  rw [if_neg (fun e => hnew.1 e.symm), (lookup_eq_none_iff k table).mpr hnew.2] at hlookup
  exact (lookup_eq_none_iff k table').mp hlookup hk

theorem overwrite_mem {key : κ} {value : ν} {table table' : List (κ × ν)}
    (h : overwrite key value table = some table') {entry : κ × ν} (hmem : entry ∈ table') :
    entry.2 = value ∨ entry ∈ table := by
  induction table generalizing table' with
  | nil => cases h
  | cons head rest ih =>
    rcases head with ⟨k,v⟩
    by_cases hk : k = key
    · rw [overwrite, if_pos hk] at h
      cases h
      rcases List.mem_cons.mp hmem with rfl | hmem
      · exact Or.inl rfl
      · exact Or.inr (List.mem_cons_of_mem _ hmem)
    · rw [overwrite, if_neg hk] at h
      rcases Option.map_eq_some_iff.mp h with ⟨rest',hrest,rfl⟩
      rcases List.mem_cons.mp hmem with rfl | hmem
      · exact Or.inr List.mem_cons_self
      · exact (ih hrest hmem).imp_right (List.mem_cons_of_mem _)

theorem store_mem {capacity : ℕ} {key : κ} {value : ν} {table table' : List (κ × ν)}
    (h : store capacity table key value = some table') {entry : κ × ν} (hmem : entry ∈ table') :
    entry.2 = value ∨ entry ∈ table := by
  rcases store_cases h with ho | ⟨-,-,rfl⟩
  · exact overwrite_mem ho hmem
  · rcases List.mem_append.mp hmem with hmem | hmem
    · exact Or.inr hmem
    · rw [List.mem_singleton.mp hmem]
      exact Or.inl rfl

theorem overwrite_same {key : κ} {value : ν} {table : List (κ × ν)}
    (h : lookup key table = some value) : overwrite key value table = some table := by
  induction table with
  | nil => cases h
  | cons entry rest ih =>
    rcases entry with ⟨k,v⟩
    by_cases hk : k = key
    · rw [lookup, if_pos hk] at h
      rw [overwrite, if_pos hk, Option.some.inj h]
    · rw [lookup, if_neg hk] at h
      rw [overwrite, if_neg hk, ih h]
      rfl

/-- A store that succeeds leaves the table as it is just where the value is there already. -/
theorem store_same_iff {capacity : ℕ} {key : κ} {value : ν} {table : List (κ × ν)}
    (h : (store capacity table key value).isSome = true) :
    (store capacity table key value).getD table = table ↔ lookup key table = some value := by
  rcases Option.isSome_iff_exists.mp h with ⟨table',hstore⟩
  rw [hstore, Option.getD_some]
  constructor
  · rintro rfl
    simpa using lookup_store capacity key key value _ _ hstore
  · intro hlookup
    unfold store at hstore
    rw [overwrite_same hlookup] at hstore
    exact (Option.some.inj hstore).symm

/-- The index a store writes: that of the key, else the first one behind the table. -/
def slot (capacity : ℕ) (table : List (κ × ν)) (key : κ) : Option ℕ :=
  let index := table.findIdx (fun entry => decide (entry.1 = key))
  if index < capacity then some index else none

theorem slot_lt {capacity index : ℕ} {table : List (κ × ν)} {key : κ}
    (h : slot capacity table key = some index) : index < capacity := by
  by_cases hlt : table.findIdx (fun entry => decide (entry.1 = key)) < capacity
  · rw [slot, if_pos hlt] at h
    cases h
    exact hlt
  · rw [slot, if_neg hlt] at h
    cases h

theorem store_none_of_slot {capacity : ℕ} {table : List (κ × ν)} {key : κ} (value : ν)
    (hl : table.length ≤ capacity) (h : slot capacity table key = none) :
    store capacity table key value = none := by
  have hindex : ¬ table.findIdx (fun entry => decide (entry.1 = key)) < capacity := by
    intro hlt
    rw [slot, if_pos hlt] at h
    cases h
  have hle : table.findIdx (fun entry => decide (entry.1 = key)) ≤ table.length :=
    List.findIdx_le_length
  have hend : table.findIdx (fun entry => decide (entry.1 = key)) = table.length := by omega
  have hnew : key ∉ keys table := by
    intro hkey
    rcases List.mem_map.mp hkey with ⟨entry,hmem,hfst⟩
    have hnone := List.findIdx_eq_length.mp hend entry hmem
    exact absurd hfst (of_decide_eq_false hnone)
  rw [store, (overwrite_eq_none_iff key value table).mpr hnew]
  exact if_neg (by omega)

theorem store_isSome_of_allowed (capacity : ℕ) (key : κ) (value : ν) (table : List (κ × ν))
    {allowed : List κ} (hn : (keys table).Nodup) (hkeys : keys table ⊆ allowed)
    (hroom : allowed.length ≤ capacity) (hkey : key ∈ allowed) :
    (store capacity table key value).isSome := by
  by_cases hmem : key ∈ keys table
  · exact store_isSome_of_mem capacity key value table hmem
  · have hlength := List.Nodup.length_le_of_subset (List.nodup_cons.mpr ⟨hmem,hn⟩)
      (List.cons_subset.mpr ⟨hkey,hkeys⟩)
    rw [List.length_cons, keys, List.length_map] at hlength
    unfold store
    rw [(overwrite_eq_none_iff key value table).mpr hmem, if_pos (by omega)]
    rfl

/-- The table after a sequence of stores; a store that finds no room is passed over. -/
def storeAll (capacity : ℕ) (table log : List (κ × ν)) : List (κ × ν) :=
  log.foldl (fun table entry => (store capacity table entry.1 entry.2).getD table) table

/-- The value of the key's last entry in a log. -/
def last (key : κ) (log : List (κ × ν)) : Option ν :=
  log.foldl (fun value entry => if entry.1 = key then some entry.2 else value) none

theorem last_append (key : κ) (log : List (κ × ν)) (entry : κ × ν) :
    last key (log ++ [entry]) = if entry.1 = key then some entry.2 else last key log := by
  simp [last, List.foldl_append]

theorem last_mem {key : κ} {value : ν} {log : List (κ × ν)} (h : last key log = some value) :
    (key,value) ∈ log := by
  induction log using List.reverseRecOn with
  | nil => cases h
  | append_singleton log entry ih =>
    rw [last_append] at h
    by_cases hk : entry.1 = key
    · rw [if_pos hk] at h
      rw [← hk, ← Option.some.inj h]
      simp
    · rw [if_neg hk] at h
      exact List.mem_append_left _ (ih h)

/-- What the table holds is what the log says last. -/
def Records (log table : List (κ × ν)) : Prop :=
  ∀ key value, lookup key table = some value → last key log = some value

theorem records_nil (log : List (κ × ν)) : Records log ([] : List (κ × ν)) := by
  intro key value h
  cases h

theorem lookup_store_getD_other (capacity : ℕ) {key other : κ} (value : ν)
    (table : List (κ × ν)) (h : key ≠ other) :
    lookup other ((store capacity table key value).getD table) = lookup other table := by
  cases hs : store capacity table key value with
  | none => rfl
  | some table' =>
    rw [Option.getD_some, lookup_store capacity key other value table table' hs, if_neg h]

theorem records_store (capacity : ℕ) {log table : List (κ × ν)} (h : Records log table)
    (entry : κ × ν) :
    Records (log ++ [entry]) ((store capacity table entry.1 entry.2).getD table) := by
  intro key value hlookup
  rw [last_append]
  by_cases hk : entry.1 = key
  · rw [if_pos hk]
    cases hs : store capacity table entry.1 entry.2 with
    | some table' =>
      rw [hs, Option.getD_some, lookup_store capacity _ _ _ _ _ hs, if_pos hk] at hlookup
      exact hlookup
    | none =>
      -- A store fails for absent keys only.
      rw [hs, Option.getD_none] at hlookup
      have hmem : entry.1 ∈ keys table := by
        by_contra habsent
        rw [(lookup_eq_none_iff key table).mpr (hk ▸ habsent)] at hlookup
        cases hlookup
      have hsome := store_isSome_of_mem capacity entry.1 entry.2 table hmem
      rw [hs] at hsome
      cases hsome
  · rw [if_neg hk]
    rw [lookup_store_getD_other capacity _ _ hk] at hlookup
    exact h key value hlookup

theorem records_storeAll (capacity : ℕ) {log table : List (κ × ν)} (h : Records log table)
    (entries : List (κ × ν)) : Records (log ++ entries) (storeAll capacity table entries) := by
  induction entries generalizing log table with
  | nil => simpa [storeAll] using h
  | cons entry entries ih =>
    have hrest := ih (records_store capacity h entry)
    rwa [List.append_assoc, List.singleton_append] at hrest

theorem lookup_storeAll_other (capacity : ℕ) (key : κ) (table entries : List (κ × ν))
    (h : key ∉ keys entries) : lookup key (storeAll capacity table entries) = lookup key table := by
  induction entries generalizing table with
  | nil => rfl
  | cons entry entries ih =>
    rw [keys, List.map_cons, List.mem_cons, not_or] at h
    have hrest := ih ((store capacity table entry.1 entry.2).getD table) h.2
    rw [lookup_store_getD_other capacity _ _ fun e => h.1 e.symm] at hrest
    exact hrest

/-- The table holds for every key the last value of the log, and nothing besides. -/
def Mirrors (log table : List (κ × ν)) : Prop :=
  ∀ key, lookup key table = last key log

theorem mirrors_self {table : List (κ × ν)} (h : (keys table).Nodup) : Mirrors table table := by
  intro key
  induction table using List.reverseRecOn with
  | nil => rfl
  | append_singleton table entry ih =>
    rw [keys, List.map_append, List.map_cons, List.map_nil, List.nodup_append] at h
    rw [last_append, lookup_append_new entry.1 key entry.2 table, ih h.1]
    by_cases hkey : entry.1 = key
    · have hnew : key ∉ keys table := fun hmem =>
        h.2.2 key hmem entry.1 List.mem_cons_self hkey.symm
      rw [if_pos hkey, ← ih h.1, (lookup_eq_none_iff key table).mpr hnew, if_pos hkey]
      rfl
    · rw [if_neg hkey, if_neg hkey, Option.or_none]

theorem mirrors_store {capacity : ℕ} {log table table' : List (κ × ν)} {entry : κ × ν}
    (h : Mirrors log table) (hstore : store capacity table entry.1 entry.2 = some table') :
    Mirrors (log ++ [entry]) table' := by
  intro key
  rw [last_append, lookup_store capacity entry.1 key entry.2 table table' hstore, h key]

end Table
