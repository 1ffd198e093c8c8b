import Mathlib.Data.List.Perm.Basic

/-!
# A delivery slot before a bounded queue

One item travels in the slot of the current call, the others wait in a queue
of fixed capacity. An item that finds the queue full is dropped. The mailbox
keeps the history of the items it accepted.
-/

set_option autoImplicit false

namespace Mailbox

variable {α : Type}

structure State (α : Type) where
  slot : Option α
  pending : List α
  accepted : List α

def queue (capacity : ℕ) (m : State α) (a : α) : State α :=
  if m.pending.length ≥ capacity then m
  else { m with pending := m.pending ++ [a], accepted := m.accepted ++ [a] }

def place (m : State α) (a : α) : State α :=
  { m with slot := some a, accepted := m.accepted ++ [a] }

def deliver (capacity : ℕ) (deferring : Bool) (m : State α) (a : α) : State α :=
  if deferring then queue capacity m a
  else if m.slot.isNone then place m a
  else queue capacity m a

/-- An empty slot takes the oldest waiting item. -/
def settle (m : State α) : State α :=
  match m.slot, m.pending with
  | none, a::rest => { m with slot := some a, pending := rest }
  | _, _ => m

def held (m : State α) : List α := m.slot.toList ++ m.pending

/-- What the mailbox holds is what it held before together with what it accepted. -/
def Balanced (before : List α) (m : State α) : Prop :=
  List.Perm (held m) (before ++ m.accepted)

theorem queue_balanced (capacity : ℕ) (before : List α) (m : State α) (a : α)
    (h : Balanced before m) : Balanced before (queue capacity m a) := by
  unfold queue
  by_cases hc : m.pending.length ≥ capacity
  · simpa [hc] using h
  · simp only [hc, if_false, Balanced, held]
    rw [← List.append_assoc, ← List.append_assoc]
    exact h.append_right [a]

theorem place_balanced (before : List α) (m : State α) (a : α) (hm : m.slot = none)
    (h : Balanced before m) : Balanced before (place m a) := by
  have hp : m.pending.Perm (before ++ m.accepted) := by simpa [Balanced, held, hm] using h
  simp only [Balanced, held, place, Option.toList_some]
  rw [← List.append_assoc]
  exact List.perm_append_comm.trans (hp.append_right [a])

theorem deliver_balanced (capacity : ℕ) (deferring : Bool) (before : List α) (m : State α)
    (a : α) (h : Balanced before m) : Balanced before (deliver capacity deferring m a) := by
  unfold deliver
  by_cases hd : deferring = true
  · simpa [hd] using queue_balanced capacity before m a h
  · cases hs : m.slot with
    | none => simpa [hd, hs] using place_balanced before m a hs h
    | some b => simpa [hd, hs] using queue_balanced capacity before m a h

theorem settle_held (m : State α) : held (settle m) = held m := by
  obtain ⟨slot,pending,accepted⟩ := m
  cases slot with
  | some a => rfl
  | none => cases pending <;> rfl

theorem settle_accepted (m : State α) : (settle m).accepted = m.accepted := by
  obtain ⟨slot,pending,accepted⟩ := m
  cases slot <;> cases pending <;> rfl

theorem settle_silent (m : State α) (h : (settle m).slot = none) : held (settle m) = [] := by
  obtain ⟨slot,pending,accepted⟩ := m
  cases slot with
  | some a => cases h
  | none =>
    cases pending with
    | nil => rfl
    | cons a rest => cases h

theorem settle_balanced (before : List α) (m : State α) (h : Balanced before m) :
    Balanced before (settle m) := by
  unfold Balanced at h ⊢
  rwa [settle_held, settle_accepted]

def queueAll (capacity : ℕ) (m : State α) (items : List α) : State α :=
  items.foldl (queue capacity) m

def deliverAll (capacity : ℕ) (deferring : Bool) (m : State α) (items : List α) : State α :=
  items.foldl (deliver capacity deferring) m

theorem queueAll_balanced (capacity : ℕ) (before : List α) (m : State α) (items : List α)
    (h : Balanced before m) : Balanced before (queueAll capacity m items) := by
  induction items generalizing m with
  | nil => exact h
  | cons a items ih => exact ih _ (queue_balanced capacity before m a h)

theorem deliverAll_balanced (capacity : ℕ) (deferring : Bool) (before : List α) (m : State α)
    (items : List α) (h : Balanced before m) :
    Balanced before (deliverAll capacity deferring m items) := by
  induction items generalizing m with
  | nil => exact h
  | cons a items ih => exact ih _ (deliver_balanced capacity deferring before m a h)

theorem queue_capacity {capacity : ℕ} {m : State α} (a : α) (h : m.pending.length ≤ capacity) :
    (queue capacity m a).pending.length ≤ capacity := by
  unfold queue
  by_cases hc : m.pending.length ≥ capacity
  · rw [if_pos hc]
    exact h
  · rw [if_neg hc]
    rw [List.length_append, List.length_singleton]
    omega

theorem queueAll_capacity {capacity : ℕ} {m : State α} (items : List α)
    (h : m.pending.length ≤ capacity) : (queueAll capacity m items).pending.length ≤ capacity := by
  induction items generalizing m with
  | nil => exact h
  | cons a items ih => exact ih (queue_capacity a h)

theorem queue_pending_mem {capacity : ℕ} {m : State α} {a b : α}
    (h : b ∈ (queue capacity m a).pending) : b ∈ m.pending ∨ b = a := by
  unfold queue at h
  split at h
  · exact Or.inl h
  · simpa using h

theorem queueAll_pending_mem {capacity : ℕ} {m : State α} {items : List α} {b : α}
    (h : b ∈ (queueAll capacity m items).pending) : b ∈ m.pending ∨ b ∈ items := by
  induction items generalizing m with
  | nil => exact Or.inl h
  | cons a items ih =>
    rcases ih h with hq | hitems
    · rcases queue_pending_mem hq with hm | rfl
      · exact Or.inl hm
      · exact Or.inr List.mem_cons_self
    · exact Or.inr (List.mem_cons_of_mem a hitems)

/-- What a queue accepts it accepted before, or it is one of the items. -/
theorem queueAll_accepted_mem {capacity : ℕ} {m : State α} {items : List α} {b : α}
    (h : b ∈ (queueAll capacity m items).accepted) : b ∈ m.accepted ∨ b ∈ items := by
  induction items generalizing m with
  | nil => exact Or.inl h
  | cons a items ih =>
    rcases ih h with hq | hitems
    · unfold queue at hq
      split at hq
      · exact Or.inl hq
      · rcases List.mem_append.mp hq with hm | ha
        · exact Or.inl hm
        · exact Or.inr (List.mem_singleton.mp ha ▸ List.mem_cons_self)
    · exact Or.inr (List.mem_cons_of_mem a hitems)

theorem deliver_held_mem {capacity : ℕ} {deferring : Bool} {m : State α} {a b : α}
    (h : b ∈ held (deliver capacity deferring m a)) : b ∈ held m ∨ b = a := by
  have hqueue : b ∈ held (queue capacity m a) → b ∈ held m ∨ b = a := by
    intro hq
    unfold queue at hq
    split at hq
    · exact Or.inl hq
    · simpa [held, or_assoc] using hq
  unfold deliver at h
  split at h
  · exact hqueue h
  · split at h
    · simp only [held, place, Option.toList_some, List.mem_append, List.mem_singleton] at h ⊢
      rcases h with rfl | h
      · exact Or.inr rfl
      · exact Or.inl (Or.inr h)
    · exact hqueue h

/-- What a mailbox holds after deliveries it held before, or it was delivered. -/
theorem deliverAll_held_mem {capacity : ℕ} {deferring : Bool} {m : State α} {items : List α}
    {b : α} (h : b ∈ held (deliverAll capacity deferring m items)) :
    b ∈ held m ∨ b ∈ items := by
  induction items generalizing m with
  | nil => exact Or.inl h
  | cons a items ih =>
    rcases ih h with hd | hitems
    · rcases deliver_held_mem hd with hm | rfl
      · exact Or.inl hm
      · exact Or.inr List.mem_cons_self
    · exact Or.inr (List.mem_cons_of_mem a hitems)

theorem queue_held_length (capacity : ℕ) (m : State α) (a : α) :
    (held (queue capacity m a)).length ≤ (held m).length+1 := by
  unfold queue
  split
  · exact Nat.le_succ _
  · simp only [held, List.length_append, List.length_singleton]
    omega

theorem deliver_held_length (capacity : ℕ) (deferring : Bool) (m : State α) (a : α) :
    (held (deliver capacity deferring m a)).length ≤ (held m).length+1 := by
  unfold deliver
  split
  · exact queue_held_length capacity m a
  split
  · simp only [held, place, Option.toList_some, List.length_append, List.length_singleton]
    omega
  · exact queue_held_length capacity m a

theorem deliverAll_held_length (capacity : ℕ) (deferring : Bool) (m : State α)
    (items : List α) :
    (held (deliverAll capacity deferring m items)).length ≤ (held m).length+items.length := by
  induction items generalizing m with
  | nil => exact Nat.le_refl _
  | cons a items ih =>
    have hstep := deliver_held_length capacity deferring m a
    have hrest := ih (deliver capacity deferring m a)
    simp only [deliverAll, List.foldl_cons, List.length_cons] at hrest ⊢
    omega

theorem queueAll_slot (capacity : ℕ) (m : State α) (items : List α) :
    (queueAll capacity m items).slot = m.slot := by
  induction items generalizing m with
  | nil => rfl
  | cons a items ih =>
    refine (ih _).trans ?_
    unfold queue
    split <;> rfl

theorem queueAll_length (capacity : ℕ) (m : State α) (items : List α) :
    (queueAll capacity m items).pending.length ≤ m.pending.length+items.length := by
  induction items generalizing m with
  | nil => simp [queueAll]
  | cons a items ih =>
    have hq : (queue capacity m a).pending.length ≤ m.pending.length+1 := by
      unfold queue
      split <;> simp
    have := ih (queue capacity m a)
    simp only [queueAll, List.foldl_cons, List.length_cons] at this ⊢
    omega

/-- The items wait in order behind what waited, as many as there is room for. -/
theorem queueAll_takes (capacity : ℕ) (m : State α) (items : List α) :
    queueAll capacity m items =
      { m with pending := m.pending ++ items.take (capacity-m.pending.length),
               accepted := m.accepted ++ items.take (capacity-m.pending.length) } := by
  induction items generalizing m with
  | nil => simp [queueAll]
  | cons a items ih =>
    have hstep : queueAll capacity m (a::items) =
      queueAll capacity (queue capacity m a) items := rfl
    rw [hstep]
    by_cases hc : m.pending.length ≥ capacity
    · have hfull : capacity-m.pending.length = 0 := by omega
      have hq : queue capacity m a = m := if_pos hc
      rw [hq, ih, hfull, List.take_zero, List.take_zero]
    · have hroom : capacity-m.pending.length = capacity-(m.pending.length+1)+1 := by omega
      have hq : queue capacity m a =
          { m with pending := m.pending ++ [a], accepted := m.accepted ++ [a] } := if_neg hc
      rw [hq, ih, hroom]
      simp [List.append_assoc]

/-- With room for all of them the items queue up in order. -/
theorem queueAll_room (capacity : ℕ) (m : State α) (items : List α)
    (h : m.pending.length+items.length ≤ capacity) :
    queueAll capacity m items =
      { m with pending := m.pending ++ items, accepted := m.accepted ++ items } := by
  rw [queueAll_takes, List.take_of_length_le (by omega)]

/-- The items a queue accepts wait in order behind what waited. -/
theorem queueAll_appends (capacity : ℕ) (m : State α) (items : List α) :
    ∃ kept, queueAll capacity m items =
      { m with pending := m.pending ++ kept, accepted := m.accepted ++ kept } :=
  ⟨_,queueAll_takes capacity m items⟩

theorem deliverAll_deferred (capacity : ℕ) (m : State α) (items : List α) :
    deliverAll capacity true m items = queueAll capacity m items := by
  induction items generalizing m with
  | nil => rfl
  | cons a items ih => exact ih _

theorem deliverAll_occupied (capacity : ℕ) (m : State α) (b : α) (items : List α)
    (hm : m.slot = some b) :
    deliverAll capacity false m items = queueAll capacity m items := by
  induction items generalizing m with
  | nil => rfl
  | cons a items ih =>
    have hd : deliver capacity false m a = queue capacity m a := by simp [deliver, hm]
    have hs : (queue capacity m a).slot = some b := by
      unfold queue
      by_cases hc : m.pending.length ≥ capacity <;> simp [hc, hm]
    simpa [deliverAll, queueAll, hd] using ih _ hs

/-- From an empty mailbox the first item travels and the others wait behind it. -/
theorem deliverAll_empty (capacity : ℕ) (items : List α) (h : items.length ≤ capacity+1) :
    deliverAll capacity false ⟨none,[],[]⟩ items = ⟨items.head?,items.tail,items⟩ := by
  cases items with
  | nil => rfl
  | cons a items =>
    simp only [List.length_cons] at h
    have hd : deliverAll capacity false ⟨none,[],[]⟩ (a::items) =
        deliverAll capacity false ⟨some a,[],[a]⟩ items := rfl
    rw [hd, deliverAll_occupied capacity _ a items rfl,
      queueAll_room capacity _ items (by simp; omega)]
    simp

end Mailbox
