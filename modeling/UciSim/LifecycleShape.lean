import UciSim.Lifecycle
import UciSim.General.KeyedQueue

/-!
# Well-formed views

Identifiers stay distinct, the event queue stays bounded, an allocated session
stays in a known state and a vacant slot has no transfer, whatever is applied.
-/

set_option autoImplicit false

namespace UciSim.View

@[simp] theorem setSlot_same (v : View) (i : Fin maxSessions) (s : Slot) :
    (v.setSlot i s).slots i = s := by
  simp [setSlot]

theorem setSlot_other (v : View) {i j : Fin maxSessions} (s : Slot) (h : j ≠ i) :
    (v.setSlot i s).slots j = v.slots j := by
  simp [setSlot, h]

theorem setSlot_self (v : View) (i : Fin maxSessions) : v.setSlot i (v.slots i) = v := by
  rw [setSlot, Function.update_eq_self]

@[simp] theorem setSlot_events (v : View) (i : Fin maxSessions) (s : Slot) :
    (v.setSlot i s).events = v.events := rfl

@[simp] theorem withEvents_slots (v : View) (events : List ScheduledEvent) :
    (v.withEvents events).slots = v.slots := rfl

@[simp] theorem withEvents_events (v : View) (events : List ScheduledEvent) :
    (v.withEvents events).events = events := rfl

@[simp] theorem dequeue_slots (v : View) : v.dequeue.slots = v.slots := rfl

@[simp] theorem cancel_slots (v : View) (sessionId : UInt32) :
    (v.cancel sessionId).slots = v.slots := rfl

@[simp] theorem without_slots (v : View) (type : EventType) (sessionId : UInt32) :
    (v.without type sessionId).slots = v.slots := rfl

theorem schedule_room {v : View} (type : EventType) (sessionId delayMs : UInt32)
    (h : v.events.length < maxScenarioEvents) :
    v.schedule type sessionId delayMs = v.withEvents (v.events ++ [⟨type,sessionId,delayMs⟩]) :=
  if_neg (Nat.not_le_of_lt h)

theorem schedule_full {v : View} (type : EventType) (sessionId delayMs : UInt32)
    (h : maxScenarioEvents ≤ v.events.length) : v.schedule type sessionId delayMs = v := if_pos h

@[simp] theorem schedule_slots (v : View) (type : EventType) (sessionId delayMs : UInt32) :
    (v.schedule type sessionId delayMs).slots = v.slots := by
  unfold schedule
  split <;> rfl

@[simp] theorem resume_slots (v : View) (type : EventType) (i : Fin maxSessions)
    (delayMs : UInt32) : (v.resume type i delayMs).slots = v.slots :=
  schedule_slots _ _ _ _

theorem dequeue_length {v : View} {event : ScheduledEvent} (h : v.ready = some event) :
    v.dequeue.events.length+1 = v.events.length := KeyedQueue.taken_length h

namespace WellFormed

variable {v : View}

theorem withEvents (h : v.WellFormed) (events : List ScheduledEvent)
    (hlen : events.length ≤ maxScenarioEvents) : (v.withEvents events).WellFormed :=
  ⟨h.distinct,hlen,h.known,h.vacant⟩

theorem filtered (h : v.WellFormed) (keep : ScheduledEvent → Bool) :
    (v.withEvents (v.events.filter keep)).WellFormed :=
  h.withEvents _ (Nat.le_trans (List.length_filter_le _ _) h.bounded)

theorem schedule (h : v.WellFormed) (type : EventType) (sessionId delayMs : UInt32) :
    (v.schedule type sessionId delayMs).WellFormed := by
  unfold View.schedule
  split
  · exact h
  · rename_i hroom
    refine h.withEvents _ ?_
    simp only [List.length_append, List.length_singleton]
    omega

theorem dequeue (h : v.WellFormed) : v.dequeue.WellFormed :=
  h.withEvents _ (Nat.le_trans List.length_eraseP_le h.bounded)

theorem elapse (h : v.WellFormed) (elapsedMs : UInt32) : (v.elapse elapsedMs).WellFormed :=
  h.withEvents _ (by rw [List.length_map]; exact h.bounded)

theorem setSlot (h : v.WellFormed) (i : Fin maxSessions) (s : Slot)
    (hid : s.allocated = true → ∀ j, j ≠ i → (v.slots j).allocated = true →
      (v.slots j).sessionId ≠ s.sessionId)
    (hknown : s.allocated = true → s.state = sessionStateInit ∨
      s.state = sessionStateActive ∨ s.state = sessionStateIdle)
    (hvacant : s.allocated = false → s.inProgress = false) : (v.setSlot i s).WellFormed where
  distinct := by
    intro j k hj hk hjk
    by_cases hji : j = i
    · subst hji
      by_contra hne
      rw [setSlot_same] at hj hjk
      rw [setSlot_other v s (Ne.symm hne)] at hk hjk
      exact hid hj k (Ne.symm hne) hk hjk.symm
    · rw [setSlot_other v s hji] at hj hjk
      by_cases hki : k = i
      · subst hki
        rw [setSlot_same] at hk hjk
        exact absurd hjk (hid hk j hji hj)
      · rw [setSlot_other v s hki] at hk hjk
        exact h.distinct j k hj hk hjk
  bounded := h.bounded
  known := by
    intro j hj
    by_cases hji : j = i
    · subst hji
      rw [setSlot_same] at hj ⊢
      exact hknown hj
    · rw [setSlot_other v s hji] at hj ⊢
      exact h.known j hj
  vacant := by
    intro j hj
    by_cases hji : j = i
    · subst hji
      rw [setSlot_same] at hj ⊢
      exact hvacant hj
    · rw [setSlot_other v s hji] at hj ⊢
      exact h.vacant j hj

/-- A session that keeps its slot and its identifier. -/
theorem update (h : v.WellFormed) (i : Fin maxSessions) (s : Slot)
    (hi : (v.slots i).allocated = true) (hs : s.allocated = true)
    (hid : s.sessionId = (v.slots i).sessionId)
    (hknown : s.state = sessionStateInit ∨ s.state = sessionStateActive ∨
      s.state = sessionStateIdle) : (v.setSlot i s).WellFormed := by
  refine h.setSlot i s ?_ (fun _ => hknown) (by simp [hs])
  intro _ j hji hj hsame
  exact hji (h.distinct j i hj hi (hsame.trans hid))

theorem init : View.WellFormed ⟨fun _ => Slot.zero,[]⟩ where
  distinct := by
    intro i j hi
    cases hi
  bounded := Nat.zero_le _
  known := by
    intro i hi
    cases hi
  vacant := fun _ _ => rfl

theorem apply (h : v.WellFormed) (a : Action) (ha : v.Enabled a) : (v.apply a).WellFormed := by
  cases a with
  | opened i sessionId =>
    exact h.setSlot i ((v.slots i).opened sessionId) (fun _ j _ hj => ha.2 j hj)
      (fun _ => Or.inl rfl) (fun hs => by cases hs)
  | closed i => exact h.setSlot i _ (fun hs => by cases hs) (fun hs => by cases hs) fun _ => rfl
  | started i stream =>
    obtain ⟨ha,-⟩ := ha
    cases stream with
    | none => exact h.update i _ ha ha rfl (Or.inr (Or.inl rfl))
    | some stream =>
      obtain ⟨burst,delayMs⟩ := stream
      have hstarted := h.update i ((v.slots i).activated.counting burst) ha ha rfl
        (Or.inr (Or.inl rfl))
      simp only [View.apply]
      split
      · exact hstarted
      · exact hstarted.schedule _ _ _
  | stopped i =>
    exact (h.update i (v.slots i).stopped ha.1 ha.1 rfl (Or.inr (Or.inr rfl))).filtered _
  | reported i => exact h
  | rescheduled i delayMs => exact (h.filtered _).schedule _ _ _
  | begun i delayMs =>
    obtain ⟨ha,hactive,-⟩ := ha
    exact (h.update i ((v.slots i).transferring true) ha ha rfl
      (Or.inr (Or.inl hactive))).schedule _ _ _
  | reset => exact init
  | elapsed elapsedMs => exact h.elapse elapsedMs
  | dropped => exact h.dequeue
  | abandoned => exact h.dequeue
  | streamed i remaining delayMs =>
    obtain ⟨-,ha,hactive⟩ := ha
    have hcounted := h.dequeue.update i ((v.slots i).counting remaining) ha ha rfl
      (Or.inr (Or.inl hactive))
    simp only [View.apply]
    split
    · exact hcounted
    · exact hcounted.schedule _ _ _
  | ended i =>
    exact (h.dequeue.update i (v.slots i).ended ha.2.1 ha.2.1 rfl
      (Or.inr (Or.inr rfl))).filtered _
  | repeated i delayMs => exact h.dequeue.schedule _ _ _
  | completed i =>
    exact h.dequeue.update i ((v.slots i).transferring false) ha.2.1 ha.2.1 rfl
      (Or.inr (Or.inl ha.2.2))

end WellFormed

end UciSim.View
