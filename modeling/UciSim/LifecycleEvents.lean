import UciSim.LifecycleShape

/-!
# Sessions and their events

Three laws tie the event queue to the sessions. Every event belongs to an active
session and is queued once; every transfer in progress has an event; and so does
every stream that is not over.
-/

set_option autoImplicit false

namespace UciSim.View

open KeyedQueue ScheduledEvent

variable {v : View}

theorem aged_key (elapsedMs : UInt32) (event : ScheduledEvent) :
    key (event.aged elapsedMs) = key event := rfl

def Owned (v : View) (k : EventType × UInt32) : Prop :=
  ∃ i, (v.slots i).allocated = true ∧ (v.slots i).sessionId = k.2 ∧
    (v.slots i).state = sessionStateActive ∧
    (k.1 = .dataTransfer → (v.slots i).inProgress = true)

structure Consistent (v : View) : Prop where
  owned : Only key v.Owned v.events
  once : Once key v.events

theorem owned_setSlot {i : Fin maxSessions} {s : Slot} {k : EventType × UInt32}
    (h : v.Owned k)
    (hs : (v.slots i).allocated = true → (v.slots i).sessionId = k.2 →
      (v.slots i).state = sessionStateActive →
      s.allocated = true ∧ s.sessionId = k.2 ∧ s.state = sessionStateActive ∧
        (k.1 = .dataTransfer → (v.slots i).inProgress = true → s.inProgress = true)) :
    (v.setSlot i s).Owned k := by
  obtain ⟨j,ha,hid,hactive,htransfer⟩ := h
  refine ⟨j,?_⟩
  by_cases hji : j = i
  · subst hji
    rw [setSlot_same]
    obtain ⟨hsa,hsid,hsactive,hstransfer⟩ := hs ha hid hactive
    exact ⟨hsa,hsid,hsactive,fun hk => hstransfer hk (htransfer hk)⟩
  · rw [setSlot_other v s hji]
    exact ⟨ha,hid,hactive,htransfer⟩

namespace Consistent

theorem owner (h : v.Consistent) (hw : v.WellFormed) {event : ScheduledEvent}
    (he : event ∈ v.events) {i : Fin maxSessions} (ha : (v.slots i).allocated = true)
    (hid : event.sessionId = (v.slots i).sessionId) :
    (v.slots i).state = sessionStateActive ∧
      (event.type = .dataTransfer → (v.slots i).inProgress = true) := by
  obtain ⟨j,hj,hjid,hactive,htransfer⟩ := h.owned event he
  rw [hw.distinct i j ha hj (hid.symm.trans hjid.symm)]
  exact ⟨hactive,htransfer⟩

theorem withEvents (h : v.Consistent) {events : List ScheduledEvent}
    (hsub : events.Sublist v.events) : (v.withEvents events).Consistent where
  owned := fun event he => h.owned event (hsub.subset he)
  once := List.Nodup.sublist (hsub.map key) h.once

theorem schedule (h : v.Consistent) (type : EventType) (sessionId delayMs : UInt32)
    (howned : v.Owned (type,sessionId)) (hfresh : (type,sessionId) ∉ v.events.map key) :
    (v.schedule type sessionId delayMs).Consistent := by
  unfold View.schedule
  split
  · exact h
  · exact ⟨only_append h.owned howned,once_append h.once hfresh⟩

theorem setSlot (h : v.Consistent) (i : Fin maxSessions) (s : Slot)
    (hs : ∀ event ∈ v.events, (v.slots i).allocated = true →
      (v.slots i).sessionId = event.sessionId → (v.slots i).state = sessionStateActive →
      s.allocated = true ∧ s.sessionId = event.sessionId ∧ s.state = sessionStateActive ∧
        (event.type = .dataTransfer → (v.slots i).inProgress = true → s.inProgress = true)) :
    (v.setSlot i s).Consistent where
  owned := only_mono h.owned fun event he hk => owned_setSlot hk (hs event he)
  once := h.once

/-- Cancelling the events of a session frees its slot to change. -/
theorem cancelled (h : v.Consistent) (i : Fin maxSessions) (s : Slot) :
    ((v.setSlot i s).cancel (v.slots i).sessionId).Consistent := by
  have hkept : (v.cancel (v.slots i).sessionId).Consistent := h.withEvents List.filter_sublist
  refine hkept.setSlot i s ?_
  intro event he _ hid
  have hne := (List.mem_filter.mp he).2
  simp at hne
  exact absurd hid.symm hne

theorem absent (h : v.Consistent) (hw : v.WellFormed) {i : Fin maxSessions}
    (ha : (v.slots i).allocated = true) (hrest : (v.slots i).state ≠ sessionStateActive)
    (type : EventType) : (type,(v.slots i).sessionId) ∉ v.events.map key := by
  intro hmem
  obtain ⟨event,he,hkey⟩ := List.mem_map.mp hmem
  exact hrest (h.owner hw he ha (congrArg Prod.snd hkey)).1

theorem dequeue (h : v.Consistent) : v.dequeue.Consistent := h.withEvents List.eraseP_sublist

theorem dequeue_fresh (h : v.Consistent) {event : ScheduledEvent}
    (hready : v.ready = some event) : event.key ∉ v.dequeue.events.map key :=
  taken_fresh hready h.once

theorem counting (h : v.Consistent) (i : Fin maxSessions) (remaining : UInt8) :
    (v.setSlot i ((v.slots i).counting remaining)).Consistent :=
  h.setSlot i _ fun _ _ ha hid hactive => ⟨ha,hid,hactive,fun _ hp => hp⟩

theorem started (h : v.Consistent) (i : Fin maxSessions) (s : Slot)
    (hrest : (v.slots i).state ≠ sessionStateActive) :
    (v.setSlot i s).Consistent :=
  h.setSlot i s fun _ _ _ _ hactive => absurd hactive hrest

theorem init : View.Consistent ⟨fun _ => Slot.zero,[]⟩ where
  owned := fun _ he => absurd he List.not_mem_nil
  once := List.nodup_nil

theorem apply (h : v.Consistent) (hw : v.WellFormed) (a : Action) (ha : v.Enabled a)
    (hclosed : ∀ i, a = .closed i → ∀ event ∈ v.events,
      event.sessionId ≠ (v.slots i).sessionId) : (v.apply a).Consistent := by
  cases a with
  | opened i sessionId =>
    refine h.setSlot i _ fun _ _ hi => ?_
    rw [ha.1] at hi
    cases hi
  | closed i =>
    exact h.setSlot i _ fun event he _ hid => absurd hid.symm (hclosed i rfl event he)
  | started i stream =>
    obtain ⟨ha,hstate⟩ := ha
    have hrest : (v.slots i).state ≠ sessionStateActive := by
      obtain hs | hs := hstate <;> rw [hs] <;> decide
    cases stream with
    | none => exact h.started i _ hrest
    | some stream =>
      obtain ⟨burst,delayMs⟩ := stream
      have hstarted := h.started i ((v.slots i).activated.counting burst) hrest
      simp only [View.apply, resume, setSlot_same]
      split
      · exact hstarted
      · refine hstarted.schedule _ _ _ ⟨i,?_⟩ (h.absent hw ha hrest _)
        rw [setSlot_same]
        exact ⟨ha,rfl,rfl,fun hk => by cases hk⟩
  | stopped i => exact h.cancelled i _
  | reported i => exact h
  | rescheduled i delayMs =>
    obtain ⟨ha,hactive⟩ := ha
    have hkept : (v.without .rangeData (v.slots i).sessionId).Consistent :=
      h.withEvents List.filter_sublist
    refine hkept.schedule _ _ _ ⟨i,ha,rfl,hactive,fun hk => by cases hk⟩ ?_
    intro hmem
    obtain ⟨event,he,hkey⟩ := List.mem_map.mp hmem
    have hkeep := (List.mem_filter.mp he).2
    simp only [key, Prod.mk.injEq] at hkey
    simp [hkey] at hkeep
  | begun i delayMs =>
    obtain ⟨ha,hactive,hidle,-⟩ := ha
    have hbegun : (v.setSlot i ((v.slots i).transferring true)).Consistent :=
      h.setSlot i _ fun _ _ ha hid hactive => ⟨ha,hid,hactive,fun _ _ => rfl⟩
    simp only [View.apply, resume, setSlot_same]
    refine hbegun.schedule _ _ _ ⟨i,?_⟩ ?_
    · rw [setSlot_same]
      exact ⟨ha,rfl,hactive,fun _ => rfl⟩
    · intro hmem
      obtain ⟨event,he,hkey⟩ := List.mem_map.mp hmem
      have hp := (h.owner hw he ha (congrArg Prod.snd hkey)).2 (congrArg Prod.fst hkey)
      rw [hidle] at hp
      cases hp
  | reset => exact init
  | elapsed elapsedMs => exact ⟨only_map (aged_key elapsedMs) h.owned,
      once_map (aged_key elapsedMs) h.once⟩
  | dropped => exact h.dequeue
  | abandoned => exact h.dequeue
  | streamed i remaining delayMs =>
    obtain ⟨⟨event,hready,hkey⟩,ha,hactive⟩ := ha
    have hcounted := h.dequeue.counting i remaining
    simp only [View.apply, resume, setSlot_same]
    split
    · exact hcounted
    · refine hcounted.schedule _ _ _ ⟨i,?_⟩ ?_
      · rw [setSlot_same]
        exact ⟨ha,rfl,hactive,fun hk => by cases hk⟩
      · have hfresh := h.dequeue_fresh hready
        rwa [hkey] at hfresh
  | ended i => exact h.dequeue.cancelled i _
  | repeated i delayMs =>
    obtain ⟨⟨⟨event,hready,hkey⟩,ha,hactive⟩,hp⟩ := ha
    refine h.dequeue.schedule _ _ _ ⟨i,ha,rfl,hactive,fun _ => hp⟩ ?_
    have hfresh := h.dequeue_fresh hready
    rwa [hkey] at hfresh
  | completed i =>
    obtain ⟨⟨event,hready,hkey⟩,ha,hactive⟩ := ha
    refine h.dequeue.setSlot i _ fun event' he' ha hid hactive => ⟨ha,hid,hactive,?_⟩
    intro htype
    have hfresh := h.dequeue_fresh hready
    rw [hkey] at hfresh
    exact absurd (List.mem_map.mpr ⟨event',he',Prod.ext htype hid.symm⟩) hfresh

end Consistent

end UciSim.View
