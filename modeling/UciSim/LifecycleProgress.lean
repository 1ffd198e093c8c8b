import UciSim.LifecycleEvents

/-!
# Events for sessions that wait for them

A session waits for its event of one type while a predicate of its slot holds.
The two instances are the transfer in progress and the stream that is not over.
-/

set_option autoImplicit false

namespace UciSim.View

open KeyedQueue ScheduledEvent

variable {v : View}

def Waiting (v : View) (type : EventType) (waits : Slot → Prop) (k : EventType × UInt32) : Prop :=
  ∃ i, (v.slots i).allocated = true ∧ waits (v.slots i) ∧ k = (type,(v.slots i).sessionId)

def Covered (v : View) (type : EventType) (waits : Slot → Prop) : Prop :=
  Covers key (v.Waiting type waits) v.events

section Covered

variable {type : EventType} {waits : Slot → Prop}

theorem waiting_setSlot {i : Fin maxSessions} {s : Slot} {k : EventType × UInt32}
    (h : (v.setSlot i s).Waiting type waits k) :
    (s.allocated = true ∧ waits s ∧ k = (type,s.sessionId)) ∨
      ∃ j, j ≠ i ∧ (v.slots j).allocated = true ∧ waits (v.slots j) ∧
        k = (type,(v.slots j).sessionId) := by
  obtain ⟨j,ha,hwaits,hk⟩ := h
  by_cases hji : j = i
  · subst hji
    rw [setSlot_same] at ha hwaits hk
    exact Or.inl ⟨ha,hwaits,hk⟩
  · rw [setSlot_other v s hji] at ha hwaits hk
    exact Or.inr ⟨j,hji,ha,hwaits,hk⟩

/-- A slot that waits for nothing new. -/
theorem Covered.setSlot (h : v.Covered type waits) (i : Fin maxSessions) (s : Slot)
    (hs : s.allocated = true → waits s → (v.slots i).allocated = true ∧ waits (v.slots i) ∧
      s.sessionId = (v.slots i).sessionId) : (v.setSlot i s).Covered type waits := by
  refine covers_mono h fun k hk => ?_
  obtain ⟨hsa,hswaits,rfl⟩ | ⟨j,-,ha,hwaits,rfl⟩ := waiting_setSlot hk
  · obtain ⟨ha,hwaits,hid⟩ := hs hsa hswaits
    exact ⟨i,ha,hwaits,by rw [hid]⟩
  · exact ⟨j,ha,hwaits,rfl⟩

theorem Covered.append (h : v.Covered type waits) (event : ScheduledEvent) :
    (v.withEvents (v.events ++ [event])).Covered type waits :=
  covers_append (covers_mono h fun _ hk => hk.1)

theorem Covered.schedule (h : v.Covered type waits) (type' : EventType)
    (sessionId delayMs : UInt32) : (v.schedule type' sessionId delayMs).Covered type waits := by
  unfold View.schedule
  split
  · exact h
  · exact h.append _

/-- With room the event scheduled covers its own key. -/
theorem covered_scheduled {sessionId delayMs : UInt32}
    (h : Covers key (fun k => v.Waiting type waits k ∧ k ≠ (type,sessionId)) v.events)
    (hroom : v.events.length < maxScenarioEvents) :
    (v.schedule type sessionId delayMs).Covered type waits := by
  rw [schedule_room _ _ _ hroom]
  exact covers_append (e := (⟨type,sessionId,delayMs⟩ : ScheduledEvent)) h

theorem Covered.elapse (h : v.Covered type waits) (elapsedMs : UInt32) :
    (v.elapse elapsedMs).Covered type waits :=
  covers_map (aged_key elapsedMs) h

theorem Covered.dequeue (h : v.Covered type waits) {event : ScheduledEvent}
    (hready : v.ready = some event) (hidle : ¬ v.Waiting type waits event.key) :
    v.dequeue.Covered type waits :=
  covers_mono (taken_covers hready h) fun _ hk => ⟨hk,fun he => hidle (he ▸ hk)⟩

theorem Covered.dequeue_other (h : v.Covered type waits) {event : ScheduledEvent}
    (hready : v.ready = some event) (htype : event.type ≠ type) :
    v.dequeue.Covered type waits := by
  refine h.dequeue hready ?_
  rintro ⟨i,-,-,hk⟩
  exact htype (congrArg Prod.fst hk)

/-- Serving an event ends what its session waited for, or schedules it again. -/
theorem Covered.served (h : v.Covered type waits) {event : ScheduledEvent}
    {i : Fin maxSessions} (hready : v.ready = some event)
    (hkey : event.key = (type,(v.slots i).sessionId)) (s : Slot)
    (hs : s.allocated = true → s.sessionId = (v.slots i).sessionId) :
    Covers key (fun k => (v.dequeue.setSlot i s).Waiting type waits k ∧
      k ≠ (type,(v.slots i).sessionId)) v.dequeue.events := by
  refine covers_mono (taken_covers hready h) ?_
  rintro k ⟨hk,hne⟩
  refine ⟨?_,by rwa [hkey]⟩
  obtain ⟨hsa,-,rfl⟩ | ⟨j,-,hja,hwaits,rfl⟩ := waiting_setSlot hk
  · rw [hs hsa] at hne
    exact absurd rfl hne
  · exact ⟨j,hja,hwaits,rfl⟩

theorem Covered.over (hw : v.WellFormed) {i : Fin maxSessions} {s : Slot}
    {events : List ScheduledEvent} (ha : (v.slots i).allocated = true) (hs : ¬ waits s)
    (h : Covers key (fun k => (v.setSlot i s).Waiting type waits k ∧
      k ≠ (type,(v.slots i).sessionId)) events) :
    ((v.withEvents events).setSlot i s).Covered type waits := by
  refine covers_mono h fun k hk => ⟨hk,?_⟩
  obtain ⟨-,hwaits,-⟩ | ⟨j,hji,hja,-,rfl⟩ := waiting_setSlot hk
  · exact absurd hwaits hs
  · intro hk
    exact hji (hw.distinct j i hja ha (congrArg Prod.snd hk))

/-- Cancelling leaves the events of the other sessions. -/
theorem Covered.cancel (h : v.Covered type waits) (hw : v.WellFormed) (i : Fin maxSessions)
    (ha : (v.slots i).allocated = true) (hs : ¬ waits (v.slots i)) :
    (v.cancel (v.slots i).sessionId).Covered type waits := by
  refine covers_mono (covers_filter h) ?_
  rintro k ⟨j,hja,hwaits,rfl⟩
  refine ⟨⟨j,hja,hwaits,rfl⟩,fun event he => ?_⟩
  have hid : event.sessionId = (v.slots j).sessionId := congrArg Prod.snd he
  rw [hid]
  simp only [bne_iff_ne, ne_eq]
  intro hsame
  rw [hw.distinct j i hja ha hsame] at hwaits
  exact hs hwaits

/-- A slot that comes to rest while its events are cancelled. -/
theorem Covered.rested (hw : v.WellFormed) (i : Fin maxSessions) (s : Slot)
    (ha : (v.slots i).allocated = true) (hsa : s.allocated = true)
    (hid : s.sessionId = (v.slots i).sessionId) (hstate : s.state = sessionStateIdle)
    (hs : ¬ waits s) (h : (v.setSlot i s).Covered type waits) :
    ((v.setSlot i s).cancel (v.slots i).sessionId).Covered type waits := by
  have hw' := hw.update i s ha hsa hid (Or.inr (Or.inr hstate))
  have hcancel := h.cancel hw' i (by rwa [setSlot_same]) (by rwa [setSlot_same])
  rwa [setSlot_same, hid] at hcancel

end Covered

structure TransferLive (v : View) : Prop where
  active : ∀ i, (v.slots i).allocated = true → (v.slots i).inProgress = true →
    (v.slots i).state = sessionStateActive
  covered : v.Covered .dataTransfer (fun s => s.inProgress = true)

namespace TransferLive

theorem active_setSlot (h : v.TransferLive) (i : Fin maxSessions) (s : Slot)
    (hs : s.allocated = true → s.inProgress = true → s.state = sessionStateActive) :
    ∀ j, ((v.setSlot i s).slots j).allocated = true →
      ((v.setSlot i s).slots j).inProgress = true →
      ((v.setSlot i s).slots j).state = sessionStateActive := by
  intro j
  by_cases hji : j = i
  · subst hji
    rw [setSlot_same]
    exact hs
  · rw [setSlot_other v s hji]
    exact h.active j

theorem init : View.TransferLive ⟨fun _ => Slot.zero,[]⟩ where
  active := by
    intro i hi
    cases hi
  covered := by
    rintro k ⟨i,hi,-⟩
    cases hi

theorem apply (h : v.TransferLive) (hw : v.WellFormed) (a : Action) (ha : v.Enabled a)
    (habandoned : a ≠ .abandoned)
    (hended : ∀ i, a = .ended i → (v.slots i).inProgress = false) :
    (v.apply a).TransferLive := by
  cases a with
  | opened i sessionId =>
    have hvacant := hw.vacant i ha.1
    exact ⟨h.active_setSlot i _ fun _ hp => absurd (hvacant.symm.trans hp) (by decide),
      h.covered.setSlot i _ fun _ hp => absurd (hvacant.symm.trans hp) (by decide)⟩
  | closed i =>
    exact ⟨h.active_setSlot i _ (fun hs => by cases hs),
      h.covered.setSlot i _ (fun hs => by cases hs)⟩
  | started i stream =>
    obtain ⟨ha,-⟩ := ha
    cases stream with
    | none =>
      exact ⟨h.active_setSlot i _ fun _ _ => rfl,
        h.covered.setSlot i _ fun _ hp => ⟨ha,hp,rfl⟩⟩
    | some stream =>
      obtain ⟨burst,delayMs⟩ := stream
      have hactive := h.active_setSlot i ((v.slots i).activated.counting burst) fun _ _ => rfl
      have hcovered := h.covered.setSlot i ((v.slots i).activated.counting burst)
        fun _ hp => ⟨ha,hp,rfl⟩
      simp only [View.apply]
      split
      · exact ⟨hactive,hcovered⟩
      · exact ⟨by rwa [resume_slots],hcovered.schedule _ _ _⟩
  | stopped i =>
    exact ⟨h.active_setSlot i _ (fun _ hp => by cases hp),
      Covered.rested hw i _ ha.1 ha.1 rfl rfl (by simp [Slot.stopped])
        (h.covered.setSlot i _ (fun _ hp => by cases hp))⟩
  | reported i => exact h
  | rescheduled i delayMs =>
    have hkept : (v.without .rangeData (v.slots i).sessionId).Covered .dataTransfer
        (fun s => s.inProgress = true) := by
      refine covers_mono (covers_filter h.covered) ?_
      rintro k ⟨j,hja,hp,rfl⟩
      refine ⟨⟨j,hja,hp,rfl⟩,fun event he => ?_⟩
      have htype : event.type = .dataTransfer := congrArg Prod.fst he
      simp [htype]
    exact ⟨by
      simp only [View.apply, resume_slots, without_slots]
      exact h.active,hkept.schedule _ _ _⟩
  | begun i delayMs =>
    obtain ⟨ha,hactive,-,hroom⟩ := ha
    have hbegun := h.active_setSlot i ((v.slots i).transferring true) fun _ _ => hactive
    simp only [View.apply, resume, setSlot_same]
    refine ⟨by rwa [schedule_slots],covered_scheduled ?_ hroom⟩
    refine covers_mono h.covered ?_
    rintro k ⟨hk,hne⟩
    obtain ⟨-,-,rfl⟩ | ⟨j,-,hja,hp,rfl⟩ := waiting_setSlot hk
    · exact absurd rfl hne
    · exact ⟨j,hja,hp,rfl⟩
  | reset => exact init
  | elapsed elapsedMs => exact ⟨h.active,h.covered.elapse elapsedMs⟩
  | dropped =>
    obtain ⟨event,hready,hidle⟩ := ha
    refine ⟨h.active,h.covered.dequeue hready ?_⟩
    rintro ⟨i,hia,hp,hk⟩
    have := (hidle i hia (h.active i hia hp)).2 hk
    rw [hp] at this
    cases this
  | abandoned => exact absurd rfl habandoned
  | streamed i remaining delayMs =>
    obtain ⟨⟨event,hready,hkey⟩,ha,hactive⟩ := ha
    have htype : event.type ≠ .dataTransfer := by
      have : event.type = .rangeData := congrArg Prod.fst hkey
      simp [this]
    have hactive' := h.active_setSlot i ((v.slots i).counting remaining) fun _ _ => hactive
    have hcovered := (h.covered.dequeue_other hready htype).setSlot i
      ((v.slots i).counting remaining) fun _ hp => ⟨ha,hp,rfl⟩
    simp only [View.apply]
    split
    · exact ⟨hactive',hcovered⟩
    · exact ⟨by rw [resume_slots]; exact hactive',hcovered.schedule _ _ _⟩
  | ended i =>
    obtain ⟨⟨event,hready,hkey⟩,ha,-⟩ := ha
    have hidle := hended i rfl
    have htype : event.type ≠ .dataTransfer := by
      have : event.type = .rangeData := congrArg Prod.fst hkey
      simp [this]
    refine ⟨h.active_setSlot i _ fun _ hp => absurd (hidle.symm.trans hp) (by decide),?_⟩
    exact Covered.rested hw.dequeue i _ ha ha rfl rfl (by simp [Slot.ended, hidle])
      ((h.covered.dequeue_other hready htype).setSlot i _ fun _ hp => ⟨ha,hp,rfl⟩)
  | repeated i delayMs =>
    obtain ⟨⟨⟨event,hready,hkey⟩,ha,-⟩,-⟩ := ha
    have hlen := dequeue_length hready
    have hbound := hw.bounded
    have hserved := h.covered.served hready hkey (v.slots i) fun _ => rfl
    rw [← dequeue_slots, setSlot_self] at hserved
    exact ⟨by rw [View.apply, resume_slots]; exact h.active,
      covered_scheduled hserved (by omega)⟩
  | completed i =>
    obtain ⟨⟨event,hready,hkey⟩,ha,hactive⟩ := ha
    refine ⟨h.active_setSlot i _ (fun _ hp => by cases hp),?_⟩
    exact Covered.over hw.dequeue ha (by simp [Slot.transferring])
      (h.covered.served hready hkey _ fun _ => rfl)

end TransferLive

def Streams (s : Slot) : Prop := s.state = sessionStateActive ∧ s.remaining ≠ 0

theorem not_streams {s : Slot} (h : s.state = sessionStateInit ∨ s.state = sessionStateIdle) :
    ¬ Streams s := by
  rintro ⟨hactive,-⟩
  rw [hactive] at h
  exact absurd h (by decide)

abbrev StreamLive (v : View) : Prop := v.Covered .rangeData Streams

namespace StreamLive

theorem init : View.StreamLive ⟨fun _ => Slot.zero,[]⟩ := by
  rintro k ⟨i,hi,-⟩
  cases hi

theorem rescheduled (h : v.StreamLive) (hw : v.WellFormed) (i : Fin maxSessions)
    (delayMs : UInt32) : (v.apply (.rescheduled i delayMs)).StreamLive := by
  have hkept : Covers key (fun k => v.Waiting .rangeData Streams k ∧
      k ≠ (.rangeData,(v.slots i).sessionId))
      (v.without .rangeData (v.slots i).sessionId).events := by
    refine covers_mono (covers_filter h) ?_
    rintro k ⟨hk,hne⟩
    refine ⟨hk,fun event he => ?_⟩
    simp only [Bool.not_eq_true', Bool.and_eq_false_imp, beq_iff_eq, beq_eq_false_iff_ne]
    intro htype hid
    exact hne (he.symm.trans (Prod.ext htype hid))
  by_cases hroom : (v.without .rangeData (v.slots i).sessionId).events.length <
      maxScenarioEvents
  · exact covered_scheduled hkept hroom
  · -- a queue that stays full had no event of this key to remove
    have hbound := hw.bounded
    have hall : (v.without .rangeData (v.slots i).sessionId).events = v.events := by
      have hle := List.length_filter_le (fun event : ScheduledEvent =>
        !(event.type == .rangeData && event.sessionId == (v.slots i).sessionId)) v.events
      have hlen : (v.without .rangeData (v.slots i).sessionId).events.length ≤
          v.events.length := hle
      exact List.filter_sublist.eq_of_length (by
        simp only [without, withEvents_events] at hlen hroom ⊢
        omega)
    have hcovered : (v.without .rangeData (v.slots i).sessionId).StreamLive := by
      unfold StreamLive Covered
      rw [hall]
      exact h
    exact Covered.schedule hcovered _ _ _

theorem apply (h : v.StreamLive) (hw : v.WellFormed) (a : Action) (ha : v.Enabled a)
    (habandoned : a ≠ .abandoned)
    (hstarted : ∀ i stream, a = .started i stream → ∃ burst delayMs,
      stream = some (burst,delayMs) ∧ (burst = 0 ∨ v.events.length < maxScenarioEvents)) :
    (v.apply a).StreamLive := by
  cases a with
  | opened i sessionId =>
    exact Covered.setSlot h i _ fun _ hs => absurd hs (not_streams (Or.inl rfl))
  | closed i => exact Covered.setSlot h i _ (fun hs => by cases hs)
  | started i stream =>
    obtain ⟨ha,-⟩ := ha
    obtain ⟨burst,delayMs,rfl,hroom⟩ := hstarted i stream rfl
    simp only [View.apply, resume, setSlot_same]
    by_cases hb : burst = 0
    · rw [if_pos hb]
      exact Covered.setSlot h i _ fun _ hs => absurd hb hs.2
    · rw [if_neg hb]
      refine covered_scheduled ?_ (hroom.resolve_left hb)
      refine covers_mono h ?_
      rintro k ⟨hk,hne⟩
      obtain ⟨-,-,rfl⟩ | ⟨j,-,hja,hp,rfl⟩ := waiting_setSlot hk
      · exact absurd rfl hne
      · exact ⟨j,hja,hp,rfl⟩
  | stopped i =>
    exact Covered.rested hw i _ ha.1 ha.1 rfl rfl (not_streams (Or.inr rfl))
      (Covered.setSlot h i _ fun _ hs => absurd hs (not_streams (Or.inr rfl)))
  | reported i => exact h
  | rescheduled i delayMs => exact rescheduled h hw i delayMs
  | begun i delayMs =>
    exact Covered.schedule (Covered.setSlot h i ((v.slots i).transferring true)
      fun _ hs => ⟨ha.1,hs,rfl⟩) _ _ _
  | reset => exact init
  | elapsed elapsedMs => exact Covered.elapse h elapsedMs
  | dropped =>
    obtain ⟨event,hready,hidle⟩ := ha
    refine Covered.dequeue h hready ?_
    rintro ⟨i,hia,hs,hk⟩
    exact hs.2 ((hidle i hia hs.1).1 hk)
  | abandoned => exact absurd rfl habandoned
  | streamed i remaining delayMs =>
    obtain ⟨⟨event,hready,hkey⟩,ha,hactive⟩ := ha
    have hlen := dequeue_length hready
    have hbound := hw.bounded
    have hserved := Covered.served h hready hkey ((v.slots i).counting remaining) fun _ => rfl
    simp only [View.apply, resume, setSlot_same]
    by_cases hr : remaining = 0
    · rw [if_pos hr]
      exact Covered.over hw.dequeue ha (fun hs => hs.2 hr) hserved
    · rw [if_neg hr]
      exact covered_scheduled hserved (by rw [setSlot_events]; omega)
  | ended i =>
    obtain ⟨⟨event,hready,hkey⟩,ha,-⟩ := ha
    have hserved := Covered.served h hready hkey (v.slots i).ended fun _ => rfl
    exact Covered.rested hw.dequeue i _ ha ha rfl rfl (not_streams (Or.inr rfl))
      (Covered.over hw.dequeue ha (not_streams (Or.inr rfl)) hserved)
  | repeated i delayMs =>
    obtain ⟨⟨⟨event,hready,hkey⟩,-⟩,-⟩ := ha
    have htype : event.type ≠ .rangeData := by
      have : event.type = .dataTransfer := congrArg Prod.fst hkey
      simp [this]
    exact Covered.schedule (Covered.dequeue_other h hready htype) _ _ _
  | completed i =>
    obtain ⟨⟨event,hready,hkey⟩,ha,-⟩ := ha
    have htype : event.type ≠ .rangeData := by
      have : event.type = .dataTransfer := congrArg Prod.fst hkey
      simp [this]
    exact Covered.setSlot (Covered.dequeue_other h hready htype) i _
      fun _ hs => ⟨ha,hs,rfl⟩

end StreamLive

end UciSim.View
