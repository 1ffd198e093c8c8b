import UciSim.Refinement

/-!
# Events as actions

A tick ages the events and serves at most one that is due, which is at most two
actions of the view.
-/

set_option autoImplicit false

namespace UciSim

open View

/-- The measurement budget is spent, or one more measurement spends it. -/
def Session.budgetEnds (session : Session) : Prop :=
  session.budgetSpent = true ∨
    { session with rangingCount := session.rangingCount+1 }.budgetSpent = true

instance (session : Session) : Decidable session.budgetEnds :=
  inferInstanceAs (Decidable (_ ∨ _))

/-- The event due now ends the stream of the session at slot `i`. -/
def EndsStream (d : Device) (i : Fin maxSessions) : Prop :=
  ∃ event, event ∈ d.view.ready ∧ event.type = .rangeData ∧
    d.findSession event.sessionId = some i ∧ d.scenario = .rangingStream ∧
    (d.sessions i).Streaming ∧ (d.sessions i).budgetEnds

instance (d : Device) (i : Fin maxSessions) : Decidable (EndsStream d i) :=
  inferInstanceAs (Decidable (∃ event, event ∈ d.view.ready ∧ _))

def Profile.BrokenTemplate (profile : Profile) : Prop :=
  profile.rangeDataPayloadLen = 0 ∨ profile.rangeDataPayloadLen.toNat > maxPayload

instance (profile : Profile) : Decidable profile.BrokenTemplate :=
  inferInstanceAs (Decidable (_ ∨ _))

inductive EventActions (d : Device) : Action → Prop where
  | dropped : EventActions d .dropped
  | abandoned (h : d.pendingNotifications ≠ [] ∨ d.profile.BrokenTemplate) :
      EventActions d .abandoned
  | streamed (i : Fin maxSessions) (remaining : UInt8) (delayMs : UInt32) :
      EventActions d (.streamed i remaining delayMs)
  | ended (i : Fin maxSessions) (h : EndsStream d i) : EventActions d (.ended i)
  | repeated (i : Fin maxSessions) (delayMs : UInt32) : EventActions d (.repeated i delayMs)
  | completed (i : Fin maxSessions) : EventActions d (.completed i)

theorem View.setSlot_setSlot (v : View) (i : Fin maxSessions) (s s' : Slot) :
    (v.setSlot i s).setSlot i s' = v.setSlot i s' := by
  simp [setSlot]

theorem ranging_finished_view (d : Device) (i : Fin maxSessions) :
    (d.rangingFinished i).view =
      (d.view.setSlot i (d.view.slots i).ended).cancel (d.view.slots i).sessionId :=
  congrArg (fun v : View => v.cancel (d.sessions i).sessionId)
    (Device.view_setSession d i (d.sessions i).endStream)

theorem resumed_view (d : Device) (type : EventType) (i : Fin maxSessions)
    (htype : type ≠ .none) : (d.resumed type i).view =
      d.view.resume type i ((d.sessions i).getRangingIntervalMs d.profile) := by
  unfold Device.resumed
  by_cases hfull : maxScenarioEvents ≤ d.scheduledEvents.length
  · rw [Device.schedule_event_full _ _ _ _ hfull]
    exact (View.schedule_full _ _ _ hfull).symm
  · rw [Device.schedule_event_room _ _ _ _ htype (Nat.lt_of_not_le hfull)]
    exact (View.schedule_room (v := d.view) _ _ _ (Nat.lt_of_not_le hfull)).symm

theorem sampled_view {d d' : Device} {ns : List Packet} (h : Sampled d ns d') :
    d'.view = d.view ∧ ns.filterMap Packet.signal = [] := by
  cases h with
  | silent => exact ⟨rfl,rfl⟩
  | sent payload =>
    refine ⟨rfl,?_⟩
    simp [control_signal]

section Served

variable {d d₁ : Device} {event : ScheduledEvent} {i : Fin maxSessions}

theorem ready_view (h : d.dequeueReadyEvent = some (event,d₁)) :
    d.view.ready = some event ∧ d₁.view = d.view.dequeue ∧ d₁.sessions = d.sessions ∧
      d₁.profile = d.profile ∧ d₁.scenario = d.scenario ∧
      d₁.pendingNotifications = d.pendingNotifications := by
  obtain ⟨hready,rfl⟩ := Device.dequeue_ready_event_some h
  exact ⟨hready,rfl,rfl,rfl,rfl,rfl⟩

theorem serves_found (hready : d.view.ready = some event)
    (hfound : d.findSession event.sessionId = some i) {type : EventType}
    (htype : event.type = type) (hactive : (d.sessions i).state = sessionStateActive) :
    d.view.Serves type i := by
  obtain ⟨ha,hid⟩ := found_slot hfound
  exact ⟨⟨event,hready,Prod.ext htype hid.symm⟩,ha,hactive⟩

theorem idle_found (hw : d.view.WellFormed)
    (hfound : d.findSession event.sessionId = some i)
    (hrange : event.type = .rangeData → ¬ (d.sessions i).Streaming)
    (htransfer : event.type = .dataTransfer → (d.sessions i).state ≠ sessionStateActive ∨
      (d.sessions i).dataTransferInProgress = false) : d.view.Idle event := by
  obtain ⟨ha,hid⟩ := found_slot hfound
  have hsame : ∀ j type, (d.view.slots j).allocated = true →
      event.key = (type,(d.view.slots j).sessionId) → j = i ∧ event.type = type := by
    intro j type hj hk
    have hjid : event.sessionId = (d.view.slots j).sessionId := congrArg Prod.snd hk
    exact ⟨hw.distinct j i hj ha (hjid.symm.trans hid.symm),congrArg Prod.fst hk⟩
  intro j hj hactive
  constructor
  · intro hk
    obtain ⟨rfl,htype⟩ := hsame j _ hj hk
    by_contra hremaining
    exact hrange htype ⟨hremaining,hactive⟩
  · intro hk
    obtain ⟨rfl,htype⟩ := hsame j _ hj hk
    exact (htransfer htype).resolve_left (not_not.mpr hactive)

theorem idle_unmatched (h : event.type = .none ∨ d.findSession event.sessionId = none) :
    d.view.Idle event := by
  have hno : ∀ j type, (d.view.slots j).allocated = true → type ≠ .none →
      event.key ≠ (type,(d.view.slots j).sessionId) := by
    intro j type hj htype hk
    obtain hnone | hnone := h
    · exact htype ((congrArg Prod.fst hk).symm.trans hnone)
    · exact Device.find_session_none hnone j hj (congrArg Prod.snd hk).symm
  intro j hj _
  exact ⟨fun hk => absurd hk (hno j _ hj (by decide)),
    fun hk => absurd hk (hno j _ hj (by decide))⟩

end Served

/-- What serving a ranging event does to the view, whatever code it returns. -/
inductive RangedView (d : Device) (i : Fin maxSessions) (rc : Rc) (ns : List Packet)
    (d' : Device) : Prop where
  | idle (ended : d.scenario ≠ .rangingStream ∨ ¬ (d.sessions i).Streaming) (same : d' = d)
      (quiet : ns = []) (ok : rc = .ok)
  | failed (err : rc = .err) (same : d'.view = d.view) (quiet : ns.filterMap Packet.signal = [])
      (cause : d.pendingNotifications ≠ [] ∨ d.profile.BrokenTemplate)
  | measured (ok : rc = .ok) (streaming : (d.sessions i).Streaming)
      (counted : d'.view = d.view.setSlot i
        ((d.view.slots i).counting ((d.sessions i).rangingStreamRemaining-1)))
      (quiet : ns.filterMap Packet.signal = [])
  | ended (scenario : d.scenario = .rangingStream) (streaming : (d.sessions i).Streaming)
      (spent : (d.sessions i).budgetEnds)
      (rested : d'.view =
        (d.view.setSlot i (d.view.slots i).ended).cancel (d.view.slots i).sessionId)
      (told : ns.filterMap Packet.signal =
        [.status (d.sessions i).sessionId sessionStateIdle])

theorem ranged_view {d d' : Device} {i : Fin maxSessions} {rc : Rc} {ns : List Packet}
    (h : Ranged d i rc ns d') : RangedView d i rc ns d' := by
  cases h with
  | idle ended => exact .idle ended rfl rfl rfl
  | exhausted rc scenario streaming spent room =>
    refine .ended scenario streaming (Or.inl spent) (ranging_finished_view d i) ?_
    simp [idleStatus, status_signal]
  | unbuilt scenario streaming invalid => exact .failed rfl rfl rfl (Or.inr invalid)
  | blocked _ _ scenario streaming sampled full =>
    obtain ⟨hview,hns⟩ := sampled_view sampled
    refine .failed rfl hview hns (Or.inl ?_)
    intro hnil
    rw [hnil] at full
    cases full
  | measured _ d₁ policyResult scenario streaming sampled kept =>
    obtain ⟨hview,hns⟩ := sampled_view sampled
    refine .measured rfl streaming ?_ hns
    rw [Device.view_setSession, hview]
    rfl
  | finished _ ns d₁ policyResult scenario streaming sampled spent room =>
    obtain ⟨hview,hns⟩ := sampled_view sampled
    refine .ended scenario streaming (Or.inr spent) ?_ ?_
    · have hslot : ((d.sessions i).countMeasurement policyResult).slot =
          (d.view.slots i).counting ((d.sessions i).rangingStreamRemaining-1) := rfl
      rw [ranging_finished_view, Device.view_setSession, hview, setSlot_same,
        setSlot_setSlot, hslot]
      rfl
    · rw [List.filterMap_append, hns]
      simp [idleStatus, status_signal]

section Fired

variable {d d₁ : Device} {event : ScheduledEvent}

theorem counted_slot {d d' : Device} {i : Fin maxSessions} {remaining : UInt8}
    (h : d'.view = d.view.setSlot i ((d.view.slots i).counting remaining)) :
    (d'.sessions i).rangingStreamRemaining = remaining ∧
      (d'.sessions i).state = (d.sessions i).state := by
  have hslot : (d'.sessions i).slot = (d.view.slots i).counting remaining := by
    have hi : d'.view.slots i =
        (d.view.setSlot i ((d.view.slots i).counting remaining)).slots i := by rw [h]
    rwa [setSlot_same] at hi
  exact ⟨congrArg Slot.remaining hslot,congrArg Slot.state hslot⟩

/-- Serving a ranging event is one action, before the stream is scheduled again. -/
theorem ranging_actions (hw : d.view.WellFormed)
    (hready : d.dequeueReadyEvent = some (event,d₁)) {i : Fin maxSessions} {rc : Rc}
    {ns : List Packet} {d' : Device} (htype : event.type = .rangeData)
    (hfound : d₁.findSession event.sessionId = some i) (hranged : Ranged d₁ i rc ns d')
    (hrc : rc = .err ∨ ¬ (d'.sessions i).Streaming) :
    ∃ a, EventActions d a ∧ Explains d.view [a] ns d'.view := by
  obtain ⟨hevent,hview,hsessions,hprofile,hscenario,hpending⟩ := ready_view hready
  have hfound' : d.findSession event.sessionId = some i :=
    (Device.find_session_congr hsessions _).symm.trans hfound
  cases ranged_view hranged with
  | idle ended same quiet ok =>
    rw [same, hsessions] at hrc
    have hover : ¬ (d.sessions i).Streaming := hrc.resolve_left (by rw [ok]; decide)
    rw [same, quiet]
    exact ⟨.dropped,.dropped,explains_one ⟨event,hevent,idle_found hw hfound'
      (fun _ => hover) (fun h => by rw [htype] at h; cases h)⟩ hview rfl⟩
  | failed err same quiet cause =>
    rw [hpending, hprofile] at cause
    exact ⟨.abandoned,.abandoned cause,
      explains_one ⟨event,hevent⟩ (same.trans hview) quiet⟩
  | measured ok streaming counted quiet =>
    rw [hsessions] at streaming counted
    have hserves := serves_found hevent hfound' htype streaming.2
    refine ⟨.streamed i ((d.sessions i).rangingStreamRemaining-1) 0,.streamed _ _ _,
      explains_one hserves ?_ quiet⟩
    have hover : ¬ (d'.sessions i).Streaming := hrc.resolve_left (by rw [ok]; decide)
    have hslot := counted_slot counted
    have hzero : (d.sessions i).rangingStreamRemaining-1 = 0 := by
      by_contra hne
      exact hover ⟨hslot.1 ▸ hne,hslot.2.trans (congrArg Session.state
        (congrFun hsessions i) ▸ streaming.2)⟩
    rw [counted, hview]
    exact (if_pos hzero).symm
  | ended scenario streaming spent rested told =>
    rw [hsessions] at streaming spent told
    have hserves := serves_found hevent hfound' htype streaming.2
    refine ⟨.ended i,.ended i ⟨event,hevent,htype,hfound',hscenario ▸ scenario,streaming,
      spent⟩,explains_one hserves ?_ told⟩
    rw [rested, hview]
    rfl

theorem ranging_on_actions (hready : d.dequeueReadyEvent = some (event,d₁))
    {i : Fin maxSessions} {ns : List Packet} {d' : Device} (htype : event.type = .rangeData)
    (hfound : d₁.findSession event.sessionId = some i) (hranged : Ranged d₁ i .ok ns d')
    (hon : (d'.sessions i).Streaming) :
    ∃ a, EventActions d a ∧ Explains d.view [a] ns (d'.resumed .rangeData i).view := by
  obtain ⟨hevent,hview,hsessions,hprofile,hscenario,hpending⟩ := ready_view hready
  have hfound' : d.findSession event.sessionId = some i :=
    (Device.find_session_congr hsessions _).symm.trans hfound
  rw [resumed_view _ _ _ (by decide)]
  generalize (d'.sessions i).getRangingIntervalMs d'.profile = delayMs
  cases ranged_view hranged with
  | idle ended same quiet ok =>
    rw [same, hsessions] at hon
    have hserves := serves_found hevent hfound' htype hon.2
    refine ⟨.streamed i (d.sessions i).rangingStreamRemaining delayMs,.streamed _ _ _,
      explains_one hserves ?_ (by rw [quiet]; rfl)⟩
    have hself : d.view.dequeue.setSlot i ((d.view.slots i).counting
        (d.sessions i).rangingStreamRemaining) = d.view.dequeue := setSlot_self d.view.dequeue i
    rw [same, hview]
    refine Eq.trans ?_ (if_neg hon.1).symm
    rw [hself]
  | failed err => cases err
  | measured ok streaming counted quiet =>
    rw [hsessions] at streaming counted
    have hserves := serves_found hevent hfound' htype streaming.2
    refine ⟨.streamed i ((d.sessions i).rangingStreamRemaining-1) delayMs,.streamed _ _ _,
      explains_one hserves ?_ quiet⟩
    have hne := (counted_slot counted).1 ▸ hon.1
    rw [counted, hview]
    exact (if_neg hne).symm
  | ended scenario streaming spent rested told =>
    have hi : d'.view.slots i = (d₁.view.slots i).ended := by
      rw [rested, cancel_slots, setSlot_same]
    have hstate : (d'.sessions i).state = sessionStateIdle := congrArg Slot.state hi
    exact absurd (hstate.symm.trans hon.2) (by decide)

theorem transfer_actions (hready : d.dequeueReadyEvent = some (event,d₁)) {i : Fin maxSessions}
    {rc : Rc}
    {ns : List Packet} {d' : Device} (htype : event.type = .dataTransfer)
    (hfound : d₁.findSession event.sessionId = some i)
    (hactive : (d₁.sessions i).state = sessionStateActive)
    (htransferred : Transferred d₁ i rc ns d') :
    (rc = .ok → (d'.sessions i).dataTransferInProgress = true →
        ∃ a, EventActions d a ∧ Explains d.view [a] ns (d'.resumed .dataTransfer i).view) ∧
      ((rc = .err ∨ (d'.sessions i).dataTransferInProgress = false) →
        ∃ a, EventActions d a ∧ Explains d.view [a] ns d'.view) := by
  obtain ⟨hevent,hview,hsessions,hprofile,hscenario,hpending⟩ := ready_view hready
  have hfound' : d.findSession event.sessionId = some i :=
    (Device.find_session_congr hsessions _).symm.trans hfound
  have hserves := serves_found hevent hfound' htype (by rw [← hsessions]; exact hactive)
  cases htransferred with
  | repeated allocated inProgress remaining room =>
    have hkept : (d₁.setSession i (d₁.sessions i).repeatTransfer).view = d.view.dequeue :=
      (Device.view_kept d₁ i (d₁.sessions i).repeatTransfer rfl).trans hview
    have hquiet : [dataTransferStatusNotification (d₁.sessions i).sessionId
        (d₁.sessions i).dataTransferSequence dataTransferStatusRepetitionOk
        (d₁.sessions i).transmit.dataTransferTxCount].filterMap Packet.signal = [] := by
      simp [dataTransferStatusNotification, control_signal]
    constructor
    · intro _ _
      rw [resumed_view _ _ _ (by decide), hkept]
      exact ⟨.repeated i _,.repeated i _,explains_one ⟨hserves,by
        rw [hsessions] at inProgress; exact inProgress⟩ rfl hquiet⟩
    · intro hrc
      refine ⟨.abandoned,.abandoned (Or.inl ?_),explains_one ⟨event,hevent⟩ hkept hquiet⟩
      intro hnil
      have hok := room (by rw [hpending, hnil]; decide)
      obtain herr | hover := hrc
      · rw [hok] at herr
        cases herr
      · rw [Device.setSession_same] at hover
        exact absurd (hover.symm.trans inProgress) (by decide)
  | completed allocated inProgress remaining room =>
    have hdone : (d₁.setSession i (d₁.sessions i).finishTransfer).view =
        d.view.apply (.completed i) := by
      rw [Device.view_setSession, hview, hsessions]
      rfl
    constructor
    · intro _ hon
      rw [Device.setSession_same] at hon
      cases hon
    · intro _
      exact ⟨.completed i,.completed i,explains_one hserves hdone
        (data_completion_signals _ _ _ _)⟩

/-- A ready event is one action, and what it posts carries the action's signal. -/
theorem fired_actions (hw : d.view.WellFormed)
    (hready : d.dequeueReadyEvent = some (event,d₁)) {flushes : Bool} {ns : List Packet}
    {d' : Device} (h : Fired d₁ event flushes ns d') :
    ∃ a, EventActions d a ∧ Explains d.view [a] ns d'.view := by
  obtain ⟨hevent,hview,hsessions,-⟩ := ready_view hready
  cases h with
  | unmatched hnone =>
    rw [Device.find_session_congr hsessions] at hnone
    exact ⟨.dropped,.dropped,explains_one ⟨event,hevent,idle_unmatched hnone⟩ hview rfl⟩
  | rangingFailed i _ _ type found ranged =>
    exact ranging_actions hw hready type found ranged (Or.inl rfl)
  | rangingOver i _ _ type found ranged ended =>
    exact ranging_actions hw hready type found ranged (Or.inr ended)
  | rangingOn i _ _ type found ranged on =>
    exact ranging_on_actions hready type found ranged on
  | transferIdle i type found idle =>
    rw [Device.find_session_congr hsessions] at found
    rw [hsessions] at idle
    exact ⟨.dropped,.dropped,explains_one ⟨event,hevent,idle_found hw found
      (fun h => by rw [type] at h; cases h) (fun _ => idle)⟩ hview rfl⟩
  | transferFailed i _ _ type found active transferred =>
    exact (transfer_actions hready type found active transferred).2 (Or.inl rfl)
  | transferOver i _ _ type found active transferred ended =>
    exact (transfer_actions hready type found active transferred).2 (Or.inr ended)
  | transferOn i _ _ type found active transferred on =>
    exact (transfer_actions hready type found active transferred).1 rfl on

end Fired

/-- The actions of a tick after the events have aged. -/
inductive TickActions (d : Device) : List Action → Prop where
  | none : TickActions d []
  | one (a : Action) (h : EventActions d a) : TickActions d [a]

theorem ticked_shape {d : Device} (hw : d.view.WellFormed) (elapsedMs : UInt32) :
    (d.tickEvents elapsedMs).view.WellFormed := hw.elapse elapsedMs

theorem ticked_actions {d d' : Device} {elapsedMs : UInt32} {flushes : Bool}
    {ns : List Packet} (hw : d.view.WellFormed) (h : Ticked d elapsedMs flushes ns d') :
    ∃ actions, TickActions (d.tickEvents elapsedMs) actions ∧
      Explains (d.tickEvents elapsedMs).view actions ns d'.view := by
  cases h with
  | waiting _ => exact ⟨[],.none,explains_nothing rfl rfl⟩
  | served event d₁ _ _ _ ready fired =>
    obtain ⟨a,ha,hexplains⟩ := fired_actions (ticked_shape hw elapsedMs) ready fired
    exact ⟨[a],.one a ha,hexplains⟩

end UciSim
