import UciSim.Unqueued
import UciSim.DeferredOrder
import UciSim.TwinPackets

/-!
# Events outside the ranging stream

Outside the stream an event repeats or completes a transfer, or does nothing. With room
for its notifications, what it leaves is a function of the device that reads neither the
scenario nor what waits.
-/

set_option autoImplicit false

namespace UciSim

namespace Device

/-- What an event leaves of the device when nothing streams. -/
def servesEvent (d : Device) (event : ScheduledEvent) : Device :=
  match event.type, d.findSession event.sessionId with
  | .rangeData, some i => if (d.sessions i).Streaming then d.resumed .rangeData i else d
  | .dataTransfer, some i =>
    let session := d.sessions i
    if session.state ≠ sessionStateActive ∨ session.dataTransferInProgress = false then d
    else if session.dataTransferRepetitionsRemaining > 0 then
      (d.setSession i session.repeatTransfer).resumed .dataTransfer i
    else d.setSession i session.finishTransfer
  | _, _ => d

/-- What a tick leaves of the device when nothing streams. -/
def passes (d : Device) (elapsedMs : UInt32) : Device :=
  match (d.tickEvents elapsedMs).dequeueReadyEvent with
  | none => d.tickEvents elapsedMs
  | some (event,d₁) => d₁.servesEvent event

/-- The device of the default scenario with nothing waiting. -/
def prompted (d : Device) : Device := (d.withPending []).inScenario .default

theorem prompted_scenario (d : Device) : d.prompted.scenario = .default := rfl

end Device

theorem prompted_default {d : Device} (h : d.scenario = .default) :
    d.prompted = d.withPending [] := by
  unfold Device.prompted Device.inScenario
  rw [← h]
  rfl

section

variable {d d' : Device} {event : ScheduledEvent} {flushes : Bool} {ns : List Packet}
  {i : Fin maxSessions} {rc : Rc}

theorem ranged_unstreamed (h : Ranged d i rc ns d') (hs : d.scenario ≠ .rangingStream) :
    rc = .ok ∧ ns = [] ∧ d' = d := by
  cases h with
  | idle => exact ⟨rfl,rfl,rfl⟩
  | exhausted _ scenario => exact absurd scenario hs
  | unbuilt scenario => exact absurd scenario hs
  | blocked _ _ scenario => exact absurd scenario hs
  | measured _ _ _ scenario => exact absurd scenario hs
  | finished _ _ _ _ scenario => exact absurd scenario hs

theorem transferred_room (h : Transferred d i rc ns d')
    (hroom : d.pendingNotifications.length+ns.length ≤ maxPendingNotifications) : rc = .ok := by
  cases h with
  | repeated _ _ _ room => exact room hroom
  | completed _ _ _ room => exact room hroom

theorem transferred_serves (htype : event.type = .dataTransfer)
    (hfound : d.findSession event.sessionId = some i)
    (hactive : (d.sessions i).state = sessionStateActive) (h : Transferred d i rc ns d') :
    ns = d.notices event ∧
      ((d'.sessions i).dataTransferInProgress = true → d.servesEvent event =
        d'.resumed .dataTransfer i) ∧
      ((d'.sessions i).dataTransferInProgress = false → d.servesEvent event = d') := by
  unfold Device.servesEvent
  rw [htype, hfound]
  dsimp only
  refine ⟨transferred_notices htype hfound hactive h,?_⟩
  cases h with
  | repeated _ inProgress remaining =>
    rw [if_neg (by simp [hactive, inProgress]), if_pos remaining, Device.setSession_same]
    refine ⟨fun _ => rfl,fun hended => ?_⟩
    exact absurd (inProgress.symm.trans hended) (by decide)
  | completed _ inProgress remaining =>
    rw [if_neg (by simp [hactive, inProgress]), if_neg remaining, Device.setSession_same]
    exact ⟨fun hon => absurd hon (by simp [Session.finishTransfer]),fun _ => rfl⟩

theorem fired_serves (h : Fired d event flushes ns d') (hs : d.scenario ≠ .rangingStream) :
    ns = d.notices event ∧
      (d.pendingNotifications.length+ns.length ≤ maxPendingNotifications →
        d' = d.servesEvent event) := by
  have hranging : event.type = .rangeData → d.notices event = [] := by
    intro htype
    unfold Device.notices
    rw [htype]
  cases h with
  | unmatched h =>
    unfold Device.servesEvent Device.notices
    cases htype : event.type with
    | none => exact ⟨rfl,fun _ => rfl⟩
    | rangeData | dataTransfer =>
      rw [h.resolve_left (by rw [htype]; decide)]
      exact ⟨rfl,fun _ => rfl⟩
  | rangingFailed i _ _ _ _ ranged => cases (ranged_unstreamed ranged hs).1
  | rangingOver i _ _ htype hfound ranged ended =>
    obtain ⟨-,rfl,rfl⟩ := ranged_unstreamed ranged hs
    rw [hranging htype]
    unfold Device.servesEvent
    rw [htype, hfound]
    exact ⟨rfl,fun _ => (if_neg ended).symm⟩
  | rangingOn i _ d' htype hfound ranged on =>
    obtain ⟨-,rfl,rfl⟩ := ranged_unstreamed ranged hs
    rw [hranging htype]
    unfold Device.servesEvent
    rw [htype, hfound]
    exact ⟨rfl,fun _ => (if_pos on).symm⟩
  | transferIdle i htype hfound idle =>
    unfold Device.servesEvent Device.notices
    rw [htype, hfound]
    exact ⟨(if_pos idle).symm,fun _ => (if_pos idle).symm⟩
  | transferFailed i _ _ htype hfound active transferred =>
    exact ⟨(transferred_serves htype hfound active transferred).1,
      fun hroom => by cases transferred_room transferred hroom⟩
  | transferOver i _ _ htype hfound active transferred ended =>
    obtain ⟨hns,-,hover⟩ := transferred_serves htype hfound active transferred
    exact ⟨hns,fun _ => (hover ended).symm⟩
  | transferOn i _ _ htype hfound active transferred on =>
    obtain ⟨hns,hon,-⟩ := transferred_serves htype hfound active transferred
    exact ⟨hns,fun _ => (hon on).symm⟩

theorem ticked_passes {elapsedMs : UInt32} (h : Ticked d elapsedMs flushes ns d')
    (hs : d.scenario ≠ .rangingStream) :
    ns = d.tickNotices elapsedMs ∧
      (d.pendingNotifications.length+ns.length ≤ maxPendingNotifications →
        d' = d.passes elapsedMs) := by
  unfold Device.passes Device.tickNotices
  cases h with
  | waiting hnone =>
    rw [hnone]
    exact ⟨rfl,fun _ => rfl⟩
  | served event d₁ _ _ _ ready fired =>
    obtain ⟨-,rfl⟩ := Device.dequeue_ready_event_some ready
    rw [ready]
    exact fired_serves fired hs

end

section

variable (d : Device)

theorem resumed_prompted (type : EventType) (i : Fin maxSessions) :
    d.prompted.resumed type i = (d.resumed type i).prompted := by
  unfold Device.resumed Device.scheduleEvent
  by_cases htype : type = .none
  · rw [if_pos htype, if_pos htype]
  by_cases hfull : d.scheduledEvents.length ≥ maxScenarioEvents
  · rw [if_neg htype, if_neg htype, if_pos hfull, if_pos (by exact hfull)]
  · rw [if_neg htype, if_neg htype, if_neg hfull, if_neg (by exact hfull)]
    rfl

theorem serves_event_prompted (event : ScheduledEvent) :
    d.prompted.servesEvent event = (d.servesEvent event).prompted := by
  unfold Device.servesEvent
  rw [show d.prompted.findSession event.sessionId = d.findSession event.sessionId from rfl]
  cases event.type with
  | none => rfl
  | rangeData =>
    cases d.findSession event.sessionId with
    | none => rfl
    | some i =>
      dsimp only
      rw [show d.prompted.sessions = d.sessions from rfl, resumed_prompted]
      split <;> rfl
  | dataTransfer =>
    cases d.findSession event.sessionId with
    | none => rfl
    | some i =>
      dsimp only
      rw [show d.prompted.sessions = d.sessions from rfl,
        show ∀ session, d.prompted.setSession i session = (d.setSession i session).prompted from
          fun _ => rfl, resumed_prompted]
      split
      · rfl
      split <;> rfl

theorem ready_prompted (elapsedMs : UInt32) :
    (d.prompted.tickEvents elapsedMs).dequeueReadyEvent =
      ((d.tickEvents elapsedMs).dequeueReadyEvent).map fun r => (r.1,r.2.prompted) := by
  unfold Device.dequeueReadyEvent
  rw [show (d.prompted.tickEvents elapsedMs).scheduledEvents =
    (d.tickEvents elapsedMs).scheduledEvents from rfl]
  cases (d.tickEvents elapsedMs).scheduledEvents.find? fun event => event.delayMs == 0 with
  | none => rfl
  | some event => rfl

theorem passes_prompted (elapsedMs : UInt32) :
    d.prompted.passes elapsedMs = (d.passes elapsedMs).prompted := by
  unfold Device.passes
  rw [ready_prompted]
  cases (d.tickEvents elapsedMs).dequeueReadyEvent with
  | none => rfl
  | some ready => exact serves_event_prompted ready.2 ready.1

theorem tick_notices_prompted (elapsedMs : UInt32) :
    d.prompted.tickNotices elapsedMs = d.tickNotices elapsedMs := by
  unfold Device.tickNotices
  rw [ready_prompted]
  cases (d.tickEvents elapsedMs).dequeueReadyEvent with
  | none => rfl
  | some ready => rfl

end

section

variable {elapsedMs : UInt32}

theorem tick_passes (e : Engine) (elapsedMs : UInt32) (hs : e.device.scenario ≠ .rangingStream)
    (hroom : e.device.pendingNotifications.length+(e.device.tickNotices elapsedMs).length ≤
      maxPendingNotifications) :
    (e.tick elapsedMs).engine.device.prompted = (e.device.passes elapsedMs).prompted ∧
      (e.tick elapsedMs).produced = e.device.tickNotices elapsedMs := by
  obtain ⟨flushes,ns,d',hticked,hengine,hproduced⟩ :=
    Engine.tick_ticked e.device e.lines elapsedMs
  obtain ⟨hns,hleft⟩ := ticked_passes (d := e.device) hticked hs
  rw [← hns] at hroom
  constructor
  · rw [← hleft hroom]
    exact congrArg (fun closed : Engine => closed.device.prompted) hengine
  · refine hproduced.trans ?_
    rw [Mailbox.queueAll_room _ _ _ hroom, hns]
    rfl

theorem tick_notices_length (d : Device) (hs : d.scenario ≠ .rangingStream) :
    (d.tickNotices elapsedMs).length ≤ 2 := by
  obtain ⟨flushes,ns,d',hticked,-⟩ := Engine.tick_ticked d ⟨d.pendingNotifications,[]⟩ elapsedMs
  rw [← (ticked_passes (d := d) hticked hs).1]
  exact ticked_length hticked

theorem ticked_prompted (d : Device) :
    d.prompted.ticked elapsedMs = ((d.passes elapsedMs).prompted,d.tickNotices elapsedMs) := by
  have hprompt : d.prompted.scenario ≠ .rangingStream := by rw [d.prompted_scenario]; decide
  have hlen : (d.prompted.tickNotices elapsedMs).length ≤ 2 := tick_notices_length _ hprompt
  obtain ⟨hdevice,hproduced⟩ := tick_passes ⟨d.prompted,[]⟩ elapsedMs hprompt
    (Nat.le_trans (Nat.add_le_add_left hlen 0) (show 0+2 ≤ maxPendingNotifications by decide))
  have hscenario : ((Engine.mk d.prompted []).tick elapsedMs).engine.device.scenario =
      .default := by
    obtain ⟨flushes,ns,d',hticked,hengine,-⟩ := Engine.tick_ticked d.prompted ⟨[],[]⟩ elapsedMs
    exact (congrArg (fun e : Engine => e.device.scenario) hengine).trans (ticked_frame hticked).1
  refine Prod.ext ?_ ?_
  · show Device.withPending _ [] = _
    rw [← prompted_default hscenario, hdevice]
    have hleft : (d.prompted.passes elapsedMs).prompted = (d.passes elapsedMs).prompted := by
      rw [passes_prompted]
      rfl
    exact hleft
  · exact hproduced.trans (tick_notices_prompted d elapsedMs)

end

end UciSim
