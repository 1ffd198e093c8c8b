import UciSim.SessionMap

/-!
# Isolation of sessions

A packet for one session works on that session. The slots and the events of every
other identifier, the core configuration, the device state and the two counters
stay as they were, whatever the answer to the packet is.
-/

set_option autoImplicit false

namespace UciSim

open Exchange

/-- The events of the other sessions, in their order. -/
def eventsOfOthers (sessionId : UInt32) (events : List ScheduledEvent) : List ScheduledEvent :=
  events.filter (fun event => event.sessionId != sessionId)

/-- Nothing but the session `sessionId`, its events and the waiting notifications differs. -/
structure Device.Isolates (d : Device) (sessionId : UInt32) (d' : Device) : Prop where
  sessions : ∀ i, (d.sessions i).allocated = true → (d.sessions i).sessionId ≠ sessionId →
    d'.sessions i = d.sessions i
  events : eventsOfOthers sessionId d'.scheduledEvents =
    eventsOfOthers sessionId d.scheduledEvents
  configs : d'.deviceConfigs = d.deviceConfigs
  state : d'.deviceState = d.deviceState
  timestamp : d'.nextUwbsTimestamp = d.nextUwbsTimestamp
  sequence : d'.nextRangingSequence = d.nextRangingSequence
  profile : d'.profile = d.profile
  scenario : d'.scenario = d.scenario

/-- The packets addressed to a session. -/
def Packet.ForSession (request : Packet) : Prop :=
  request.mt = mtData ∨ request.mt = mtCommand ∧
    (request.gid = gidSessionConfig ∨ request.gid = gidSessionControl)

namespace Device.Isolates

variable {d d' : Device} {sessionId : UInt32}

theorem refl (d : Device) (sessionId : UInt32) : d.Isolates sessionId d :=
  ⟨fun _ _ _ => rfl,rfl,rfl,rfl,rfl,rfl,rfl,rfl⟩

theorem withPending (h : d.Isolates sessionId d') (pending : List Packet) :
    d.Isolates sessionId (d'.withPending pending) :=
  ⟨h.sessions,h.events,h.configs,h.state,h.timestamp,h.sequence,h.profile,h.scenario⟩

/-- The slot written is free or the session's own. -/
theorem setSession (h : d.Isolates sessionId d') {i : Fin maxSessions} (session : Session)
    (hi : (d.sessions i).allocated = true → (d.sessions i).sessionId = sessionId) :
    d.Isolates sessionId (d'.setSession i session) := by
  refine ⟨?_,h.events,h.configs,h.state,h.timestamp,h.sequence,h.profile,h.scenario⟩
  intro j ha hid
  have hj : j ≠ i := by
    rintro rfl
    exact hid (hi ha)
  rw [setSession_other d' session hj]
  exact h.sessions j ha hid

theorem withEvents (h : d.Isolates sessionId d') {events : List ScheduledEvent}
    (hevents : eventsOfOthers sessionId events = eventsOfOthers sessionId d'.scheduledEvents) :
    d.Isolates sessionId (d'.withEvents events) :=
  ⟨h.sessions,hevents.trans h.events,h.configs,h.state,h.timestamp,h.sequence,h.profile,
    h.scenario⟩

theorem found {i : Fin maxSessions} (hfound : d.findSession sessionId = some i)
    (session : Session) : d.Isolates sessionId (d.setSession i session) :=
  (refl d sessionId).setSession session fun _ => (find_session_some hfound).2

end Device.Isolates

theorem others_append (events : List ScheduledEvent) (type : EventType)
    (sessionId delayMs : UInt32) :
    eventsOfOthers sessionId (events ++ [⟨type,sessionId,delayMs⟩]) =
      eventsOfOthers sessionId events := by
  unfold eventsOfOthers
  rw [List.filter_append, List.filter_cons_of_neg (by simp), List.filter_nil, List.append_nil]

theorem others_without (d : Device) (type : EventType) (sessionId : UInt32) :
    eventsOfOthers sessionId (d.eventsWithout type sessionId) =
      eventsOfOthers sessionId d.scheduledEvents := by
  unfold eventsOfOthers Device.eventsWithout
  rw [List.filter_filter]
  apply List.filter_congr
  intro event _
  by_cases h : event.sessionId = sessionId
  · simp [h]
  · simp [h]

theorem others_rescheduled (d : Device) (type : EventType) (sessionId delayMs : UInt32) :
    eventsOfOthers sessionId (d.rescheduledEvents type sessionId delayMs) =
      eventsOfOthers sessionId d.scheduledEvents := by
  unfold Device.rescheduledEvents
  by_cases h : maxScenarioEvents ≤ (d.eventsWithout type sessionId).length
  · rw [if_pos h, others_without]
  · rw [if_neg h, others_append, others_without]

theorem others_cancelled (sessionId : UInt32) (events : List ScheduledEvent) :
    eventsOfOthers sessionId (eventsOfOthers sessionId events) =
      eventsOfOthers sessionId events := by
  simp [eventsOfOthers]

section

variable {d : Device} {request : Packet}

/-- What a handler leaves is isolated to the session of its request. -/
def Keeps (d : Device) (request : Packet) (outcome : Rc × Exchange) : Prop :=
  d.Isolates request.target outcome.2.device

theorem keeps_same {outcome : Rc × Exchange} (h : outcome.2.device = d) :
    Keeps d request outcome := by
  rw [Keeps, h]
  exact .refl d _

theorem keeps_emit {rc : Rc} {x : Exchange} (h : d.Isolates request.target x.device)
    (n : Packet) : Keeps d request (rc,x.emit n) := by
  rcases emit_device x n with ⟨pending,hp⟩
  rw [Keeps, hp]
  exact h.withPending pending

theorem session_init_keeps : Keeps d request ((start d).handleSessionInit request) := by
  unfold handleSessionInit
  split
  · exact keeps_same rfl
  dsimp only
  split
  · exact keeps_same rfl
  split
  · exact keeps_same rfl
  rename_i i d' hfound
  rw [show (start d).device = d from rfl] at hfound
  apply keeps_emit
  cases hf : d.findSession request.target with
  | some j =>
    rw [hf] at hfound
    cases hfound
    exact .refl d _
  | none =>
    rw [hf] at hfound
    rcases alloc_session_some hfound with ⟨hfree,rfl⟩
    have hblank := Device.free_session_some hfree
    exact (Device.Isolates.refl d _).setSession _ fun ha => by
      rw [hblank] at ha
      exact (Bool.false_ne_true ha).elim

theorem session_deinit_keeps : Keeps d request ((start d).handleSessionDeinit request) := by
  unfold handleSessionDeinit
  split
  · exact keeps_same rfl
  dsimp only
  split
  · exact keeps_same rfl
  rename_i i hfound
  have hmoved := emit_mapDevice (fun d => d.setSession i Session.zero)
    ((start d).makeStatusResponse request statusOk)
    (sessionStatusNotification request.target sessionStateDeinit
      d.profile.sessionStatusReasonCode) rfl rfl (fun _ => rfl)
  exact (congrArg (Keeps d request ⟨.ok,·⟩) hmoved).mpr (keeps_emit (.found hfound _) _)

theorem update_multicast_list_keeps :
    Keeps d request ((start d).handleSessionUpdateMulticastList request) := by
  unfold handleSessionUpdateMulticastList
  split
  · exact keeps_same rfl
  dsimp only
  split
  · exact keeps_same rfl
  rename_i i hfound
  split
  · exact keeps_same rfl
  · exact Device.Isolates.found hfound _

theorem data_transfer_phase_config_keeps :
    Keeps d request ((start d).handleSessionDataTransferPhaseConfig request) := by
  unfold handleSessionDataTransferPhaseConfig
  split
  · exact keeps_same rfl
  split
  · exact keeps_same rfl
  rename_i i hfound
  dsimp only
  split
  · exact keeps_same rfl
  · exact Device.Isolates.found hfound _

theorem update_dt_rounds_keeps (useAnchorRounds : Bool) :
    Keeps d request ((start d).handleSessionUpdateDtRounds request useAnchorRounds) := by
  unfold handleSessionUpdateDtRounds
  split
  · exact keeps_same rfl
  dsimp only
  split
  · exact keeps_same rfl
  split
  · exact keeps_same rfl
  rename_i i hfound
  exact Device.Isolates.found hfound _

/-- Storing parameters and moving the ranging event stays with the session. -/
theorem reconfigured_isolates {sessionId : UInt32} {i : Fin maxSessions} {d' : Device}
    (hid : (d.sessions i).sessionId = sessionId) (h : Reconfigured i d d') :
    d.Isolates sessionId d' ∧ (d'.sessions i).sessionId = sessionId := by
  induction h with
  | same => exact ⟨.refl d _,hid⟩
  | stored d' configId value session before admitted supported stored ih =>
    refine ⟨ih.1.setSession _ fun _ => hid,?_⟩
    rw [Device.setSession_same, (Device.forget_proximity_eq session configId).2.2.1,
      store_config_eq stored]
    exact ih.2
  | rescheduled d' delayMs before active streaming ih =>
    rw [Device.reschedule_session_event_snd _ .rangeData _ _ (by decide), ih.2]
    exact ⟨ih.1.withEvents (others_rescheduled d' .rangeData _ _),ih.2⟩

theorem set_app_config_keeps :
    Keeps d request ((start d).handleSessionSetAppConfig request) := by
  unfold handleSessionSetAppConfig
  split
  · exact keeps_same rfl
  split
  · exact keeps_same rfl
  rename_i i hfound
  exact (reconfigured_isolates (Device.find_session_some hfound).2
    (set_app_configs_steps _ _ d d i .same)).1

theorem get_app_config_keeps :
    Keeps d request ((start d).handleSessionGetAppConfig request) := by
  unfold handleSessionGetAppConfig
  split
  · exact keeps_same rfl
  split
  · exact keeps_same rfl
  · exact keeps_same rfl

theorem query_data_size_keeps :
    Keeps d request ((start d).handleQueryDataSizeInRanging request) := by
  unfold handleQueryDataSizeInRanging
  dsimp only
  split
  · exact keeps_same rfl
  · split <;> exact keeps_same rfl

theorem session_get_state_keeps :
    Keeps d request ((start d).handleSessionGetState request) := by
  unfold handleSessionGetState
  split
  · exact keeps_same rfl
  · split <;> exact keeps_same rfl

theorem session_config_keeps : Keeps d request ((start d).handleSessionConfig request) := by
  refine (config_dispatch d.profile request).outcome (x := start d) rfl (keeps_same rfl) ?_
  intro handler listed _
  cases listed with
  | init => exact session_init_keeps
  | deinit => exact session_deinit_keeps
  | setAppConfig => exact set_app_config_keeps
  | getAppConfig => exact get_app_config_keeps
  | getCount => exact keeps_same rfl
  | queryDataSize => exact query_data_size_keeps
  | getState => exact session_get_state_keeps
  | updateMulticastList => exact update_multicast_list_keeps
  | updateAnchorRounds => exact update_dt_rounds_keeps true
  | updateTagRounds => exact update_dt_rounds_keeps false
  | dataTransferPhaseConfig => exact data_transfer_phase_config_keeps

variable {i : Fin maxSessions}

theorem logical_link_create_keeps (hfound : d.findSession request.target = some i) :
    Keeps d request ((start d).handleLogicalLinkCreate request i) := by
  unfold handleLogicalLinkCreate
  split
  · exact keeps_same rfl
  dsimp only
  split
  · exact keeps_same rfl
  split
  · exact keeps_same rfl
  split
  · exact keeps_same rfl
  · exact keeps_emit (.found hfound _) _

theorem logical_link_close_keeps (hfound : d.findSession request.target = some i) :
    Keeps d request ((start d).handleLogicalLinkClose request i) := by
  unfold handleLogicalLinkClose
  split
  · exact keeps_same rfl
  dsimp only
  split
  · exact keeps_same rfl
  · exact keeps_emit (.found hfound _) _

theorem logical_link_get_param_keeps :
    Keeps d request ((start d).handleLogicalLinkGetParam request i) := by
  unfold handleLogicalLinkGetParam
  split
  · exact keeps_same rfl
  · dsimp only
    split <;> exact keeps_same rfl

/-- The stream of a session that starts is its own. -/
theorem started_isolates {sessionId : UInt32} {d' : Device} (h : d.Isolates sessionId d')
    (hi : (d.sessions i).sessionId = sessionId) (hi' : (d'.sessions i).sessionId = sessionId) :
    d.Isolates sessionId (d'.onSessionStarted i).2 := by
  rw [started_eq]
  by_cases hs : d'.scenario = .rangingStream
  swap
  · rw [if_neg hs]
    exact h
  rw [if_pos hs]
  refine (h.setSession _ fun _ => hi).withEvents ?_
  rw [streamEvents, hi']
  split
  · rfl
  · exact others_append _ _ _ _

/-- A session that stops cancels its own events. -/
theorem stopped_isolates {sessionId : UInt32} {d' : Device} (h : d.Isolates sessionId d')
    (hi : (d.sessions i).sessionId = sessionId) (hi' : (d'.sessions i).sessionId = sessionId) :
    d.Isolates sessionId (d'.onSessionStopped i) := by
  have hstop := (h.setSession (d'.sessions i).stopStream fun _ => hi).withEvents
    (others_cancelled sessionId d'.scheduledEvents)
  rw [← hi'] at hstop ⊢
  exact hstop

theorem entered_isolates {sessionId : UInt32} (oid nextState : UInt8)
    (hfound : d.findSession sessionId = some i) :
    d.Isolates sessionId (d.entered oid i nextState) := by
  have hid := (Device.find_session_some hfound).2
  have hset : d.Isolates sessionId (d.setSession i (d.entering oid i nextState)) :=
    .found hfound _
  have hid' : ((d.setSession i (d.entering oid i nextState)).sessions i).sessionId =
      sessionId := by
    rw [Device.setSession_same]
    unfold Device.entering
    split <;> exact hid
  unfold Device.entered Device.reactToTransition
  split_ifs
  · exact started_isolates hset hid hid'
  · exact stopped_isolates hset hid hid'
  · exact hset

theorem enter_state_isolates (nextState : UInt8) (hfound : d.findSession request.target = some i) :
    d.Isolates request.target ((start d).enterState request i nextState).device := by
  rw [enter_state_eq]
  show Keeps d request (.ok,_)
  exact keeps_emit (entered_isolates request.oid nextState hfound) _

theorem transition_keeps (hfound : d.findSession request.target = some i) :
    Keeps d request ((start d).handleTransition request i) := by
  unfold handleTransition
  split
  · exact keeps_same rfl
  dsimp only
  split
  · exact keeps_same rfl
  split
  · split
    · exact keeps_emit (.refl d _) _
    · exact keeps_same rfl
  · exact enter_state_isolates _ hfound

theorem session_control_keeps : Keeps d request ((start d).handleSessionControl request) := by
  cases control_dispatch d.profile request (d.findSession request.target) with
  | refused _ _ _ fails =>
    rw [fails (start d) rfl rfl]
    exact keeps_same rfl
  | handled handler i listed _ _ hfound runs =>
    rw [runs (start d) rfl rfl]
    cases listed with
    | getRangingCount => exact keeps_same rfl
    | logicalLinkCreate => exact logical_link_create_keeps hfound
    | logicalLinkClose => exact logical_link_close_keeps hfound
    | logicalLinkGetParam => exact logical_link_get_param_keeps
    | transition => exact transition_keeps hfound

theorem data_change_isolates {posting : Posting} {d' : Device}
    (h : DataChange d request posting d') : d.Isolates request.target d' := by
  cases h with
  | ignored => exact .refl d _
  | refused => exact .refl d _
  | repeated => exact .refl d _
  | completed i _ _ found => exact .found found _
  | begun i sequenceNumber declaredLength delayMs found =>
    exact (Device.Isolates.found (d := d) found _).withEvents
      (others_append d.scheduledEvents .dataTransfer request.target delayMs)
  | unscheduled i _ _ found => exact .found found _

theorem posted_device (d : Device) (response : Option Packet) (posting : Posting) :
    ∃ pending, (posted d response posting).device = d.withPending pending := by
  cases posting with
  | delivered ns =>
    rw [posted, emitAll_mail]
    exact ⟨_,rfl⟩
  | queued ns =>
    rw [posted, queueAll_mail]
    exact ⟨_,rfl⟩
  | placed n => exact ⟨_,rfl⟩

end

/-- In every device, reachable or not, a packet for one session leaves the slots and the events of
every other session, the core configuration, the device state and both counters alone. -/
theorem session_packets_isolated (d : Device) (request : Packet) (h : request.ForSession) :
    d.Isolates request.target (d.handlePacket request).2.device := by
  rcases h with hdata | ⟨hcommand,hgid⟩
  · rcases data_message_answers d request with ⟨posting,d',hx,hchange⟩
    have hpacket : (d.handlePacket request).2 =
        ((start d).handleDataMessageSend request).2.finalizeResult
          d.pendingNotifications.length := by
      unfold Device.handlePacket
      rw [if_pos hdata]
    rcases finalize_device (posted d' none posting) d.pendingNotifications.length with ⟨p,hp⟩
    rcases posted_device d' none posting with ⟨q,hq⟩
    rw [hpacket, hx, hp, hq]
    exact ((data_change_isolates hchange).withPending q).withPending p
  · have hkeeps : Keeps d request ((start d).dispatchCommand request) := by
      rcases hgid with hgid | hgid
      · rw [dispatch_config hgid]
        exact session_config_keeps
      · rw [dispatch_control hgid]
        exact session_control_keeps
    rcases handle_command_device d request hcommand with ⟨pending,hp⟩
    rw [hp]
    exact hkeeps.withPending pending

/-- Starting session 1 while session 2 streams. -/
theorem second_stream_isolated :
    let d := (Run.reached defaultProfile .rangingStream [.submit (initRequest 1),
      .submit (initRequest 2), .submit (startRequest 2)]).engine.device
    d.Isolates (startRequest 1).target (d.handlePacket (startRequest 1)).2.device :=
  session_packets_isolated _ (startRequest 1) (.inr ⟨rfl,.inr rfl⟩)

end UciSim
