import UciSim.ConfigEffects

/-!
# Control commands and dispatch

A transition enters its state, notifies, and lets the scenario react. The
reaction does not touch the mailbox, so it commutes with the notification.
-/

set_option autoImplicit false

namespace UciSim

open Exchange

theorem logical_link_create_answers (d : Device) (request : Packet) (i : Fin maxSessions)
    (ha : (d.sessions i).allocated = true) :
    Answers d request ((start d).handleLogicalLinkCreate request i).2 := by
  unfold handleLogicalLinkCreate
  split
  · exact answers_fail d request _
  dsimp only
  split
  · exact answers_same d request _ _ _
  split
  · exact answers_same d request _ _ _
  split
  · exact answers_same d request _ _ _
  · rename_i linkId session hlink
    have hsession : ∃ links, session = { d.sessions i with logicalLinks := links } := by
      unfold Session.allocateLogicalLink at hlink
      split at hlink
      · cases hlink
      · split at hlink
        · cases hlink
        · cases hlink
          exact ⟨_,rfl⟩
    obtain ⟨links,rfl⟩ := hsession
    exact answers_emit d _ request _ _ _ _
      (.linked i _ _ _ _ _ ha
        ⟨rfl,rfl,rfl,rfl,rfl,⟨rfl,rfl,rfl,rfl⟩,rfl,rfl,⟨rfl,rfl,rfl⟩⟩ rfl (Or.inl rfl))

theorem logical_link_close_answers (d : Device) (request : Packet) (i : Fin maxSessions)
    (ha : (d.sessions i).allocated = true) :
    Answers d request ((start d).handleLogicalLinkClose request i).2 := by
  unfold handleLogicalLinkClose
  split
  · exact answers_fail d request _
  dsimp only
  split
  · exact answers_same d request _ _ _
  · rename_i session hlink
    have hsession : ∃ links, session = { d.sessions i with logicalLinks := links } := by
      unfold Session.removeLogicalLink at hlink
      split at hlink
      · cases hlink
        exact ⟨_,rfl⟩
      · cases hlink
    obtain ⟨links,rfl⟩ := hsession
    exact answers_emit d _ request _ _ _ _
      (.linked i _ _ _ _ _ ha
        ⟨rfl,rfl,rfl,rfl,rfl,⟨rfl,rfl,rfl,rfl⟩,rfl,rfl,⟨rfl,rfl,rfl⟩⟩ rfl (Or.inr rfl))

/-- The event queue once the stream of session `i` is scheduled, if it can be. -/
def streamEvents (d : Device) (i : Fin maxSessions) : List ScheduledEvent :=
  if d.profile.rangingStreamBurstCount = 0 ∨ d.scheduledEvents.length ≥ maxScenarioEvents then
    d.scheduledEvents
  else d.scheduledEvents ++ [⟨.rangeData,(d.sessions i).sessionId,
    (d.sessions i).getRangingIntervalMs d.profile⟩]

theorem started_eq (d : Device) (i : Fin maxSessions) :
    (d.onSessionStarted i).2 =
      if d.scenario = .rangingStream then
        (d.setSession i ((d.sessions i).startStream
          d.profile.rangingStreamBurstCount)).withEvents (streamEvents d i)
      else d := by
  unfold Device.onSessionStarted streamEvents
  by_cases hs : d.scenario = .rangingStream
  · rw [if_neg (not_not.mpr hs), if_pos hs]
    by_cases hz : d.profile.rangingStreamBurstCount = 0
    · rw [if_pos (Or.inl hz)]
      exact congrArg Prod.snd (if_pos hz)
    · refine (congrArg Prod.snd (if_neg hz)).trans ?_
      by_cases hroom : d.scheduledEvents.length ≥ maxScenarioEvents
      · rw [if_pos (Or.inr hroom), Device.schedule_event_full (d.setSession i _) _ _ _ hroom]
        rfl
      · rw [if_neg (show ¬ (d.profile.rangingStreamBurstCount = 0 ∨
          d.scheduledEvents.length ≥ maxScenarioEvents) from fun h => h.elim hz hroom),
          Device.schedule_event_room (d.setSession i _) .rangeData _ _ (by decide)
            (Nat.lt_of_not_le hroom)]
        rfl
  · rw [if_pos hs, if_neg hs]

theorem react_frame (d : Device) (oid : UInt8) (i : Fin maxSessions) (pending : List Packet) :
    (d.withPending pending).reactToTransition oid i =
      (d.reactToTransition oid i).withPending pending := by
  unfold Device.reactToTransition
  rw [started_eq, started_eq]
  split_ifs <;> first | rfl | contradiction

theorem react_scenario (d : Device) (oid : UInt8) (i : Fin maxSessions) :
    (d.reactToTransition oid i).scenario = d.scenario := by
  unfold Device.reactToTransition
  rw [started_eq]
  split_ifs <;> rfl

theorem react_pending (d : Device) (oid : UInt8) (i : Fin maxSessions) :
    (d.reactToTransition oid i).pendingNotifications = d.pendingNotifications := by
  unfold Device.reactToTransition
  rw [started_eq]
  split_ifs <;> rfl

/-- The transition as a change of the device that is answered and reported. -/
theorem enter_state_eq (d : Device) (request : Packet) (i : Fin maxSessions) (nextState : UInt8) :
    (start d).enterState request i nextState =
      ({ start d with device := d.entered request.oid i nextState }.makeStatusResponse request
        statusOk).emit (sessionStatusNotification (readU32Le request.payload 0) nextState
          d.profile.sessionStatusReasonCode) :=
  emit_mapDevice (fun d => d.reactToTransition request.oid i)
    (((start d).setSession i (d.entering request.oid i nextState)).makeStatusResponse
      request statusOk) _ (react_scenario _ _ _) (react_pending _ _ _) (react_frame _ _ _)

theorem enter_state_answers (d : Device) (request : Packet) (i : Fin maxSessions)
    (transition : SessionTransition) (hgid : request.gid = gidSessionControl)
    (hs : d.profile.supportsCommand request.gid request.oid = true)
    (hlen : 4 ≤ request.payload.length)
    (hfound : d.findSession (readU32Le request.payload 0) = some i)
    (hlisted : d.profile.getSessionTransition request.oid = some transition)
    (hallowed : transition.allows (d.sessions i).state = true)
    (hvalid : request.oid = sessionStart →
      validateSessionStart d.profile (d.sessions i) = .ok ()) :
    Answers d request ((start d).enterState request i transition.nextState) := by
  refine ⟨⟨mtResponse,pbfComplete,request.gid,request.oid,[statusOk]⟩,_,_,?_,rfl,
    .moved i d.profile.sessionStatusReasonCode transition hgid hs hlen hfound hlisted
      hallowed hvalid⟩
  exact enter_state_eq d request i transition.nextState

theorem transition_answers (d : Device) (request : Packet) (i : Fin maxSessions)
    (hgid : request.gid = gidSessionControl)
    (hs : d.profile.supportsCommand request.gid request.oid = true)
    (hlen : 4 ≤ request.payload.length)
    (hfound : d.findSession (readU32Le request.payload 0) = some i) :
    Answers d request ((start d).handleTransition request i).2 := by
  unfold handleTransition
  split
  · exact answers_fail d request _
  rename_i transition hlisted
  dsimp only
  split
  · exact answers_fail d request _
  rename_i hallows
  split
  · rename_i invalid hverdict
    split
    · exact answers_emit d d request _ _ _ _ (.reported _ i _ hfound)
    · exact answers_fail d request _
  · rename_i hverdict
    refine enter_state_answers d request i transition hgid hs hlen hfound hlisted
      (by simpa [start] using hallows) ?_
    intro hstart
    rw [if_pos hstart] at hverdict
    exact hverdict

theorem session_control_answers (d : Device) (request : Packet)
    (hgid : request.gid = gidSessionControl) :
    Answers d request ((start d).handleSessionControl request).2 := by
  cases control_dispatch d.profile request (d.findSession (readU32Le request.payload 0)) with
  | refused _ _ _ fails =>
    rw [fails (start d) rfl rfl]
    exact answers_fail d request _
  | handled handler i listed supported long hfound runs =>
    rcases Device.find_session_some hfound with ⟨ha,-⟩
    rw [runs (start d) rfl rfl]
    cases listed with
    | getRangingCount => exact answers_same d request _ _ _
    | logicalLinkCreate => exact logical_link_create_answers d request i ha
    | logicalLinkClose => exact logical_link_close_answers d request i ha
    | logicalLinkGetParam =>
      unfold handleLogicalLinkGetParam
      split
      · exact answers_fail d request _
      · dsimp only
        split <;> exact answers_same d request _ _ _
    | transition => exact transition_answers d request i hgid supported long hfound

theorem dispatch_command_answers (d : Device) (request : Packet) :
    Answers d request ((start d).dispatchCommand request).2 := by
  rcases group_dispatch request with ⟨handler,listed,runs⟩
  rw [runs]
  cases listed with
  | core group => exact core_answers d request group
  | sessionConfig group => exact session_config_answers d request group
  | sessionControl group => exact session_control_answers d request group
  | qorvoExt2 => exact qorvo_ext2_answers d request
  | qorvoMac => exact qorvo_mac_answers d request
  | unknown => exact answers_fail d request _

end UciSim
