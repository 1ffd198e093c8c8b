import UciSim.Twins

/-!
# Twins and packets

Starting and stopping a session read the scenario only to arm the ranging stream, and a
data message not at all. So outside the stream a whole packet is the same for a device
and for its twin, up to what the mailbox makes of the notifications.
-/

set_option autoImplicit false

namespace UciSim

open Exchange

section

variable {d : Device} {s : Scenario} {request : Packet} {i : Fin maxSessions}

theorem started_unstreamed (h : d.scenario ≠ .rangingStream) : (d.onSessionStarted i).2 = d := by
  rw [started_eq, if_neg h]

theorem entered_twin (hd : d.scenario ≠ .rangingStream) (hs : s ≠ .rangingStream)
    (oid nextState : UInt8) :
    (d.inScenario s).entered oid i nextState = (d.entered oid i nextState).inScenario s := by
  have hhere : (d.setSession i (d.entering oid i nextState)).scenario ≠ .rangingStream := hd
  have hthere : ((d.inScenario s).setSession i
      ((d.inScenario s).entering oid i nextState)).scenario ≠ .rangingStream := hs
  unfold Device.entered Device.reactToTransition
  rw [started_unstreamed hhere, started_unstreamed hthere]
  split
  · rfl
  split
  · rfl
  · rfl

theorem transition_twins (hd : d.scenario ≠ .rangingStream) (hs : s ≠ .rangingStream) :
    Twins s ((start d).handleTransition request i)
      ((start (d.inScenario s)).handleTransition request i) := by
  unfold handleTransition
  rw [start_device, start_device, Device.inScenario_profile, Device.inScenario_sessions]
  cases d.profile.getSessionTransition request.oid with
  | none => exact twins_fail _ _
  | some transition =>
    dsimp only
    refine ite_related Iff.rfl (fun _ => twins_fail _ _) fun _ => ?_
    cases (if request.oid = sessionStart then validateSessionStart d.profile (d.sessions i)
      else .ok ()) with
    | ok =>
      dsimp only
      rw [enter_state_eq, enter_state_eq, entered_twin hd hs]
      exact twins_emit (d.entered request.oid i _) _ _ _ _ _
    | error invalid =>
      refine ite_related Iff.rfl (fun _ => ?_) fun _ => twins_fail _ _
      exact twins_emit d _ _ _ _ _

theorem logical_link_create_twins : Twins s ((start d).handleLogicalLinkCreate request i)
    ((start (d.inScenario s)).handleLogicalLinkCreate request i) := by
  unfold handleLogicalLinkCreate
  refine ite_related Iff.rfl (fun _ => twins_fail _ _) fun _ => ?_
  dsimp only
  refine ite_related Iff.rfl (fun _ => twins_same _ _ _ _) fun _ => ?_
  refine ite_related Iff.rfl (fun _ => twins_same _ _ _ _) fun _ => ?_
  rw [start_device, start_device, Device.inScenario_sessions]
  cases (d.sessions i).allocateLogicalLink (byteAt request.payload 4)
      (if request.payload.length ≥ 6 then byteAt request.payload 5 else 0)
      (if request.payload.length ≥ 7 then byteAt request.payload 6 else 1) with
  | none => exact twins_same _ _ _ _
  | some link => exact twins_emit (d.setSession i _) _ _ _ _ _

theorem logical_link_close_twins : Twins s ((start d).handleLogicalLinkClose request i)
    ((start (d.inScenario s)).handleLogicalLinkClose request i) := by
  unfold handleLogicalLinkClose
  refine ite_related Iff.rfl (fun _ => twins_fail _ _) fun _ => ?_
  dsimp only
  rw [start_device, start_device, Device.inScenario_sessions]
  cases (d.sessions i).removeLogicalLink (byteAt request.payload 4) with
  | none => exact twins_same _ _ _ _
  | some session => exact twins_emit (d.setSession i _) _ _ _ _ _

theorem logical_link_get_param_twins : Twins s ((start d).handleLogicalLinkGetParam request i)
    ((start (d.inScenario s)).handleLogicalLinkGetParam request i) := by
  unfold handleLogicalLinkGetParam
  refine ite_related Iff.rfl (fun _ => twins_fail _ _) fun _ => ?_
  dsimp only
  rw [start_device, start_device, Device.inScenario_sessions]
  cases (d.sessions i).findLogicalLink (byteAt request.payload 4) with
  | none => exact twins_same _ _ _ _
  | some link => exact twins_same _ _ _ _

theorem session_control_twins (hd : d.scenario ≠ .rangingStream) (hs : s ≠ .rangingStream) :
    Twins s ((start d).handleSessionControl request)
      ((start (d.inScenario s)).handleSessionControl request) := by
  cases control_dispatch d.profile request (d.findSession (readU32Le request.payload 0)) with
  | refused _ _ _ fails =>
    rw [fails (start d) rfl rfl, fails (start (d.inScenario s)) rfl rfl]
    exact twins_fail _ _
  | handled handler i listed _ _ _ runs =>
    rw [runs (start d) rfl rfl, runs (start (d.inScenario s)) rfl rfl]
    cases listed with
    | getRangingCount => exact twins_same _ _ _ _
    | logicalLinkCreate => exact logical_link_create_twins
    | logicalLinkClose => exact logical_link_close_twins
    | logicalLinkGetParam => exact logical_link_get_param_twins
    | transition => exact transition_twins hd hs

theorem dispatch_command_twins (hd : d.scenario ≠ .rangingStream) (hs : s ≠ .rangingStream) :
    Twins s ((start d).dispatchCommand request)
      ((start (d.inScenario s)).dispatchCommand request) := by
  rcases group_dispatch request with ⟨handler,listed,runs⟩
  rw [runs, runs]
  cases listed with
  | core => exact core_twins
  | sessionConfig => exact session_config_twins
  | sessionControl => exact session_control_twins hd hs
  | qorvoExt2 => exact qorvo_ext2_twins
  | qorvoMac => exact qorvo_mac_twins
  | unknown => exact twins_fail _ _

/-- One outcome of a packet for a device and for its twin in the scenario `s`. -/
structure PacketTwins (d : Device) (s : Scenario) (request : Packet) (rc : Rc)
    (response : Option Packet) (posting : Posting) (d' : Device) : Prop where
  here : d.handlePacket request =
    (rc,(posted d' response posting).finalizeResult d.pendingNotifications.length)
  there : (d.inScenario s).handlePacket request =
    (rc,(posted (d'.inScenario s) response posting).finalizeResult
      d.pendingNotifications.length)
  short : posting.packets.length ≤ 2
  answers : response = none → request.mt = mtData
  fails : rc = .err → response = none → posting = .queued [] ∨ ∃ n, posting = .placed n

/-- One outcome of a data message for a device and for its twin. A message that fails posts
nothing, or places its refusal. -/
def DataTwins (s : Scenario) (o o' : Rc × Exchange) : Prop :=
  ∃ rc posting d', o = (rc,posted d' none posting) ∧
    o' = (rc,posted (d'.inScenario s) none posting) ∧ posting.packets.length ≤ 2 ∧
    (rc = .err → posting = .queued [] ∨ ∃ n, posting = .placed n)

/-- With nothing waiting both notifications of a completion are queued. -/
theorem data_completion_twins (d' : Device) (hidle : d'.pendingNotifications = [])
    (sessionId : UInt32) (sequenceNumber : UInt16) (status : UInt8) :
    DataTwins s ((start d').queueDataCompletion sessionId sequenceNumber status)
      ((start (d'.inScenario s)).queueDataCompletion sessionId sequenceNumber status) := by
  have hroom : d'.pendingNotifications.length+1 < maxPendingNotifications := by
    rw [hidle]
    decide
  exact ⟨.ok,.queued (dataCompletion sessionId sequenceNumber status 1),d',
    Prod.ext (queue_pair_room _ _ hroom) (queue_data_completion _ _ _ _),
    Prod.ext (queue_pair_room _ _ hroom) (queue_data_completion _ _ _ _),
    Nat.le_refl 2,fun herr => by cases herr⟩

theorem begin_data_transfer_twins (session : Session) (sessionId : UInt32)
    (sequenceNumber : UInt16) (count : UInt8) :
    DataTwins s
      (((start d).setSession i session).beginDataTransfer i sessionId sequenceNumber count)
      (((start (d.inScenario s)).setSession i session).beginDataTransfer i sessionId
        sequenceNumber count) := by
  rw [begin_data_transfer_eq, begin_data_transfer_eq]
  by_cases hroom : maxScenarioEvents ≤ d.scheduledEvents.length
  · rw [Device.schedule_event_full (d.setSession i _) _ _ _ hroom,
      Device.schedule_event_full ((d.inScenario s).setSession i _) _ _ _ hroom]
    exact ⟨.err,.queued [],_,rfl,rfl,Nat.zero_le 2,fun _ => Or.inl rfl⟩
  · rw [Device.schedule_event_room (d.setSession i _) .dataTransfer _ _ (by decide)
        (Nat.lt_of_not_le hroom),
      Device.schedule_event_room ((d.inScenario s).setSession i _) .dataTransfer _ _ (by decide)
        (Nat.lt_of_not_le hroom)]
    exact ⟨.ok,.queued [],_,rfl,rfl,Nat.zero_le 2,fun herr => by cases herr⟩

theorem data_message_twins (hidle : d.pendingNotifications = []) :
    DataTwins s ((start d).handleDataMessageSend request)
      ((start (d.inScenario s)).handleDataMessageSend request) := by
  have hrefused : ∀ n, DataTwins s (.err,(start d).placeNotification n)
      (.err,(start (d.inScenario s)).placeNotification n) :=
    fun n => ⟨.err,.placed n,d,rfl,rfl,Nat.le_succ 1,fun _ => Or.inr ⟨n,rfl⟩⟩
  have hignored : DataTwins s (.err,start d) (.err,start (d.inScenario s)) :=
    ⟨.err,.queued [],d,rfl,rfl,Nat.zero_le 2,fun _ => Or.inl rfl⟩
  unfold handleDataMessageSend
  refine ite_related Iff.rfl (fun _ => hignored) fun _ => ?_
  refine ite_related Iff.rfl (fun _ => hignored) fun _ => ?_
  refine ite_related Iff.rfl (fun _ => hrefused _) fun _ => ?_
  rw [start_device, start_device, find_session_twin]
  cases d.findSession (readU32Le request.payload 0) with
  | none => exact hrefused _
  | some i =>
    dsimp only
    refine ite_related Iff.rfl (fun _ => hrefused _) fun _ => ?_
    refine ite_related Iff.rfl (fun _ => hrefused _) fun _ => ?_
    refine ite_related Iff.rfl (fun _ => data_completion_twins d hidle _ _ _) fun _ => ?_
    refine ite_related Iff.rfl (fun _ => ?_) fun _ => begin_data_transfer_twins _ _ _ _
    exact data_completion_twins (d.setSession i _) hidle _ _ _

theorem packet_twins (hd : d.scenario ≠ .rangingStream) (hs : s ≠ .rangingStream)
    (hidle : d.pendingNotifications = [])
    (hmt : request.mt = mtData ∨ request.mt = mtCommand) :
    ∃ rc response posting d', PacketTwins d s request rc response posting d' := by
  by_cases hdata : request.mt = mtData
  · have hmessage : DataTwins s ((start d).handleDataMessageSend request)
        ((start (d.inScenario s)).handleDataMessageSend request) := data_message_twins hidle
    obtain ⟨rc,posting,d',hhere,hthere,hshort,hfails⟩ := hmessage
    refine ⟨rc,none,posting,d',?_,?_,hshort,fun _ => hdata,fun herr _ => hfails herr⟩
    · unfold Device.handlePacket
      rw [if_pos hdata, hhere]
    · unfold Device.handlePacket
      rw [if_pos hdata, hthere]
      rfl
  · have hcommand := hmt.resolve_left hdata
    have htwins : Twins s ((start d).dispatchCommand request)
        ((start (d.inScenario s)).dispatchCommand request) := dispatch_command_twins hd hs
    obtain ⟨rc,response,ns,d',ho,ho',hshort⟩ := htwins
    refine ⟨rc,some response,.delivered (ns ++ errorNotifications rc response),d',?_,?_,
      ?_,(fun hnone => by cases hnone),fun _ hnone => by cases hnone⟩
    · rw [handle_command d request hcommand, ho, report_error_answered]
      rfl
    · rw [handle_command (d.inScenario s) request hcommand, ho', report_error_answered]
      rfl
    · have herrors := (errors_announce rc response).1
      simp only [Posting.packets, List.length_append]
      omega

end

end UciSim
