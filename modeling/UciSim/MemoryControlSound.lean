import UciSim.MemoryControl
import UciSim.MemorySessionSound

/-!
# Every call stays in its arrays

The handlers of a running session touch only what their guards allow, and the
dispatcher adds the error report and the delivery of what waits. So a call on a
device in its arrays meets no fault, and it leaves the device there.
-/

set_option autoImplicit false

namespace UciSim.Memory

open Arrays

variable {x : Exchange}

theorem read_optional_eq (payload : List UInt8) (i : ℕ) (absent : UInt8) :
    readOptional payload i absent =
      .ok (if payload.length ≥ i+1 then byteAt payload i else absent) := by
  unfold readOptional
  by_cases h : payload.length ≥ i+1
  · rw [if_pos h, if_pos h, read_byte h]
  · rw [if_neg h, if_neg h]

theorem taken_link_eq {session : Session} (h : session.InArrays) (requestedId : UInt8) :
    takenLink session requestedId =
      .ok (if requestedId ≠ 0xFF then session.findLogicalLink requestedId else none) := by
  rw [takenLink, find_logical_link_eq h]
  by_cases hwild : requestedId ≠ 0xFF
  · rw [if_pos hwild, if_pos hwild]
  · rw [if_neg hwild, if_neg hwild]

theorem logical_link_create_sound (h : x.device.InArrays) (request : Packet)
    (i : Fin maxSessions) :
    Sound (handleLogicalLinkCreate x request (UciSim.readU32Le request.payload 0) i)
      (x.handleLogicalLinkCreate request i) := by
  unfold handleLogicalLinkCreate
  rw [read_optional_eq, ok_bind, read_optional_eq, ok_bind, read_optional_eq, ok_bind]
  refine sound_ite _ (fun _ => fail_sound h request _) fun hlong => ?_
  have hid : (if request.payload.length ≥ 4+1 then byteAt request.payload 4 else 0xFF) =
      byteAt request.payload 4 := if_pos (by omega)
  have hrefused : ∀ status : UInt8, Sound
      (answer .err x gidSessionControl sessionLogicalLinkCreate [status,0xFF,0])
      (.err,x.respond gidSessionControl sessionLogicalLinkCreate [status,0xFF,0]) :=
    fun status => answer_sound h .err _ _ (show 3 ≤ maxPayload by decide)
  rw [hid]
  dsimp only
  rw [taken_link_eq (h.sessions i), ok_bind]
  refine sound_ite_of_iff ?_ (fun _ => hrefused _) fun _ => ?_
  · by_cases hwild : byteAt request.payload 4 ≠ 0xFF
    · rw [if_pos hwild, and_iff_right hwild]
    · rw [if_neg hwild]
      exact ⟨nofun,fun htaken => absurd htaken.1 hwild⟩
  refine sound_ite _ (fun _ => hrefused _) fun _ => ?_
  rw [allocate_logical_link_eq (h.sessions i), ok_bind]
  cases halloc : (x.device.sessions i).allocateLogicalLink (byteAt request.payload 4)
      (if request.payload.length ≥ 5+1 then byteAt request.payload 5 else 0)
      (if request.payload.length ≥ 6+1 then byteAt request.payload 6 else 1) with
  | none => exact hrefused _
  | some allocated =>
    rcases allocated with ⟨assignedId,session⟩
    have hd := h.set_session i ((h.sessions i).allocate_logical_link halloc)
    dsimp only
    rw [respond_eq _ _ _ (by exact show 3 ≤ maxPayload by decide), ok_bind,
      emit_eq _ (by exact show 6 ≤ maxPayload by decide), ok_bind]
    exact ⟨rfl,Exchange.emit_in_arrays hd _⟩

theorem logical_link_close_sound (h : x.device.InArrays) (request : Packet)
    (i : Fin maxSessions) :
    Sound (handleLogicalLinkClose x request (UciSim.readU32Le request.payload 0) i)
      (x.handleLogicalLinkClose request i) := by
  refine sound_ite _ (fun _ => fail_sound h request _) fun hlong => ?_
  rw [read_byte (by omega), ok_bind, remove_logical_link_eq (h.sessions i), ok_bind]
  dsimp only
  cases hremove : (x.device.sessions i).removeLogicalLink (byteAt request.payload 4) with
  | none => exact answer_sound h .err _ _ (show 2 ≤ maxPayload by decide)
  | some session =>
    have hd := h.set_session i ((h.sessions i).remove_logical_link hremove)
    dsimp only
    rw [respond_eq _ _ _ (by exact show 2 ≤ maxPayload by decide), ok_bind,
      emit_eq _ (by exact show 6 ≤ maxPayload by decide), ok_bind]
    exact ⟨rfl,Exchange.emit_in_arrays hd _⟩

theorem logical_link_get_param_sound (h : x.device.InArrays) (request : Packet)
    (i : Fin maxSessions) :
    Sound (handleLogicalLinkGetParam x request i) (x.handleLogicalLinkGetParam request i) := by
  refine sound_ite _ (fun _ => fail_sound h request _) fun hlong => ?_
  rw [read_byte (by omega), ok_bind, find_logical_link_eq (h.sessions i), ok_bind]
  dsimp only
  cases (x.device.sessions i).findLogicalLink (byteAt request.payload 4) with
  | none => exact answer_sound h .err _ _ (show 4 ≤ maxPayload by decide)
  | some link => exact answer_sound h .ok _ _ (show 4 ≤ maxPayload by decide)

theorem on_session_started_eq (d : Device) (i : Fin maxSessions) :
    onSessionStarted d i = .ok (d.onSessionStarted i) := by
  unfold onSessionStarted Device.onSessionStarted
  by_cases hscenario : d.scenario ≠ .rangingStream
  · rw [if_pos hscenario, if_pos hscenario]
  rw [if_neg hscenario, if_neg hscenario]
  dsimp only
  by_cases hburst : ((d.sessions i).startStream
      d.profile.rangingStreamBurstCount).rangingStreamRemaining = 0
  · rw [if_pos hburst, if_pos hburst]
  · rw [if_neg hburst, if_neg hburst, schedule_event_eq]

theorem react_to_transition_eq {d : Device} (h : d.InArrays) (oid : UInt8)
    (i : Fin maxSessions) :
    reactToTransition d oid i = .ok (d.reactToTransition oid i) := by
  unfold reactToTransition Device.reactToTransition
  by_cases hstart : oid = sessionStart
  · rw [if_pos hstart, if_pos hstart, on_session_started_eq]
    rfl
  rw [if_neg hstart, if_neg hstart]
  by_cases hstop : oid = sessionStop
  · rw [if_pos hstop, if_pos hstop]
    refine cancel_session_events_eq (h.set_session i ?_) _
    exact (h.sessions i).congr rfl rfl rfl rfl rfl rfl
  · rw [if_neg hstop, if_neg hstop]

theorem react_to_transition_in_arrays {d : Device} (h : d.InArrays) (oid : UInt8)
    (i : Fin maxSessions) : (d.reactToTransition oid i).InArrays := by
  have hstarted : (d.setSession i
      ((d.sessions i).startStream d.profile.rangingStreamBurstCount)).InArrays :=
    h.set_session i ((h.sessions i).congr rfl rfl rfl rfl rfl rfl)
  have hstopped : (d.setSession i (d.sessions i).stopStream).InArrays :=
    h.set_session i ((h.sessions i).congr rfl rfl rfl rfl rfl rfl)
  unfold Device.reactToTransition Device.onSessionStarted
  dsimp only
  split_ifs
  · exact h
  · exact hstarted
  · exact hstarted.schedule_event _ _ _
  · exact hstopped.cancel_session_events _
  · exact h

theorem entering_in_arrays {d : Device} (h : d.InArrays) (oid : UInt8) (i : Fin maxSessions)
    (nextState : UInt8) : (d.setSession i (d.entering oid i nextState)).InArrays := by
  refine h.set_session i ?_
  unfold Device.entering
  by_cases hrestarts : oid = sessionStart ∨ oid = sessionStop
  · simp only [if_pos hrestarts]
    exact (h.sessions i).congr rfl rfl rfl rfl rfl rfl
  · simp only [if_neg hrestarts]
    exact (h.sessions i).congr rfl rfl rfl rfl rfl rfl

theorem enter_state_eq (h : x.device.InArrays) (request : Packet) (i : Fin maxSessions)
    (nextState : UInt8) :
    enterState x request (UciSim.readU32Le request.payload 0) i nextState =
        .ok (x.enterState request i nextState) ∧
      (x.enterState request i nextState).device.InArrays := by
  have hd := entering_in_arrays h request.oid i nextState
  have hsent := Exchange.emit_in_arrays (x := (x.setSession i
    (x.device.entering request.oid i nextState)).makeStatusResponse request statusOk) hd
    (sessionStatusNotification (UciSim.readU32Le request.payload 0) nextState
      x.device.profile.sessionStatusReasonCode)
  constructor
  · unfold enterState
    rw [respond_eq _ _ _ (by exact show 1 ≤ maxPayload by decide), ok_bind, emit_status_eq,
      ok_bind, react_to_transition_eq (by exact hsent), ok_bind]
    rfl
  · exact react_to_transition_in_arrays hsent request.oid i

theorem transition_sound (h : x.device.InArrays) (request : Packet) (i : Fin maxSessions) :
    Sound (handleTransition x request (UciSim.readU32Le request.payload 0) i)
      (x.handleTransition request i) := by
  unfold handleTransition Exchange.handleTransition
  cases htransition : x.device.profile.getSessionTransition request.oid with
  | none => exact fail_sound h request _
  | some transition =>
    refine sound_ite _ (fun _ => fail_sound h request _) fun _ => ?_
    dsimp only
    generalize (if request.oid = sessionStart then
      validateSessionStart x.device.profile (x.device.sessions i) else .ok ()) = verdict
    cases verdict with
    | ok admitted =>
      rcases enter_state_eq h request i transition.nextState with ⟨heq,hd⟩
      dsimp only
      rw [heq]
      exact ⟨rfl,hd⟩
    | error invalid =>
      refine sound_ite _ (fun _ => ?_) fun _ => fail_sound h request _
      rw [respond_eq _ _ _ (by exact show 1 ≤ maxPayload by decide), ok_bind]
      dsimp only [emitSessionStatusNtfWithReason]
      rw [emit_eq _ (by exact show 6 ≤ maxPayload by decide), ok_bind]
      exact ⟨rfl,Exchange.emit_in_arrays (x := x.makeStatusResponse request statusOk) h _⟩

theorem session_control_sound (h : x.device.InArrays) (request : Packet) :
    Sound (handleSessionControl x request) (x.handleSessionControl request) := by
  unfold handleSessionControl Exchange.handleSessionControl
  refine sound_ite _ (fun _ => fail_sound h request _) fun _ => ?_
  refine sound_ite _ (fun _ => fail_sound h request _) fun hlong => ?_
  rw [read_u32_eq (by omega), ok_bind]
  cases hfound : x.device.findSession (UciSim.readU32Le request.payload 0) with
  | none => exact fail_sound h request _
  | some i =>
    refine sound_ite _ (fun _ => answer_sound h .ok _ _ (show 5 ≤ maxPayload by decide))
      fun _ => ?_
    refine sound_ite _ (fun _ => logical_link_create_sound h request i) fun _ => ?_
    refine sound_ite _ (fun _ => logical_link_close_sound h request i) fun _ => ?_
    exact sound_ite _ (fun _ => logical_link_get_param_sound h request i) fun _ =>
      transition_sound h request i

theorem queue_data_eq (x : Exchange) {n : Packet} (h : n.payload.length ≤ maxPayload) :
    queueData x n = .ok (x.queueNotification n) := by
  rw [queueData, touch_inside (by rw [Nat.zero_add]; exact h), ok_bind, queue_notification_eq]

theorem queue_data_completion_sound (h : x.device.InArrays) (sessionId : UInt32)
    (sequenceNumber : UInt16) (status : UInt8) :
    Sound (queueDataCompletion x sessionId sequenceNumber status)
      (x.queueDataCompletion sessionId sequenceNumber status) := by
  unfold queueDataCompletion Exchange.queueDataCompletion
  rw [queue_data_eq x (by exact show 5 ≤ maxPayload by decide), ok_bind]
  have hd := Exchange.queue_in_arrays h (dataCreditNotification sessionId 1)
  unfold Exchange.queueDataCreditNotification
  cases hcredit : x.queueNotification (dataCreditNotification sessionId 1) with
  | mk rc x' =>
    rw [hcredit] at hd
    cases rc with
    | err => exact ⟨rfl,hd⟩
    | ok =>
      dsimp only
      rw [queue_data_eq x' (by exact show 8 ≤ maxPayload by decide)]
      exact ⟨rfl,Exchange.queue_in_arrays hd _⟩

/-- A transfer whose event finds no room is abandoned. -/
theorem transfer_scheduled_sound (h : x.device.InArrays) (i : Fin maxSessions)
    {abandoned : Session} (ha : abandoned.InArrays) (sessionId delayMs : UInt32) :
    Sound (do
        match ← scheduleEvent x.device .dataTransfer sessionId delayMs with
        | (.ok,device) => return (.ok,{ x with device := device })
        | (.err,_) => return (.err,x.setSession i abandoned))
      (match x.device.scheduleEvent .dataTransfer sessionId delayMs with
        | (.ok,device) => (.ok,{ x with device := device })
        | (.err,_) => (.err,x.setSession i abandoned)) := by
  have hscheduled := h.schedule_event .dataTransfer sessionId delayMs
  rw [schedule_event_eq, ok_bind]
  cases hevent : x.device.scheduleEvent .dataTransfer sessionId delayMs with
  | mk rc device =>
    rw [hevent] at hscheduled
    cases rc with
    | ok => exact ⟨rfl,hscheduled⟩
    | err => exact ⟨rfl,h.set_session i ha⟩

theorem begin_data_transfer_sound (h : x.device.InArrays) (i : Fin maxSessions)
    (sessionId : UInt32) (sequenceNumber : UInt16) (dataRepetitionCount : UInt8) :
    Sound (beginDataTransfer x i sessionId sequenceNumber dataRepetitionCount)
      (x.beginDataTransfer i sessionId sequenceNumber dataRepetitionCount) := by
  have hbegun : (x.device.setSession i ((x.device.sessions i).beginTransfer
      dataRepetitionCount sequenceNumber)).InArrays :=
    h.set_session i ((h.sessions i).congr rfl rfl rfl rfl rfl rfl)
  have habandoned : ((x.device.sessions i).beginTransfer dataRepetitionCount
      sequenceNumber).abandonTransfer.InArrays :=
    (h.sessions i).congr rfl rfl rfl rfl rfl rfl
  exact transfer_scheduled_sound (x := x.setSession i _) hbegun i habandoned sessionId _

theorem refuse_data_sound (h : x.device.InArrays) (sessionId : UInt32) (sequenceNumber : UInt16)
    (status txCount : UInt8) :
    Sound (refuseData x (dataTransferStatusNotification sessionId sequenceNumber status txCount))
      (.err,x.placeNotification
        (dataTransferStatusNotification sessionId sequenceNumber status txCount)) := by
  rw [refuseData, touch_inside (by exact show 0+8 ≤ maxPayload by decide)]
  exact ⟨rfl,h⟩

theorem data_message_send_sound (h : x.device.InArrays) (request : Packet) :
    Sound (handleDataMessageSend x request) (x.handleDataMessageSend request) := by
  unfold handleDataMessageSend Exchange.handleDataMessageSend
  refine sound_ite _ (fun _ => ⟨rfl,h⟩) fun _ => ?_
  refine sound_ite _ (fun _ => ⟨rfl,h⟩) fun hlong => ?_
  rw [read_u32_eq (by omega), ok_bind, read_u16_eq (by omega), ok_bind, read_u16_eq (by omega),
    ok_bind]
  refine sound_ite _ (fun _ => refuse_data_sound h _ _ _ _) fun _ => ?_
  cases hfound : x.device.findSession (UciSim.readU32Le request.payload 0) with
  | none => exact refuse_data_sound h _ _ _ _
  | some i =>
    refine sound_ite _ (fun _ => refuse_data_sound h _ _ _ _) fun _ => ?_
    refine sound_ite _ (fun _ => refuse_data_sound h _ _ _ _) fun _ => ?_
    refine sound_ite _ (fun _ => queue_data_completion_sound h _ _ _) fun _ => ?_
    have hd : (x.setSession i ((x.device.sessions i).rememberData
        (UciSim.readU16Le request.payload 12)
        (UciSim.readU16Le request.payload 14))).device.InArrays :=
      h.set_session i ((h.sessions i).congr rfl rfl rfl rfl rfl rfl)
    exact sound_ite _ (fun _ => queue_data_completion_sound hd _ _ _) fun _ =>
      begin_data_transfer_sound hd i _ _ _

theorem dispatch_command_sound (h : x.device.InArrays)
    (hcaps : x.device.profile.coreCapsPayload.length ≤ maxPayload) (request : Packet) :
    Sound (dispatchCommand x request) (x.dispatchCommand request) := by
  unfold dispatchCommand Exchange.dispatchCommand
  refine sound_ite _ (fun _ => core_sound h hcaps request) fun _ => ?_
  refine sound_ite _ (fun _ => session_config_sound h request) fun _ => ?_
  refine sound_ite _ (fun _ => session_control_sound h request) fun _ => ?_
  refine sound_ite _ (fun _ => qorvo_ext2_sound h request) fun _ => ?_
  exact sound_ite _ (fun _ => qorvo_mac_sound h request) fun _ => fail_sound h request _

theorem report_error_eq {outcome : Rc × Exchange} (h : outcome.2.device.InArrays) :
    reportError outcome = .ok (Exchange.reportError outcome) ∧
      (Exchange.reportError outcome).device.InArrays := by
  rcases outcome with ⟨_ | _,x⟩
  · exact ⟨rfl,h⟩
  unfold reportError Exchange.reportError
  dsimp only
  cases x.result.response with
  | none => exact ⟨rfl,h⟩
  | some response =>
    rcases hpayload : response.payload with _ | ⟨status,rest⟩
    · dsimp only
      rw [hpayload]
      exact ⟨rfl,h⟩
    · have hstatus : read (status::rest) 0 = .ok status := rfl
      dsimp only
      rw [hpayload, if_pos (by simp), hstatus, ok_bind,
        emit_eq _ (by exact show 1 ≤ maxPayload by decide)]
      exact ⟨rfl,Exchange.emit_in_arrays h _⟩

/-- A call on a device in its arrays meets no fault, does what the model's call does and
leaves the device in its arrays. -/
theorem handle_packet_sound {d : Device} (h : d.InArrays)
    (hcaps : d.profile.coreCapsPayload.length ≤ maxPayload) (request : Packet) :
    Sound (handlePacket d request) (d.handlePacket request) := by
  unfold handlePacket Device.handlePacket
  have hstart : (Exchange.start d).device.InArrays := h
  refine sound_ite _ (fun _ => ?_) fun _ => ?_
  · rcases data_message_send_sound hstart request with ⟨heq,hd⟩
    rw [heq, ok_bind]
    dsimp only
    rw [finalize_result_eq (by exact hd), ok_bind]
    exact ⟨rfl,Exchange.finalize_in_arrays hd _⟩
  refine sound_ite _ (fun _ => ⟨rfl,h⟩) fun _ => ?_
  rcases dispatch_command_sound hstart hcaps request with ⟨heq,hd⟩
  rcases report_error_eq hd with ⟨hreported,hd'⟩
  rw [heq, ok_bind, hreported, ok_bind, finalize_result_eq (by exact hd'), ok_bind]
  exact ⟨rfl,Exchange.finalize_in_arrays hd' _⟩

end UciSim.Memory
