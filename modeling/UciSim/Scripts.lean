import UciSim.AppConfigEntries
import UciSim.DeferredDelivery

/-!
# Commands do not read what waits

Whatever waits for the transport, a handler returns the same code, fills the same
response, emits the same notifications and changes the rest of the device in the
same way. An accepted reset, which empties the queue, is the exception.
-/

set_option autoImplicit false

namespace UciSim

open Exchange

/-- What a packet or a transfer notifies of on the control group. -/
def controlNotificationOids : List UInt8 :=
  [sessionLogicalLinkUwbsCreate,sessionLogicalLinkUwbsClose,sessionDataCreditNtf,
    sessionDataTransferStatusNtf]

/-- A notification that is not a measurement. -/
def Packet.Announces (n : Packet) : Prop :=
  n.mt = mtNotification ∧ (n.gid = gidSessionControl → n.oid ∈ controlNotificationOids)

/-- What a command leaves alone. -/
structure Device.SameQueue (d d' : Device) : Prop where
  pending : d'.pendingNotifications = d.pendingNotifications
  scenario : d'.scenario = d.scenario
  profile : d'.profile = d.profile
  sequence : d'.nextRangingSequence = d.nextRangingSequence

theorem Device.SameQueue.rfl (d : Device) : d.SameQueue d :=
  ⟨Eq.refl _,Eq.refl _,Eq.refl _,Eq.refl _⟩

theorem Device.SameQueue.trans {d d' d'' : Device} (h : d.SameQueue d') (h' : d'.SameQueue d'') :
    d.SameQueue d'' :=
  ⟨h'.pending.trans h.pending,h'.scenario.trans h.scenario,h'.profile.trans h.profile,
    h'.sequence.trans h.sequence⟩

/-- One script for the outcome of a handler and for its outcome while `p` waits. -/
def Scripted (d : Device) (p : List Packet) (o o' : Rc × Exchange) : Prop :=
  ∃ rc response ns d', o = (rc,answered d' response ns) ∧
    o' = (rc,answered (d'.withPending p) response ns) ∧
    d.SameQueue d' ∧ response.mt = mtResponse ∧ ns.length ≤ 1 ∧ ∀ n ∈ ns, n.Announces

section

variable {d : Device} {p : List Packet}

/-- A handler that changes the device and responds. -/
theorem scripted_respond {d' : Device} (rc : Rc) (gid oid : UInt8) (payload : List UInt8)
    (h : d.SameQueue d') :
    Scripted d p (rc,{ start d with device := d' }.respond gid oid payload)
      (rc,{ start (d.withPending p) with device := d'.withPending p }.respond gid oid payload) :=
  ⟨rc,_,[],d',rfl,rfl,h,rfl,Nat.zero_le _,List.forall_mem_nil _⟩

theorem scripted_same (rc : Rc) (gid oid : UInt8) (payload : List UInt8) :
    Scripted d p (rc,(start d).respond gid oid payload)
      (rc,(start (d.withPending p)).respond gid oid payload) :=
  ⟨rc,_,[],d,rfl,rfl,⟨rfl,rfl,rfl,rfl⟩,rfl,Nat.zero_le _,List.forall_mem_nil _⟩

theorem scripted_fail (request : Packet) (status : UInt8) :
    Scripted d p ((start d).fail request status) ((start (d.withPending p)).fail request status) :=
  scripted_same .err request.gid request.oid [status]

/-- A handler that also emits one notification. -/
theorem scripted_emit {d' : Device} (rc : Rc) (gid oid : UInt8) (payload : List UInt8)
    {n : Packet} (h : d.SameQueue d') (hn : n.Announces) :
    Scripted d p (rc,({ start d with device := d' }.respond gid oid payload).emit n)
      (rc,({ start (d.withPending p) with device := d'.withPending p }.respond gid oid
        payload).emit n) :=
  ⟨rc,_,[n],d',rfl,rfl,h,rfl,Nat.le_refl _,fun _ hm => List.mem_singleton.mp hm ▸ hn⟩

theorem start_device (d : Device) : (start d).device = d := rfl

theorem find_session_waiting (d : Device) (p : List Packet) (sessionId : UInt32) :
    (d.withPending p).findSession sessionId = d.findSession sessionId := rfl

theorem session_status_announces (sessionId : UInt32) (state reason : UInt8) :
    (sessionStatusNotification sessionId state reason).Announces :=
  ⟨rfl,fun h => absurd h (show ¬ gidSessionConfig = gidSessionControl by decide)⟩

variable {request : Packet}

theorem core_set_configs_waiting (count : ℕ) (rest : List UInt8) (d : Device)
    (items : List UInt8) (anyFailed : Bool) :
    coreSetConfigs count rest (d.withPending p) items anyFailed =
        ((coreSetConfigs count rest d items anyFailed).1.withPending p,
          (coreSetConfigs count rest d items anyFailed).2) ∧
      d.SameQueue (coreSetConfigs count rest d items anyFailed).1 := by
  induction count generalizing rest d items anyFailed with
  | zero => exact ⟨rfl,rfl,rfl,rfl,rfl⟩
  | succ count ih =>
    match rest with
    | [] => exact ⟨rfl,rfl,rfl,rfl,rfl⟩
    | [_] => exact ⟨rfl,rfl,rfl,rfl,rfl⟩
    | configId::valueLen::rest =>
      unfold coreSetConfigs
      dsimp only
      by_cases hcut : rest.length < valueLen.toNat ∨ 2+items.length+2 > maxPayload
      · rw [if_pos hcut, if_pos hcut]
        exact ⟨rfl,rfl,rfl,rfl,rfl⟩
      rw [if_neg hcut, if_neg hcut]
      by_cases hstate : configId = deviceConfigDeviceState
      · rw [if_pos hstate, if_pos hstate]
        exact ih _ _ _ _
      rw [if_neg hstate, if_neg hstate, Device.withPending_profile]
      by_cases hsupported : (!d.profile.supportsCoreConfig configId) = true
      · rw [if_pos hsupported, if_pos hsupported]
        exact ih _ _ _ _
      rw [if_neg hsupported, if_neg hsupported]
      have hstore : (d.withPending p).storeConfig configId (rest.take valueLen.toNat) =
          (d.storeConfig configId (rest.take valueLen.toNat)).map (·.withPending p) := by
        unfold Device.storeConfig
        rw [if_neg hstate, if_neg hstate]
        split
        · rfl
        · rw [Option.map_map]
          rfl
      rw [hstore]
      cases hd : d.storeConfig configId (rest.take valueLen.toNat) with
      | none => exact ih _ _ _ _
      | some d' =>
        have hframe : d.SameQueue d' := by
          obtain ⟨-,configs,-,rfl⟩ := Device.store_config_some hd
          exact ⟨rfl,rfl,rfl,rfl⟩
        rw [Option.map_some]
        obtain ⟨hloop,hrest⟩ := ih (rest.drop valueLen.toNat) d'
          (items ++ [configId,statusOk]) anyFailed
        exact ⟨hloop,hframe.trans hrest⟩

theorem core_set_config_blind :
    Scripted d p ((start d).handleCoreSetConfig request)
      ((start (d.withPending p)).handleCoreSetConfig request) := by
  unfold handleCoreSetConfig
  cases request.payload with
  | nil => exact scripted_fail _ _
  | cons count rest =>
    obtain ⟨hloop,hsame⟩ := core_set_configs_waiting (p := p) count.toNat rest d [] false
    dsimp only
    rw [start_device, start_device, hloop]
    exact scripted_respond _ _ _ _ hsame

theorem core_get_config_blind :
    Scripted d p ((start d).handleCoreGetConfig request)
      ((start (d.withPending p)).handleCoreGetConfig request) := by
  unfold handleCoreGetConfig
  cases request.payload with
  | nil => exact scripted_fail _ _
  | cons count rest => exact scripted_same _ _ _ _

theorem device_reset_blind (h : ¬ (request.payload = [coreDeviceResetConfigValid])) :
    Scripted d p ((start d).handleDeviceReset request)
      ((start (d.withPending p)).handleDeviceReset request) := by
  unfold handleDeviceReset
  refine ite_related Iff.rfl (fun _ => scripted_fail _ _) fun hlen => ?_
  refine ite_related Iff.rfl (fun _ => scripted_fail _ _) fun hvalue => ?_
  refine absurd ?_ h
  rcases List.length_eq_one_iff.mp (not_not.mp hlen) with ⟨value,hpayload⟩
  rw [hpayload] at hvalue ⊢
  exact congrArg (fun b => [b]) (not_not.mp hvalue)

theorem core_blind (h : ¬ (request.oid = coreDeviceReset ∧
    request.payload = [coreDeviceResetConfigValid] ∧
    d.profile.supportsCommand request.gid request.oid = true)) :
    Scripted d p ((start d).handleCore request)
      ((start (d.withPending p)).handleCore request) := by
  refine (core_dispatch d.profile request).related (x := start d) (y := start (d.withPending p))
    rfl rfl (scripted_fail _ _) ?_
  intro handler listed hs
  cases listed with
  | deviceReset opcode => exact device_reset_blind fun hvalue => h ⟨opcode,hvalue,hs⟩
  | deviceInfo => exact scripted_same _ _ _ _
  | getCaps =>
    exact ite_related Iff.rfl (fun _ => scripted_fail _ _) fun _ => scripted_same _ _ _ _
  | setConfig => exact core_set_config_blind
  | getConfig => exact core_get_config_blind
  | queryTimestamp =>
    unfold handleQueryUwbsTimestamp
    exact ite_related Iff.rfl (fun _ => scripted_fail _ _) fun _ =>
      ⟨.ok,_,[],_,rfl,rfl,⟨rfl,rfl,rfl,rfl⟩,rfl,Nat.zero_le _,List.forall_mem_nil _⟩

theorem qorvo_ext2_blind :
    Scripted d p ((start d).handleQorvoExt2 request)
      ((start (d.withPending p)).handleQorvoExt2 request) := by
  unfold handleQorvoExt2
  exact ite_related Iff.rfl (fun _ => scripted_same _ _ _ _) fun _ => scripted_fail _ _

theorem qorvo_mac_blind :
    Scripted d p ((start d).handleQorvoMac request)
      ((start (d.withPending p)).handleQorvoMac request) := by
  unfold handleQorvoMac
  refine ite_related Iff.rfl (fun _ => ?_) fun _ => ?_
  · refine ite_related Iff.rfl (fun _ => scripted_same _ _ _ _) fun _ => ?_
    dsimp only
    cases calibrationEntries (readU16Le request.payload 0).toNat (request.payload.drop 2) [] 0 with
    | none => exact scripted_same _ _ _ _
    | some result =>
      obtain ⟨entries,numReturned,rest⟩ := result
      cases rest with
      | nil => exact scripted_same _ _ _ _
      | cons => exact scripted_same _ _ _ _
  · exact ite_related Iff.rfl (fun _ => scripted_same _ _ _ _) fun _ => scripted_fail _ _

/-- A handler that answers for one session, or that none is found. -/
theorem scripted_found {sessionId : UInt32} {b b' : Rc × Exchange}
    {f f' : Fin maxSessions → Rc × Exchange} (hb : Scripted d p b b')
    (hf : ∀ i, d.findSession sessionId = some i → Scripted d p (f i) (f' i)) :
    Scripted d p (match (start d).device.findSession sessionId with | none => b | some i => f i)
      (match (start (d.withPending p)).device.findSession sessionId with
        | none => b' | some i => f' i) := by
  rw [start_device, start_device, find_session_waiting]
  cases h : d.findSession sessionId with
  | none => exact hb
  | some i => exact hf i h

theorem session_init_blind :
    Scripted d p ((start d).handleSessionInit request)
      ((start (d.withPending p)).handleSessionInit request) := by
  unfold handleSessionInit
  refine ite_related Iff.rfl (fun _ => scripted_fail _ _) fun _ => ?_
  dsimp only
  refine ite_related Iff.rfl (fun _ => scripted_fail _ _) fun _ => ?_
  rw [start_device, start_device, find_session_waiting]
  cases d.findSession (readU32Le request.payload 0) with
  | some i => exact scripted_emit _ _ _ _ (.rfl d) (session_status_announces _ _ _)
  | none =>
    unfold Device.allocSession
    rw [show (d.withPending p).freeSession = d.freeSession from rfl]
    cases d.freeSession with
    | none => exact scripted_fail _ _
    | some i => exact scripted_emit _ _ _ _ ⟨rfl,rfl,rfl,rfl⟩ (session_status_announces _ _ _)

theorem session_deinit_blind :
    Scripted d p ((start d).handleSessionDeinit request)
      ((start (d.withPending p)).handleSessionDeinit request) := by
  unfold handleSessionDeinit
  refine ite_related Iff.rfl (fun _ => scripted_fail _ _) fun _ => ?_
  refine scripted_found (scripted_fail _ _) fun i _ => ?_
  have hmoved : ∀ d : Device, (((start d).makeStatusResponse request statusOk).emitSessionStatusNtf
      (readU32Le request.payload 0) sessionStateDeinit).setSession i Session.zero =
      ({ start d with device := d.setSession i Session.zero }.respond request.gid request.oid
        [statusOk]).emit (sessionStatusNotification (readU32Le request.payload 0)
          sessionStateDeinit d.profile.sessionStatusReasonCode) := fun d =>
    emit_mapDevice (fun d => d.setSession i Session.zero)
      ((start d).makeStatusResponse request statusOk) _ rfl rfl fun _ => rfl
  dsimp only
  rw [hmoved, hmoved]
  exact scripted_emit _ _ _ _ ⟨rfl,rfl,rfl,rfl⟩ (session_status_announces _ _ _)

theorem update_multicast_list_blind :
    Scripted d p ((start d).handleSessionUpdateMulticastList request)
      ((start (d.withPending p)).handleSessionUpdateMulticastList request) := by
  unfold handleSessionUpdateMulticastList
  refine ite_related Iff.rfl (fun _ => scripted_fail _ _) fun _ => ?_
  refine scripted_found (scripted_fail _ _) fun i _ => ?_
  refine ite_related Iff.rfl (fun _ => scripted_fail _ _) fun _ => ?_
  exact scripted_respond _ _ _ _ ⟨rfl,rfl,rfl,rfl⟩

theorem data_transfer_phase_config_blind :
    Scripted d p ((start d).handleSessionDataTransferPhaseConfig request)
      ((start (d.withPending p)).handleSessionDataTransferPhaseConfig request) := by
  unfold handleSessionDataTransferPhaseConfig
  refine ite_related Iff.rfl (fun _ => scripted_fail _ _) fun _ => ?_
  refine scripted_found (scripted_fail _ _) fun i _ => ?_
  refine ite_related Iff.rfl (fun _ => scripted_fail _ _) fun _ => ?_
  exact scripted_respond _ _ _ _ ⟨rfl,rfl,rfl,rfl⟩

theorem update_dt_rounds_blind (useAnchorRounds : Bool) :
    Scripted d p ((start d).handleSessionUpdateDtRounds request useAnchorRounds)
      ((start (d.withPending p)).handleSessionUpdateDtRounds request useAnchorRounds) := by
  unfold handleSessionUpdateDtRounds
  refine ite_related Iff.rfl (fun _ => scripted_fail _ _) fun _ => ?_
  refine ite_related Iff.rfl (fun _ => scripted_fail _ _) fun _ => ?_
  refine scripted_found (scripted_fail _ _) fun i _ => ?_
  exact scripted_respond _ _ _ _ ⟨rfl,rfl,rfl,rfl⟩

theorem stored_waiting (d : Device) (i : Fin maxSessions) (configId : UInt8)
    (value : List UInt8) :
    (d.withPending p).stored i configId value = (d.stored i configId value).withPending p := by
  unfold Device.stored
  by_cases h : d.MovesStream i configId
  · rw [if_pos h, if_pos (show (d.withPending p).MovesStream i configId from h)]
    rfl
  · rw [if_neg h, if_neg (show ¬ (d.withPending p).MovesStream i configId from h)]
    rfl

theorem set_app_configs_waiting (count : ℕ) (rest : List UInt8) (d : Device)
    (i : Fin maxSessions) :
    Device.setAppConfigs count rest (d.withPending p) i =
      ((Device.setAppConfigs count rest d i).1,
        (Device.setAppConfigs count rest d i).2.withPending p) := by
  induction count generalizing rest d with
  | zero => rfl
  | succ count ih =>
    match rest with
    | [] => rfl
    | [_] => rfl
    | configId::valueLen::rest =>
      unfold Device.setAppConfigs
      by_cases hcut : rest.length < valueLen.toNat
      · rw [if_pos hcut, if_pos hcut]
      rw [if_neg hcut, if_neg hcut, Device.set_app_config_eq, Device.set_app_config_eq,
        show (d.withPending p).refusal i configId (rest.take valueLen.toNat) =
          d.refusal i configId (rest.take valueLen.toNat) from rfl]
      cases d.refusal i configId (rest.take valueLen.toNat) with
      | some status => rfl
      | none =>
        dsimp only
        rw [stored_waiting]
        by_cases hstrands : d.Strands i configId
        · rw [if_pos hstrands, if_pos (show (d.withPending p).Strands i configId from hstrands)]
        · rw [if_neg hstrands,
            if_neg (show ¬ (d.withPending p).Strands i configId from hstrands)]
          exact ih _ _

theorem set_app_config_blind :
    Scripted d p ((start d).handleSessionSetAppConfig request)
      ((start (d.withPending p)).handleSessionSetAppConfig request) := by
  unfold handleSessionSetAppConfig
  refine ite_related Iff.rfl (fun _ => scripted_fail _ _) fun _ => ?_
  refine scripted_found (scripted_fail _ _) fun i _ => ?_
  obtain ⟨hprofile,hs,hp,hq⟩ := reconfigured_frame (set_app_configs_steps
    (byteAt request.payload 4).toNat (request.payload.drop 5) d d i .same)
  dsimp only
  rw [start_device, start_device, set_app_configs_waiting]
  exact scripted_respond _ _ _ _ ⟨hp,hs,hprofile,hq⟩

theorem get_app_config_blind :
    Scripted d p ((start d).handleSessionGetAppConfig request)
      ((start (d.withPending p)).handleSessionGetAppConfig request) := by
  unfold handleSessionGetAppConfig
  refine ite_related Iff.rfl (fun _ => scripted_fail _ _) fun _ => ?_
  exact scripted_found (scripted_fail _ _) fun i _ => scripted_same _ _ _ _

theorem query_data_size_blind :
    Scripted d p ((start d).handleQueryDataSizeInRanging request)
      ((start (d.withPending p)).handleQueryDataSizeInRanging request) := by
  unfold handleQueryDataSizeInRanging
  refine ite_related Iff.rfl (fun _ => scripted_same _ _ _ _) fun _ => ?_
  exact scripted_found (scripted_same _ _ _ _) fun i _ => scripted_same _ _ _ _

theorem session_get_state_blind :
    Scripted d p ((start d).handleSessionGetState request)
      ((start (d.withPending p)).handleSessionGetState request) := by
  unfold handleSessionGetState
  refine ite_related Iff.rfl (fun _ => scripted_fail _ _) fun _ => ?_
  exact scripted_found (scripted_fail _ _) fun i _ => scripted_same _ _ _ _

theorem session_config_blind :
    Scripted d p ((start d).handleSessionConfig request)
      ((start (d.withPending p)).handleSessionConfig request) := by
  refine (config_dispatch d.profile request).related (x := start d) (y := start (d.withPending p))
    rfl rfl (scripted_fail _ _) ?_
  intro handler listed _
  cases listed with
  | init => exact session_init_blind
  | deinit => exact session_deinit_blind
  | setAppConfig => exact set_app_config_blind
  | getAppConfig => exact get_app_config_blind
  | getCount => exact scripted_same _ _ _ _
  | queryDataSize => exact query_data_size_blind
  | getState => exact session_get_state_blind
  | updateMulticastList => exact update_multicast_list_blind
  | updateAnchorRounds => exact update_dt_rounds_blind true
  | updateTagRounds => exact update_dt_rounds_blind false
  | dataTransferPhaseConfig => exact data_transfer_phase_config_blind

variable {i : Fin maxSessions}

theorem logical_link_create_blind :
    Scripted d p ((start d).handleLogicalLinkCreate request i)
      ((start (d.withPending p)).handleLogicalLinkCreate request i) := by
  unfold handleLogicalLinkCreate
  refine ite_related Iff.rfl (fun _ => scripted_fail _ _) fun _ => ?_
  dsimp only
  refine ite_related Iff.rfl (fun _ => scripted_same _ _ _ _) fun _ => ?_
  refine ite_related Iff.rfl (fun _ => scripted_same _ _ _ _) fun _ => ?_
  rw [start_device, start_device, Device.withPending_sessions]
  cases (d.sessions i).allocateLogicalLink (byteAt request.payload 4)
      (if request.payload.length ≥ 6 then byteAt request.payload 5 else 0)
      (if request.payload.length ≥ 7 then byteAt request.payload 6 else 1) with
  | none => exact scripted_same _ _ _ _
  | some link =>
    exact scripted_emit _ _ _ _ ⟨rfl,rfl,rfl,rfl⟩
      ⟨rfl,fun _ => show sessionLogicalLinkUwbsCreate ∈ _ by decide⟩

theorem logical_link_close_blind :
    Scripted d p ((start d).handleLogicalLinkClose request i)
      ((start (d.withPending p)).handleLogicalLinkClose request i) := by
  unfold handleLogicalLinkClose
  refine ite_related Iff.rfl (fun _ => scripted_fail _ _) fun _ => ?_
  dsimp only
  rw [start_device, start_device, Device.withPending_sessions]
  cases (d.sessions i).removeLogicalLink (byteAt request.payload 4) with
  | none => exact scripted_same _ _ _ _
  | some session =>
    exact scripted_emit _ _ _ _ ⟨rfl,rfl,rfl,rfl⟩
      ⟨rfl,fun _ => show sessionLogicalLinkUwbsClose ∈ _ by decide⟩

theorem logical_link_get_param_blind :
    Scripted d p ((start d).handleLogicalLinkGetParam request i)
      ((start (d.withPending p)).handleLogicalLinkGetParam request i) := by
  unfold handleLogicalLinkGetParam
  refine ite_related Iff.rfl (fun _ => scripted_fail _ _) fun _ => ?_
  dsimp only
  rw [start_device, start_device, Device.withPending_sessions]
  cases (d.sessions i).findLogicalLink (byteAt request.payload 4) with
  | none => exact scripted_same _ _ _ _
  | some link => exact scripted_same _ _ _ _

theorem enter_state_blind (nextState : UInt8) :
    Scripted d p (.ok,(start d).enterState request i nextState)
      (.ok,(start (d.withPending p)).enterState request i nextState) := by
  have hentered : (d.withPending p).entered request.oid i nextState =
      (d.entered request.oid i nextState).withPending p :=
    react_frame (d.setSession i (d.entering request.oid i nextState)) request.oid i p
  obtain ⟨hprofile,hs,hp,hq⟩ := entered_frame d request.oid i nextState
  rw [enter_state_eq, enter_state_eq, hentered]
  exact scripted_emit _ _ _ _ ⟨hp,hs,hprofile,hq⟩ (session_status_announces _ _ _)

theorem transition_blind :
    Scripted d p ((start d).handleTransition request i)
      ((start (d.withPending p)).handleTransition request i) := by
  unfold handleTransition
  rw [start_device, start_device, Device.withPending_profile, Device.withPending_sessions]
  cases d.profile.getSessionTransition request.oid with
  | none => exact scripted_fail _ _
  | some transition =>
    dsimp only
    refine ite_related Iff.rfl (fun _ => scripted_fail _ _) fun _ => ?_
    cases (if request.oid = sessionStart then validateSessionStart d.profile (d.sessions i)
      else .ok ()) with
    | ok => exact enter_state_blind _
    | error invalid =>
      refine ite_related Iff.rfl (fun _ => ?_) fun _ => scripted_fail _ _
      exact scripted_emit _ _ _ _ (.rfl d) (session_status_announces _ _ _)

theorem session_control_blind :
    Scripted d p ((start d).handleSessionControl request)
      ((start (d.withPending p)).handleSessionControl request) := by
  cases control_dispatch d.profile request (d.findSession (readU32Le request.payload 0)) with
  | refused _ _ _ fails =>
    rw [fails (start d) rfl rfl, fails (start (d.withPending p)) rfl rfl]
    exact scripted_fail _ _
  | handled handler i listed _ _ _ runs =>
    rw [runs (start d) rfl rfl, runs (start (d.withPending p)) rfl rfl]
    cases listed with
    | getRangingCount => exact scripted_same _ _ _ _
    | logicalLinkCreate => exact logical_link_create_blind
    | logicalLinkClose => exact logical_link_close_blind
    | logicalLinkGetParam => exact logical_link_get_param_blind
    | transition => exact transition_blind

/-- Every command but an accepted reset has a script. -/
theorem dispatch_command_blind
    (h : ¬ (request.gid = gidCore ∧ request.oid = coreDeviceReset ∧
      request.payload = [coreDeviceResetConfigValid] ∧
      d.profile.supportsCommand gidCore coreDeviceReset = true)) :
    Scripted d p ((start d).dispatchCommand request)
      ((start (d.withPending p)).dispatchCommand request) := by
  rcases group_dispatch request with ⟨handler,listed,runs⟩
  rw [runs, runs]
  cases listed with
  | core group =>
    refine core_blind ?_
    rintro ⟨hoid,hvalue,hs⟩
    rw [group, hoid] at hs
    exact h ⟨group,hoid,hvalue,hs⟩
  | sessionConfig => exact session_config_blind
  | sessionControl => exact session_control_blind
  | qorvoExt2 => exact qorvo_ext2_blind
  | qorvoMac => exact qorvo_mac_blind
  | unknown => exact scripted_fail _ _

end

end UciSim
