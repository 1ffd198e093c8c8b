import UciSim.Checks
import UciSim.PacketEffects

/-!
# The reply to a command

A handler refuses before it writes, grants after it has written, or judges a
list of items. Only three commands judge items that have been applied already.
-/

set_option autoImplicit false

namespace UciSim

open Exchange

/-- The commands that apply several items one by one. -/
def Packet.Batches (request : Packet) : Prop :=
  (request.gid = gidCore ∧ request.oid = coreSetConfig) ∨
    (request.gid = gidSessionConfig ∧ (request.oid = sessionSetAppConfig ∨
      request.oid = sessionUpdateControllerMulticastList))

instance (request : Packet) : Decidable request.Batches := inferInstanceAs (Decidable (_ ∨ _))

/-- The statuses the profile itself chooses for a transition it does not admit. -/
def Profile.Chooses (profile : Profile) (status : UInt8) : Prop :=
  (∃ transition ∈ profile.sessionTransitions, status = transition.invalidStatus) ∨
    ∃ session invalid, validateSessionStart profile session = .error invalid ∧
      status = invalid.status

def Packet.IsGenericError (n : Packet) : Prop := n.gid = gidCore ∧ n.oid = coreGenericError

instance (n : Packet) : Decidable n.IsGenericError := inferInstanceAs (Decidable (_ ∧ _))

theorem session_status_other (sessionId : UInt32) (state reason : UInt8) :
    ¬ (sessionStatusNotification sessionId state reason).IsGenericError :=
  fun h => absurd (show gidSessionConfig = gidCore from h.1) (by decide)

theorem device_status_other (state : UInt8) :
    ¬ (deviceStatusNotification state).IsGenericError :=
  fun h => absurd (show coreDeviceStatusNtf = coreGenericError from h.2) (by decide)

theorem session_control_other (oid : UInt8) (payload : List UInt8) :
    ¬ (Packet.notification gidSessionControl oid payload).IsGenericError :=
  fun h => absurd (show gidSessionControl = gidCore from h.1) (by decide)

/-- The scenario stays and nothing new waits. -/
structure Device.KeepsMail (d d' : Device) : Prop where
  scenario : d'.scenario = d.scenario
  pending : d'.pendingNotifications ⊆ d.pendingNotifications

theorem Device.KeepsMail.same {d d' : Device} (hs : d'.scenario = d.scenario)
    (hp : d'.pendingNotifications = d.pendingNotifications) : d.KeepsMail d' :=
  ⟨hs,hp ▸ List.Subset.refl _⟩

inductive Replied (d : Device) (request : Packet) : Rc × Exchange → Prop where
  | refused (status : UInt8) (rest : List UInt8) (short : rest.length < maxPayload)
      (cause : status ≠ statusOk ∨ d.profile.Chooses status) :
      Replied d request (.err,(start d).respond request.gid request.oid (status::rest))
  | granted (rest : List UInt8) (d' : Device) (ns : List Packet)
      (short : rest.length < maxPayload) (keeps : d.KeepsMail d')
      (quiet : ∀ n ∈ ns, ¬ n.IsGenericError) :
      Replied d request (.ok,answered d'
        ⟨mtResponse,pbfComplete,request.gid,request.oid,statusOk::rest⟩ ns)
  | judged (status : UInt8) (rest : List UInt8) (d' : Device)
      (short : rest.length < maxPayload) (keeps : d.KeepsMail d')
      (atomic : d' = d ∨ request.Batches) :
      Replied d request (rcOf status,
        { start d with device := d' }.respond request.gid request.oid (status::rest))
  | capabilities (present : d.profile.coreCapsPayload.length ≠ 0) :
      Replied d request (.ok,(start d).respond request.gid request.oid d.profile.coreCapsPayload)

namespace Replied

variable {d : Device} {request : Packet}

theorem fail {status : UInt8} (h : status ≠ statusOk) :
    Replied d request ((start d).fail request status) :=
  .refused status [] (by decide) (Or.inl h)

theorem chosen {status : UInt8} (h : d.profile.Chooses status) :
    Replied d request ((start d).fail request status) :=
  .refused status [] (by decide) (Or.inr h)

theorem refuse {gid oid status : UInt8} {rest : List UInt8} (hgid : request.gid = gid)
    (hoid : request.oid = oid) (hs : status ≠ statusOk) (hlen : rest.length < maxPayload) :
    Replied d request (.err,(start d).respond gid oid (status::rest)) := by
  subst hgid hoid
  exact .refused status rest hlen (Or.inl hs)

theorem grant {gid oid : UInt8} {rest : List UInt8} (d' : Device) (hgid : request.gid = gid)
    (hoid : request.oid = oid) (hlen : rest.length < maxPayload)
    (hd : d.KeepsMail d') :
    Replied d request (.ok,{ start d with device := d' }.respond gid oid (statusOk::rest)) := by
  subst hgid hoid
  exact .granted rest d' [] hlen hd (by simp)

theorem announce {gid oid : UInt8} {rest : List UInt8} {n : Packet} (d' : Device)
    (hn : ¬ n.IsGenericError) (hgid : request.gid = gid) (hoid : request.oid = oid)
    (hlen : rest.length < maxPayload) (hd : d.KeepsMail d') :
    Replied d request
      (.ok,({ start d with device := d' }.respond gid oid (statusOk::rest)).emit n) := by
  subst hgid hoid
  exact .granted rest d' [n] hlen hd (by simpa using hn)

/-- The status and the number of the items stand before them. -/
theorem judge {gid status processed : UInt8} {items : List UInt8} (d' : Device)
    (hgid : request.gid = gid) (hlen : 2+items.length ≤ maxPayload)
    (hk : d.KeepsMail d') (hd : d' = d ∨ request.Batches) :
    Replied d request (rcOf status,
      { start d with device := d' }.respond gid request.oid ([status,processed] ++ items)) := by
  subst hgid
  refine .judged status (processed::items) d' ?_ hk hd
  rw [List.length_cons]
  omega

theorem congr {rc : Rc} {x y : Exchange} (h : x = y) (hy : Replied d request (rc,y)) :
    Replied d request (rc,x) := h ▸ hy

end Replied

theorem collect_configs_length (lookup : UInt8 → Option (List UInt8)) (remaining : ℕ)
    (rest items : List UInt8) (processed : ℕ) (h : 2+items.length ≤ maxPayload) :
    2+(collectConfigs lookup remaining rest items processed).2.1.length ≤ maxPayload := by
  induction remaining generalizing rest items processed with
  | zero => exact h
  | succ remaining ih =>
    cases rest with
    | nil => exact h
    | cons configId rest =>
      unfold collectConfigs
      split
      · exact h
      · split
        · exact h
        · rename_i hroom
          refine ih _ _ _ ?_
          simp only [List.length_append, List.length_cons, List.length_nil]
          omega

theorem collect_supported_length (session : Session) (ids items : List UInt8) (processed : ℕ)
    (h : 2+items.length ≤ maxPayload) :
    2+(collectSupported session ids items processed).2.1.length ≤ maxPayload := by
  induction ids generalizing items processed with
  | nil => exact h
  | cons configId ids ih =>
    unfold collectSupported
    split
    · exact ih _ _ h
    · split
      · exact h
      · rename_i hroom
        refine ih _ _ ?_
        simp only [List.length_append, List.length_cons, List.length_nil]
        omega

theorem core_set_configs_length (remaining : ℕ) (rest : List UInt8) (d : Device)
    (items : List UInt8) (anyFailed : Bool) (h : 2+items.length ≤ maxPayload) :
    2+(coreSetConfigs remaining rest d items anyFailed).2.1.length ≤ maxPayload := by
  induction remaining generalizing rest d items anyFailed with
  | zero => exact h
  | succ remaining ih =>
    match rest with
    | [] => exact h
    | [_] => exact h
    | configId::valueLen::rest =>
      unfold coreSetConfigs
      dsimp only
      split
      · exact h
      · rename_i hroom
        have hnext : ∀ b : UInt8, 2+(items ++ [configId,b]).length ≤ maxPayload := by
          intro b
          simp only [List.length_append, List.length_cons, List.length_nil]
          omega
        split
        · exact ih _ _ _ _ (hnext _)
        · split
          · exact ih _ _ _ _ (hnext _)
          · split
            · exact ih _ _ _ _ (hnext _)
            · exact ih _ _ _ _ (hnext _)

theorem calibration_entries_length (remaining : ℕ) (rest entries : List UInt8)
    (numReturned : ℕ) (h : 3+entries.length ≤ controlPayloadLimit)
    (found : List UInt8 × ℕ × List UInt8)
    (hf : calibrationEntries remaining rest entries numReturned = some found) :
    3+found.1.length ≤ controlPayloadLimit := by
  induction remaining generalizing rest entries numReturned with
  | zero =>
    cases hf
    exact h
  | succ remaining ih =>
    cases rest with
    | nil => cases hf
    | cons keyLen rest =>
      unfold calibrationEntries at hf
      split at hf
      · cases hf
      · rename_i hlen
        split at hf
        · exact ih _ _ _ h hf
        · rename_i hroom
          refine ih _ _ _ ?_ hf
          simp only [List.length_append, List.length_cons, List.length_nil, List.length_take]
          omega

theorem update_multicast_list_length (action : UInt8) (remaining : ℕ) (rest : List UInt8)
    (session : Session) (items : List UInt8) (overall : UInt8)
    (h : 2+items.length ≤ maxPayload) :
    2+(Session.updateMulticastList action remaining rest session items overall).2.1.length ≤
      maxPayload := by
  induction remaining generalizing rest session items overall with
  | zero => exact h
  | succ remaining ih =>
    unfold Session.updateMulticastList
    split
    · exact h
    · rename_i hroom
      dsimp only
      split
      · exact h
      · refine ih _ _ _ _ ?_
        simp only [List.length_append, List.length_cons, List.length_nil, writeU16Le,
          write_u32_le_length]
        omega

section Replies

variable (d : Device) (request : Packet)

theorem qorvo_ext2_replied (hgid : request.gid = gidQorvoExt2) :
    Replied d request ((start d).handleQorvoExt2 request) := by
  unfold handleQorvoExt2
  by_cases h : request.oid = oidQorvoCoreGetDeviceStats
  · rw [if_pos h]
    exact .grant d hgid h (show 2 < maxPayload by decide) (.same rfl rfl)
  · rw [if_neg h]
    exact .fail (by decide)

theorem qorvo_mac_replied (hgid : request.gid = gidQorvoMac) :
    Replied d request ((start d).handleQorvoMac request) := by
  unfold handleQorvoMac
  by_cases h : request.oid = oidQorvoMacGetCalibrations
  · rw [if_pos h]
    have hmalformed : Replied d request (.err,(start d).respond gidQorvoMac
        oidQorvoMacGetCalibrations [statusInvalidMsgSize,0x00,0x00]) :=
      .refuse hgid h (by decide) (by decide)
    dsimp only
    split
    · exact hmalformed
    · split
      · rename_i entries numReturned hentries
        have hlen := calibration_entries_length _ _ [] 0 (by decide) _ hentries
        refine .grant d hgid h ?_ (.same rfl rfl)
        simp only [List.append_eq, List.length_append, writeU16Le, List.length_cons,
          List.length_nil, controlPayloadLimit, maxPayload] at hlen ⊢
        omega
      · exact hmalformed
  · rw [if_neg h]
    split
    · exact .grant d rfl rfl (by decide) (.same rfl rfl)
    · exact .fail (by decide)

theorem core_set_config_replied (hgid : request.gid = gidCore)
    (hoid : request.oid = coreSetConfig) :
    Replied d request ((start d).handleCoreSetConfig request) := by
  unfold handleCoreSetConfig
  split
  · exact .fail (by decide)
  · rename_i count rest _
    have hsame := core_set_configs_same_control count.toNat rest d [] false
    exact .judge _ hgid (core_set_configs_length _ _ d [] false (by decide))
      (.same hsame.scenario hsame.pending) (Or.inr (Or.inl ⟨hgid,hoid⟩))

theorem core_get_config_replied (hgid : request.gid = gidCore) :
    Replied d request ((start d).handleCoreGetConfig request) := by
  unfold handleCoreGetConfig
  split
  · exact .fail (by decide)
  · exact .judge d hgid (collect_configs_length _ _ _ [] 0 (by decide)) (.same rfl rfl) (Or.inl rfl)

theorem device_reset_replied :
    Replied d request ((start d).handleDeviceReset request) := by
  unfold handleDeviceReset
  split
  · exact .fail (by decide)
  · split
    · exact .fail (by decide)
    · exact .announce d.resetRuntimeState (device_status_other _) rfl rfl (by decide)
        ⟨rfl,List.nil_subset _⟩

theorem device_info_replied (hgid : request.gid = gidCore) (hoid : request.oid = coreDeviceInfo) :
    Replied d request (start d).handleDeviceInfo := by
  unfold handleDeviceInfo
  refine .grant d hgid hoid ?_ (.same rfl rfl)
  simp only [List.length_append, List.length_cons, List.length_nil, List.length_take, writeU16Le,
    controlPayloadLimit, deviceInfoFixedLen, maxPayload]
  omega

theorem query_uwbs_timestamp_replied (hgid : request.gid = gidCore)
    (hoid : request.oid = coreQueryUwbsTimestamp) :
    Replied d request ((start d).handleQueryUwbsTimestamp request) := by
  unfold handleQueryUwbsTimestamp
  split
  · exact .fail (by decide)
  · exact .grant _ hgid hoid (show 8 < maxPayload by decide) (.same rfl rfl)

theorem core_replied (hgid : request.gid = gidCore) :
    Replied d request ((start d).handleCore request) := by
  refine (core_dispatch d.profile request).outcome (x := start d) rfl (.fail (by decide)) ?_
  intro handler listed _
  cases listed with
  | deviceReset => exact device_reset_replied d request
  | deviceInfo opcode => exact device_info_replied d request hgid opcode
  | getCaps opcode =>
    dsimp only
    split
    · exact .fail (by decide)
    · rename_i hpresent
      rw [show gidCore = request.gid from hgid.symm, ← opcode]
      exact .capabilities hpresent
  | setConfig opcode => exact core_set_config_replied d request hgid opcode
  | getConfig => exact core_get_config_replied d request hgid
  | queryTimestamp opcode => exact query_uwbs_timestamp_replied d request hgid opcode

theorem session_init_replied (hgid : request.gid = gidSessionConfig)
    (hoid : request.oid = sessionInit) :
    Replied d request ((start d).handleSessionInit request) := by
  unfold handleSessionInit
  split
  · exact .fail (by decide)
  dsimp only
  split
  · exact .fail (by decide)
  split
  · exact .fail (by decide)
  · rename_i i device hfound
    refine .announce device (session_status_other _ _ _) hgid hoid
      (show 4 < maxPayload by decide) ?_
    split at hfound
    · cases hfound
      exact .same rfl rfl
    · obtain ⟨-,rfl⟩ := alloc_session_some hfound
      exact .same rfl rfl

theorem session_deinit_replied :
    Replied d request ((start d).handleSessionDeinit request) := by
  unfold handleSessionDeinit
  split
  · exact .fail (by decide)
  dsimp only
  split
  · exact .fail (by decide)
  · refine .congr (emit_mapDevice (fun d => d.setSession _ Session.zero)
      ((start d).makeStatusResponse request statusOk) _ rfl rfl (fun _ => rfl)) ?_
    exact .announce (d.setSession _ Session.zero) (session_status_other _ _ _) rfl rfl (by decide)
      (.same rfl rfl)

theorem query_data_size_replied (hgid : request.gid = gidSessionConfig)
    (hoid : request.oid = sessionQueryDataSizeInRanging) :
    Replied d request ((start d).handleQueryDataSizeInRanging request) := by
  unfold handleQueryDataSizeInRanging
  dsimp only
  split
  · exact .refuse hgid hoid (by decide) (by decide)
  split
  · exact .refuse hgid hoid (by decide) (by decide)
  · exact .grant d hgid hoid (show 2 < maxPayload by decide) (.same rfl rfl)

theorem session_get_state_replied (hgid : request.gid = gidSessionConfig)
    (hoid : request.oid = sessionGetState) :
    Replied d request ((start d).handleSessionGetState request) := by
  unfold handleSessionGetState
  split
  · exact .fail (by decide)
  split
  · exact .fail (by decide)
  · exact .grant d hgid hoid (show 1 < maxPayload by decide) (.same rfl rfl)

theorem update_multicast_list_replied (hgid : request.gid = gidSessionConfig)
    (hoid : request.oid = sessionUpdateControllerMulticastList) :
    Replied d request ((start d).handleSessionUpdateMulticastList request) := by
  unfold handleSessionUpdateMulticastList
  split
  · exact .fail (by decide)
  dsimp only
  split
  · exact .fail (by decide)
  split
  · exact .fail (by decide)
  · rw [← hoid]
    exact .judge (d.setSession _ _) hgid
      (update_multicast_list_length _ _ _ _ [] statusOk (by decide)) (.same rfl rfl)
      (Or.inr (Or.inr ⟨hgid,Or.inr hoid⟩))

theorem data_transfer_phase_config_replied :
    Replied d request ((start d).handleSessionDataTransferPhaseConfig request) := by
  unfold handleSessionDataTransferPhaseConfig
  split
  · exact .fail (by decide)
  split
  · exact .fail (by decide)
  dsimp only
  split
  · exact .fail (by decide)
  · exact .grant (d.setSession _ _) rfl rfl (by decide) (.same rfl rfl)

theorem update_dt_rounds_replied (useAnchorRounds : Bool)
    (hgid : request.gid = gidSessionConfig) :
    Replied d request ((start d).handleSessionUpdateDtRounds request useAnchorRounds) := by
  unfold handleSessionUpdateDtRounds
  split
  · exact .fail (by decide)
  dsimp only
  split
  · exact .fail (by decide)
  rename_i hrounds
  split
  · exact .fail (by decide)
  · refine .grant (d.setSession _ _) hgid rfl ?_ (.same rfl rfl)
    simp only [List.append_eq, List.length_append, List.length_cons, List.length_nil,
      List.length_take, maxPayload, maxDtRounds] at hrounds ⊢
    omega

theorem set_app_config_replied (hgid : request.gid = gidSessionConfig)
    (hoid : request.oid = sessionSetAppConfig) :
    Replied d request ((start d).handleSessionSetAppConfig request) := by
  unfold handleSessionSetAppConfig
  split
  · exact .fail (by decide)
  split
  · exact .fail (by decide)
  · rw [← hgid]
    obtain ⟨-,hscenario,hpending,-⟩ := reconfigured_frame (set_app_configs_steps
      (byteAt request.payload 4).toNat (request.payload.drop 5) d d _ .same)
    exact .judged _ [0] _ (by decide) (.same hscenario hpending)
      (Or.inr (Or.inr ⟨hgid,Or.inl hoid⟩))

theorem get_app_config_replied (hgid : request.gid = gidSessionConfig) :
    Replied d request ((start d).handleSessionGetAppConfig request) := by
  unfold handleSessionGetAppConfig
  split
  · exact .fail (by decide)
  split
  · exact .fail (by decide)
  dsimp only
  by_cases hcount : byteAt request.payload 4 = 0
  · rw [if_pos hcount]
    exact .judge d hgid (collect_supported_length _ _ [] 0 (by decide)) (.same rfl rfl) (Or.inl rfl)
  · rw [if_neg hcount]
    exact .judge d hgid (collect_configs_length _ _ _ [] 0 (by decide)) (.same rfl rfl) (Or.inl rfl)

theorem session_config_replied (hgid : request.gid = gidSessionConfig) :
    Replied d request ((start d).handleSessionConfig request) := by
  refine (config_dispatch d.profile request).outcome (x := start d) rfl (.fail (by decide)) ?_
  intro handler listed _
  cases listed with
  | init opcode => exact session_init_replied d request hgid opcode
  | deinit => exact session_deinit_replied d request
  | setAppConfig opcode => exact set_app_config_replied d request hgid opcode
  | getAppConfig => exact get_app_config_replied d request hgid
  | getCount opcode =>
    exact .grant d hgid opcode (show 1 < maxPayload by decide) (.same rfl rfl)
  | queryDataSize opcode => exact query_data_size_replied d request hgid opcode
  | getState opcode => exact session_get_state_replied d request hgid opcode
  | updateMulticastList opcode => exact update_multicast_list_replied d request hgid opcode
  | updateAnchorRounds => exact update_dt_rounds_replied d request true hgid
  | updateTagRounds => exact update_dt_rounds_replied d request false hgid
  | dataTransferPhaseConfig => exact data_transfer_phase_config_replied d request

theorem logical_link_create_replied (i : Fin maxSessions) (hgid : request.gid = gidSessionControl)
    (hoid : request.oid = sessionLogicalLinkCreate) :
    Replied d request ((start d).handleLogicalLinkCreate request i) := by
  unfold handleLogicalLinkCreate
  split
  · exact .fail (by decide)
  dsimp only
  split
  · exact .refuse hgid hoid (by decide) (by decide)
  split
  · exact .refuse hgid hoid (by decide) (by decide)
  split
  · exact .refuse hgid hoid (by decide) (by decide)
  · exact .announce (d.setSession i _) (session_control_other _ _) hgid hoid
      (show 2 < maxPayload by decide) (.same rfl rfl)

theorem logical_link_close_replied (i : Fin maxSessions) (hgid : request.gid = gidSessionControl)
    (hoid : request.oid = sessionLogicalLinkClose) :
    Replied d request ((start d).handleLogicalLinkClose request i) := by
  unfold handleLogicalLinkClose
  split
  · exact .fail (by decide)
  dsimp only
  split
  · exact .refuse hgid hoid (by decide) (show 1 < maxPayload by decide)
  · exact .announce (d.setSession i _) (session_control_other _ _) hgid hoid
      (show 1 < maxPayload by decide) (.same rfl rfl)

theorem logical_link_get_param_replied (i : Fin maxSessions)
    (hgid : request.gid = gidSessionControl) (hoid : request.oid = sessionLogicalLinkGetParam) :
    Replied d request ((start d).handleLogicalLinkGetParam request i) := by
  unfold handleLogicalLinkGetParam
  split
  · exact .fail (by decide)
  dsimp only
  split
  · exact .refuse hgid hoid (by decide) (show 3 < maxPayload by decide)
  · exact .grant d hgid hoid (show 3 < maxPayload by decide) (.same rfl rfl)

theorem transition_replied (i : Fin maxSessions) :
    Replied d request ((start d).handleTransition request i) := by
  unfold handleTransition
  split
  · exact .fail (by decide)
  rename_i transition hlisted
  dsimp only
  split
  · exact .chosen (Or.inl ⟨transition,List.mem_of_find?_eq_some hlisted,rfl⟩)
  split
  · rename_i invalid hverdict
    split
    · exact .announce d (session_status_other _ _ _) rfl rfl (by decide) (.same rfl rfl)
    · split at hverdict
      · exact .chosen (Or.inr ⟨_,invalid,hverdict,rfl⟩)
      · cases hverdict
  · refine .congr (emit_mapDevice (fun d => d.reactToTransition request.oid i)
      (((start d).setSession i (d.entering request.oid i transition.nextState)).makeStatusResponse
        request statusOk) _ (react_scenario _ _ _) (react_pending _ _ _) (react_frame _ _ _)) ?_
    obtain ⟨-,hscenario,hpending,-⟩ := entered_frame d request.oid i transition.nextState
    exact .announce (d.entered request.oid i transition.nextState) (session_status_other _ _ _)
      rfl rfl (by decide) (.same hscenario hpending)

theorem session_control_replied (hgid : request.gid = gidSessionControl) :
    Replied d request ((start d).handleSessionControl request) := by
  cases control_dispatch d.profile request (d.findSession (readU32Le request.payload 0)) with
  | refused _ failed _ fails =>
    rw [fails (start d) rfl rfl]
    exact .fail failed
  | handled handler i listed _ _ _ runs =>
    rw [runs (start d) rfl rfl]
    cases listed with
    | getRangingCount opcode =>
      exact .grant d hgid opcode (show 4 < maxPayload by decide) (.same rfl rfl)
    | logicalLinkCreate opcode => exact logical_link_create_replied d request i hgid opcode
    | logicalLinkClose opcode => exact logical_link_close_replied d request i hgid opcode
    | logicalLinkGetParam opcode => exact logical_link_get_param_replied d request i hgid opcode
    | transition => exact transition_replied d request i

theorem dispatch_command_replied : Replied d request ((start d).dispatchCommand request) := by
  rcases group_dispatch request with ⟨handler,listed,runs⟩
  rw [runs]
  cases listed with
  | core group => exact core_replied d request group
  | sessionConfig group => exact session_config_replied d request group
  | sessionControl group => exact session_control_replied d request group
  | qorvoExt2 group => exact qorvo_ext2_replied d request group
  | qorvoMac group => exact qorvo_mac_replied d request group
  | unknown => exact .fail (by decide)

end Replies

end UciSim
