import UciSim.CommandEffects

/-!
# Session configuration is one change

Creation and removal of a session, its parameters, its multicast list, its round
lists and its data-transfer phase.
-/

set_option autoImplicit false

namespace UciSim

open Exchange

theorem store_config_eq {session session' : Session} {configId : UInt8} {value : List UInt8}
    (h : session.storeConfig configId value = some session') :
    session' = { session with configs := session'.configs } := by
  obtain ⟨-,configs,-,rfl⟩ := Session.store_config_some h
  rfl

theorem remove_multicast_entry_eq (session : Session) (shortAddress : UInt16)
    (subsessionId : UInt32) :
    ∃ status entries, session.removeMulticastEntry shortAddress subsessionId =
      (status,{ session with multicastEntries := entries }) := by
  unfold Session.removeMulticastEntry
  split
  · exact ⟨_,_,rfl⟩
  · exact ⟨_,session.multicastEntries,rfl⟩

theorem add_multicast_entry_eq (session : Session) (shortAddress : UInt16)
    (subsessionId : UInt32) (key : List UInt8) :
    ∃ status entries, session.addMulticastEntry shortAddress subsessionId key =
      (status,{ session with multicastEntries := entries }) := by
  unfold Session.addMulticastEntry
  split
  · exact ⟨_,session.multicastEntries,rfl⟩
  split
  · exact ⟨_,session.multicastEntries,rfl⟩
  split
  · exact ⟨_,_,rfl⟩
  · exact ⟨_,session.multicastEntries,rfl⟩

theorem update_multicast_list_eq (action : UInt8) (count : ℕ) (rest : List UInt8)
    (session : Session) (items : List UInt8) (overall : UInt8) :
    ∃ entries, (session.updateMulticastList action count rest items overall).2.2 =
      { session with multicastEntries := entries } := by
  induction count generalizing rest session items overall with
  | zero => exact ⟨session.multicastEntries,rfl⟩
  | succ count ih =>
    unfold Session.updateMulticastList
    split
    · exact ⟨session.multicastEntries,rfl⟩
    · dsimp only
      split
      · exact ⟨session.multicastEntries,rfl⟩
      · rename_i key tail _
        by_cases hr : action = multicastActionRemove
        · obtain ⟨status,entries,h⟩ := remove_multicast_entry_eq session
            (readU16Le rest 0) (readU32Le rest 2)
          rw [if_pos hr, h]
          exact ih _ _ _ _
        · obtain ⟨status,entries,h⟩ := add_multicast_entry_eq session
            (readU16Le rest 0) (readU32Le rest 2) key
          rw [if_neg hr, h]
          exact ih _ _ _ _

theorem update_multicast_list_answers (d : Device) (request : Packet) :
    Answers d request ((start d).handleSessionUpdateMulticastList request).2 := by
  unfold handleSessionUpdateMulticastList
  split
  · exact answers_fail d request _
  dsimp only
  split
  · exact answers_fail d request _
  rename_i i hfound
  obtain ⟨ha,-⟩ := Device.find_session_some hfound
  split
  · exact answers_fail d request _
  · obtain ⟨entries,h⟩ := update_multicast_list_eq (byteAt request.payload 5)
      (byteAt request.payload 4).toNat (request.payload.drop 6) (d.sessions i) [] statusOk
    refine answers_respond d _ request _ _ _ (.edited i _ ha ?_ ?_)
    · rw [show (start d).device = d from rfl, h]
      exact ⟨rfl,rfl,rfl,rfl,rfl,⟨rfl,rfl,rfl,rfl⟩,rfl,rfl,⟨rfl,rfl,rfl⟩⟩
    · rw [show (start d).device = d from rfl, h]

theorem data_transfer_phase_config_answers (d : Device) (request : Packet) :
    Answers d request ((start d).handleSessionDataTransferPhaseConfig request).2 := by
  unfold handleSessionDataTransferPhaseConfig
  split
  · exact answers_fail d request _
  split
  · exact answers_fail d request _
  rename_i i hfound
  obtain ⟨ha,-⟩ := Device.find_session_some hfound
  dsimp only
  split
  · exact answers_fail d request _
  · exact answers_respond d _ request _ _ _ (.edited i _ ha
      ⟨rfl,rfl,rfl,rfl,rfl,⟨rfl,rfl,rfl,rfl⟩,rfl,rfl,⟨rfl,rfl,rfl⟩⟩ rfl)

theorem update_dt_rounds_answers (d : Device) (request : Packet) (useAnchorRounds : Bool) :
    Answers d request ((start d).handleSessionUpdateDtRounds request useAnchorRounds).2 := by
  unfold handleSessionUpdateDtRounds
  split
  · exact answers_fail d request _
  dsimp only
  split
  · exact answers_fail d request _
  split
  · exact answers_fail d request _
  rename_i i hfound
  obtain ⟨ha,-⟩ := Device.find_session_some hfound
  refine answers_respond d _ request _ _ _ (.edited i _ ha ?_ ?_)
  · cases useAnchorRounds <;> exact ⟨rfl,rfl,rfl,rfl,rfl,⟨rfl,rfl,rfl,rfl⟩,rfl,rfl,⟨rfl,rfl,rfl⟩⟩
  · cases useAnchorRounds <;> rfl

theorem set_app_config_steps (d d' : Device) (i : Fin maxSessions) (configId : UInt8)
    (value : List UInt8) (h : Reconfigured i d d') :
    Reconfigured i d (d'.setAppConfig i configId value).2 := by
  unfold Device.setAppConfig
  dsimp only
  split
  · exact h
  rename_i hsupported
  have hs : d'.profile.supportsSessionAppConfig configId = true := by simpa using hsupported
  split
  · exact h
  rename_i hrefusal
  split
  · exact h
  rename_i session hstored
  have hstep := Reconfigured.stored d' configId value session h (by
    intro hv invalid hinvalid himmediate
    rw [if_pos hv, hinvalid] at hrefusal
    simp [himmediate] at hrefusal) hs hstored
  split
  · rename_i hactive
    have hmoved := Reconfigured.rescheduled _
      ((session.forgetProximity configId).getRangingIntervalMs
        (d'.setSession i (session.forgetProximity configId)).profile) hstep
      (by simpa using hactive.2.1) (by simpa using hactive.2.2)
    rw [Device.setSession_same] at hmoved
    split <;> rename_i hr <;> rw [hr] at hmoved <;> exact hmoved
  · exact hstep

theorem set_app_configs_steps (count : ℕ) (rest : List UInt8) (d d' : Device)
    (i : Fin maxSessions) (h : Reconfigured i d d') :
    Reconfigured i d (Device.setAppConfigs count rest d' i).2 := by
  induction count generalizing rest d' with
  | zero => exact h
  | succ count ih =>
    match rest with
    | [] => exact h
    | [_] => exact h
    | configId::valueLen::rest =>
      unfold Device.setAppConfigs
      split
      · exact h
      · have hstep := set_app_config_steps d d' i configId (rest.take valueLen.toNat) h
        split <;> rename_i hr <;> rw [hr] at hstep
        · exact hstep
        · exact ih _ _ hstep

theorem set_app_config_answers (d : Device) (request : Packet)
    (hgid : request.gid = gidSessionConfig) (hoid : request.oid = sessionSetAppConfig)
    (hs : d.profile.supportsCommand request.gid request.oid = true) :
    Answers d request ((start d).handleSessionSetAppConfig request).2 := by
  unfold handleSessionSetAppConfig
  split
  · exact answers_fail d request _
  rename_i hlen
  split
  · exact answers_fail d request _
  rename_i i hfound
  exact answers_respond d _ request _ _ _ (.configured i ⟨hgid,hoid⟩ hs (by omega) hfound
    (set_app_configs_steps _ _ d d i .same))

theorem get_app_config_answers (d : Device) (request : Packet) :
    Answers d request ((start d).handleSessionGetAppConfig request).2 := by
  unfold handleSessionGetAppConfig
  split
  · exact answers_fail d request _
  split
  · exact answers_fail d request _
  · exact answers_same d request _ _ _

theorem store_defaults_eq (session : Session) (defaults : List (UInt8 × List UInt8)) :
    session.storeDefaults defaults =
      { session with configs := (session.storeDefaults defaults).configs } := by
  induction defaults generalizing session with
  | nil => rfl
  | cons entry defaults ih =>
    have h : session.storeDefaults (entry::defaults) =
        ((session.storeConfig entry.1 entry.2).getD session).storeDefaults defaults := rfl
    rw [h, ih]
    cases hs : session.storeConfig entry.1 entry.2 with
    | none => rfl
    | some session' =>
      simp only [Option.getD_some]
      rw [store_config_eq hs]

theorem fresh_session_eq (d : Device) (i : Fin maxSessions) (sessionId : UInt32) :
    d.freshSession i sessionId = { d.sessions i with
      allocated := true
      sessionId := sessionId
      sessionType := d.profile.defaultSessionType
      state := d.profile.initialSessionState
      rangingCount := 0
      hasLastProximityState := false
      lastInProximityRange := false
      maxDataSize := d.profile.defaultSessionMaxDataSize
      configs := (d.freshSession i sessionId).configs } :=
  store_defaults_eq _ _

theorem alloc_session_some {d d' : Device} {sessionId : UInt32} {i : Fin maxSessions}
    (h : d.allocSession sessionId = some (i,d')) :
    d.freeSession = some i ∧ d' = d.setSession i (d.freshSession i sessionId) := by
  unfold Device.allocSession at h
  cases hf : d.freeSession with
  | none =>
    rw [hf] at h
    cases h
  | some j =>
    rw [hf] at h
    cases h
    exact ⟨rfl,rfl⟩

theorem session_init_answers (d : Device) (request : Packet) :
    Answers d request ((start d).handleSessionInit request).2 := by
  unfold handleSessionInit
  split
  · exact answers_fail d request _
  dsimp only
  split
  · exact answers_fail d request _
  split
  · exact answers_fail d request _
  rename_i i d' hfound
  rw [show (start d).device = d from rfl] at hfound
  cases hf : d.findSession (readU32Le request.payload 0) with
  | some j =>
    rw [hf] at hfound
    cases hfound
    exact answers_emit d d request _ _ _ _ (.reported _ i _ hf)
  | none =>
    rw [hf] at hfound
    obtain ⟨hfree,rfl⟩ := alloc_session_some hfound
    have hstate : ((d.setSession i
        (d.freshSession i (readU32Le request.payload 0))).sessions i).state =
        d.profile.initialSessionState := by
      rw [Device.setSession_same, fresh_session_eq]
    rw [hstate]
    exact answers_emit d _ request _ _ _ _ (.opened _ i _ hf hfree)

theorem session_deinit_answers (d : Device) (request : Packet)
    (hgid : request.gid = gidSessionConfig) (hoid : request.oid = sessionDeinit)
    (hs : d.profile.supportsCommand request.gid request.oid = true) :
    Answers d request ((start d).handleSessionDeinit request).2 := by
  unfold handleSessionDeinit
  split
  · exact answers_fail d request _
  rename_i hlen
  dsimp only
  split
  · exact answers_fail d request _
  rename_i i hfound
  refine ⟨⟨mtResponse,pbfComplete,request.gid,request.oid,[statusOk]⟩,_,_,?_,rfl,
    .closed i d.profile.sessionStatusReasonCode ⟨hgid,hoid⟩ hs (by omega) hfound⟩
  exact emit_mapDevice (fun d => d.setSession i Session.zero)
    ((start d).makeStatusResponse request statusOk)
    (sessionStatusNotification (readU32Le request.payload 0) sessionStateDeinit
      d.profile.sessionStatusReasonCode) rfl rfl (fun _ => rfl)

theorem query_data_size_answers (d : Device) (request : Packet) :
    Answers d request ((start d).handleQueryDataSizeInRanging request).2 := by
  unfold handleQueryDataSizeInRanging
  dsimp only
  split
  · exact answers_same d request _ _ _
  · split <;> exact answers_same d request _ _ _

theorem session_get_state_answers (d : Device) (request : Packet) :
    Answers d request ((start d).handleSessionGetState request).2 := by
  unfold handleSessionGetState
  split
  · exact answers_fail d request _
  · split
    · exact answers_fail d request _
    · exact answers_same d request _ _ _

theorem session_config_answers (d : Device) (request : Packet)
    (hgid : request.gid = gidSessionConfig) :
    Answers d request ((start d).handleSessionConfig request).2 := by
  refine (config_dispatch d.profile request).outcome (P := fun o => Answers d request o.2)
    (x := start d) rfl (answers_fail d request _) ?_
  intro handler listed hs
  cases listed with
  | init => exact session_init_answers d request
  | deinit opcode => exact session_deinit_answers d request hgid opcode hs
  | setAppConfig opcode => exact set_app_config_answers d request hgid opcode hs
  | getAppConfig => exact get_app_config_answers d request
  | getCount => exact answers_same d request _ _ _
  | queryDataSize => exact query_data_size_answers d request
  | getState => exact session_get_state_answers d request
  | updateMulticastList => exact update_multicast_list_answers d request
  | updateAnchorRounds => exact update_dt_rounds_answers d request true
  | updateTagRounds => exact update_dt_rounds_answers d request false
  | dataTransferPhaseConfig => exact data_transfer_phase_config_answers d request

end UciSim
