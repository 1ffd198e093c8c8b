import UciSim.AcceptedCommands

/-!
# Accepted session configuration

The commands of this group find their session first. A set request and an update of
the multicast list are accepted when each of their items is.
-/

set_option autoImplicit false

namespace UciSim

open Exchange

section

variable {d : Device} {request : Packet}

theorem targets_of {i : Fin maxSessions} {condition : Fin maxSessions → Prop}
    (hfound : d.findSession (readU32Le request.payload 0) = some i) :
    d.Targets request condition ↔ condition i := by
  constructor
  · rintro ⟨j,hj,hcondition⟩
    rw [hfound] at hj
    cases hj
    exact hcondition
  · exact fun hcondition => ⟨i,hfound,hcondition⟩

theorem targets_none {condition : Fin maxSessions → Prop}
    (hnone : d.findSession (readU32Le request.payload 0) = none) :
    ¬ d.Targets request condition := by
  rintro ⟨j,hj,-⟩
  rw [hnone] at hj
  cases hj

theorem session_init_verdict : ((start d).handleSessionInit request).1 = .ok ↔
    5 ≤ request.payload.length ∧ byteAt request.payload 4 = sessionTypeRanging ∧
      (d.findSession (readU32Le request.payload 0) = none → d.freeSession ≠ none) := by
  unfold handleSessionInit
  by_cases hlen : request.payload.length < 5
  · rw [if_pos hlen]
    exact iff_of_false err_ne_ok fun h => Nat.not_lt.mpr h.1 hlen
  rw [if_neg hlen]
  dsimp only
  by_cases htype : byteAt request.payload 4 = sessionTypeRanging
  swap
  · rw [if_pos htype]
    exact iff_of_false err_ne_ok fun h => htype h.2.1
  rw [if_neg (not_not.mpr htype), show (start d).device = d from rfl]
  cases hfound : d.findSession (readU32Le request.payload 0) with
  | some i => exact iff_of_true rfl ⟨Nat.le_of_not_lt hlen,htype,fun h => absurd h (by simp)⟩
  | none =>
    dsimp only
    unfold Device.allocSession
    cases hfree : d.freeSession with
    | none => exact iff_of_false err_ne_ok fun h => h.2.2 rfl rfl
    | some i =>
      exact iff_of_true rfl ⟨Nat.le_of_not_lt hlen,htype,fun _ => Option.some_ne_none i⟩

theorem session_deinit_verdict : ((start d).handleSessionDeinit request).1 = .ok ↔
    4 ≤ request.payload.length ∧ d.Targets request fun _ => True := by
  unfold handleSessionDeinit
  split
  · exact iff_of_false err_ne_ok fun h => Nat.not_lt.mpr h.1 ‹_›
  rw [and_iff_right (Nat.le_of_not_lt ‹_›)]
  dsimp only
  rw [show (start d).device = d from rfl]
  cases hfound : d.findSession (readU32Le request.payload 0) with
  | none => exact iff_of_false err_ne_ok (targets_none hfound)
  | some i => exact iff_of_true rfl ⟨i,hfound,trivial⟩

theorem set_app_config_verdict : ((start d).handleSessionSetAppConfig request).1 = .ok ↔
    5 ≤ request.payload.length ∧
      d.Targets request fun i => (request.setEnd d i).status = statusOk := by
  unfold handleSessionSetAppConfig
  split
  · exact iff_of_false err_ne_ok fun h => Nat.not_lt.mpr h.1 ‹_›
  rw [and_iff_right (Nat.le_of_not_lt ‹_›), show (start d).device = d from rfl]
  cases hfound : d.findSession (readU32Le request.payload 0) with
  | none => exact iff_of_false err_ne_ok (targets_none hfound)
  | some i =>
    rw [targets_of hfound, Packet.setEnd, Packet.declaredEntries, ← Device.set_app_configs_status]
    exact rc_of_ok _

theorem get_app_config_verdict (hgid : request.gid = gidSessionConfig) :
    ((start d).handleSessionGetAppConfig request).1 = .ok ↔ 5 ≤ request.payload.length ∧
      d.Targets request fun i => if byteAt request.payload 4 = 0 then
        listingSize ((d.sessions i).listing d.profile) ≤ maxPayload else d.AnswersIds request := by
  unfold handleSessionGetAppConfig
  split
  · exact iff_of_false err_ne_ok fun h => Nat.not_lt.mpr h.1 ‹_›
  rw [and_iff_right (Nat.le_of_not_lt ‹_›), show (start d).device = d from rfl]
  cases hfound : d.findSession (readU32Le request.payload 0) with
  | none => exact iff_of_false err_ne_ok (targets_none hfound)
  | some i =>
    rw [targets_of hfound]
    dsimp only
    rw [rc_of_ok]
    by_cases hcount : byteAt request.payload 4 = 0
    · rw [if_pos hcount, if_pos hcount]
      have houtcome := collect_supported_outcome (d.sessions i)
        d.profile.supportedSessionAppConfigIds [] 0
      unfold listingSize Session.listing
      constructor
      · intro hok
        by_contra hover
        rcases houtcome.2 (Nat.lt_of_not_le hover) (by decide) with ⟨shown,_,_,-,hcut,-⟩
        rw [hcut] at hok
        exact absurd (show statusInvalidParam = statusOk from hok) (by decide)
      · intro hfits
        rw [houtcome.1 hfits]
    · rw [if_neg hcount, if_neg hcount]
      have hcore : ¬ request.gid = gidCore := by
        rw [hgid]
        decide
      have hlookup : d.requestedConfig request = fun configId =>
          if d.profile.supportsSessionAppConfig configId then
            (d.sessions i).getConfig configId else none := by
        funext configId
        rw [Device.requestedConfig, if_neg hcore, hfound]
      unfold Device.AnswersIds Packet.carriedIds Packet.declaredIds
      rw [if_neg hcore, if_neg hcore, hlookup]
      exact collected_verdict _ _ _

theorem query_data_size_verdict : ((start d).handleQueryDataSizeInRanging request).1 = .ok ↔
    4 ≤ request.payload.length ∧ d.Targets request fun _ => True := by
  unfold handleQueryDataSizeInRanging
  dsimp only
  split
  · exact iff_of_false err_ne_ok fun h => Nat.not_lt.mpr h.1 ‹_›
  rw [and_iff_right (Nat.le_of_not_lt ‹_›), show (start d).device = d from rfl]
  cases hfound : d.findSession (readU32Le request.payload 0) with
  | none => exact iff_of_false err_ne_ok (targets_none hfound)
  | some i => exact iff_of_true rfl ⟨i,hfound,trivial⟩

theorem session_get_state_verdict : ((start d).handleSessionGetState request).1 = .ok ↔
    4 ≤ request.payload.length ∧ d.Targets request fun _ => True := by
  unfold handleSessionGetState
  split
  · exact iff_of_false err_ne_ok fun h => Nat.not_lt.mpr h.1 ‹_›
  rw [and_iff_right (Nat.le_of_not_lt ‹_›), show (start d).device = d from rfl]
  cases hfound : d.findSession (readU32Le request.payload 0) with
  | none => exact iff_of_false err_ne_ok (targets_none hfound)
  | some i => exact iff_of_true rfl ⟨i,hfound,trivial⟩

theorem update_multicast_list_verdict :
    ((start d).handleSessionUpdateMulticastList request).1 = .ok ↔
      6 ≤ request.payload.length ∧ d.Targets request fun i =>
        supportsMulticastAction (byteAt request.payload 5) = true ∧
        (d.sessions i).updatesEntries (byteAt request.payload 5)
          (byteAt request.payload 4).toNat 0 (request.payload.drop 6) = true := by
  unfold handleSessionUpdateMulticastList
  split
  · exact iff_of_false err_ne_ok fun h => Nat.not_lt.mpr h.1 ‹_›
  rw [and_iff_right (Nat.le_of_not_lt ‹_›)]
  dsimp only
  rw [show (start d).device = d from rfl]
  cases hfound : d.findSession (readU32Le request.payload 0) with
  | none => exact iff_of_false err_ne_ok (targets_none hfound)
  | some i =>
    rw [targets_of hfound]
    dsimp only
    by_cases haction : supportsMulticastAction (byteAt request.payload 5) = true
    swap
    · rw [if_pos (by simpa using haction)]
      exact iff_of_false err_ne_ok fun h => haction h.1
    rw [if_neg (by simp [haction]), and_iff_right haction]
    have hgranted := update_multicast_list_granted (byteAt request.payload 5)
      (byteAt request.payload 4).toNat (request.payload.drop 6) (d.sessions i) [] 0 rfl
    rw [Nat.zero_add] at hgranted
    rw [← hgranted.1, rc_of_ok]
    generalize (d.sessions i).updateMulticastList (byteAt request.payload 5)
      (byteAt request.payload 4).toNat (request.payload.drop 6) [] statusOk = outcome at hgranted ⊢
    by_cases hok : outcome.1 = statusOk
    · rw [if_neg fun h => h.1 (hgranted.2 hok)]
    · rw [if_neg fun h => hok h.2]

theorem update_dt_rounds_verdict (useAnchorRounds : Bool) :
    ((start d).handleSessionUpdateDtRounds request useAnchorRounds).1 = .ok ↔
      5+(byteAt request.payload 4).toNat ≤ request.payload.length ∧
        (byteAt request.payload 4).toNat ≤ maxDtRounds ∧ d.Targets request fun _ => True := by
  unfold handleSessionUpdateDtRounds
  split
  · exact iff_of_false err_ne_ok fun h => by omega
  dsimp only
  split
  · exact iff_of_false err_ne_ok fun h => by omega
  rw [and_iff_right (by omega), and_iff_right (by omega), show (start d).device = d from rfl]
  cases hfound : d.findSession (readU32Le request.payload 0) with
  | none => exact iff_of_false err_ne_ok (targets_none hfound)
  | some i => exact iff_of_true rfl ⟨i,hfound,trivial⟩

theorem data_transfer_phase_config_verdict :
    ((start d).handleSessionDataTransferPhaseConfig request).1 = .ok ↔
      7 ≤ request.payload.length ∧ (byteAt request.payload 6).toNat ≤ 64 ∧
        UInt8.ofNat (request.payload.length-7) = byteAt request.payload 6 ∧
        d.Targets request fun _ => True := by
  unfold handleSessionDataTransferPhaseConfig
  split
  · exact iff_of_false err_ne_ok fun h => Nat.not_lt.mpr h.1 ‹_›
  rw [and_iff_right (Nat.le_of_not_lt ‹_›), show (start d).device = d from rfl]
  cases hfound : d.findSession (readU32Le request.payload 0) with
  | none => exact iff_of_false err_ne_ok fun h => targets_none hfound h.2.2
  | some i =>
    dsimp only
    split
    · rename_i hbad
      exact iff_of_false err_ne_ok fun h =>
        hbad.elim (fun hlong => Nat.not_lt.mpr h.1 hlong) fun hne => hne h.2.1
    · rename_i hgood
      rw [not_or, not_not] at hgood
      exact iff_of_true rfl ⟨Nat.le_of_not_lt hgood.1,hgood.2,i,hfound,trivial⟩

theorem config_accepted_listed (h : d.AcceptsConfig request) :
    ∃ handler, ConfigCommand request.oid handler := by
  unfold Device.AcceptsConfig at h
  split at h
  · exact ⟨_,.init ‹_›⟩
  split at h
  · exact ⟨_,.deinit ‹_›⟩
  split at h
  · exact ⟨_,.setAppConfig ‹_›⟩
  split at h
  · exact ⟨_,.getAppConfig ‹_›⟩
  split at h
  · exact ⟨_,.getCount ‹_›⟩
  split at h
  · rename_i hoid
    rcases hoid with hoid | hoid
    · exact ⟨_,.queryDataSize hoid⟩
    · exact ⟨_,.getState hoid⟩
  split at h
  · exact ⟨_,.updateMulticastList ‹_›⟩
  split at h
  · rename_i hoid
    rcases hoid with hoid | hoid
    · exact ⟨_,.updateAnchorRounds hoid⟩
    · exact ⟨_,.updateTagRounds hoid⟩
  split at h
  · exact ⟨_,.dataTransferPhaseConfig ‹_›⟩
  · exact h.elim

theorem config_verdict (hgid : request.gid = gidSessionConfig) :
    ((start d).handleSessionConfig request).1 = .ok ↔
      d.profile.supportsCommand request.gid request.oid = true ∧ d.AcceptsConfig request := by
  cases config_dispatch d.profile request with
  | refused unlisted fails =>
    rw [fails (start d) rfl]
    refine iff_of_false err_ne_ok fun ⟨hs,haccepts⟩ => ?_
    rcases config_accepted_listed haccepts with ⟨handler,hlisted⟩
    exact absurd hs (by rw [unlisted handler hlisted]; decide)
  | handled handler listed supported runs =>
    rw [runs (start d) rfl, and_iff_right supported]
    unfold Device.AcceptsConfig
    cases listed with
    | init opcode =>
      rw [opcode]
      exact session_init_verdict
    | deinit opcode =>
      rw [opcode]
      exact session_deinit_verdict
    | setAppConfig opcode =>
      rw [opcode]
      exact set_app_config_verdict
    | getAppConfig opcode =>
      rw [opcode]
      exact get_app_config_verdict hgid
    | getCount opcode =>
      rw [opcode]
      exact iff_of_true rfl trivial
    | queryDataSize opcode =>
      rw [opcode]
      exact query_data_size_verdict
    | getState opcode =>
      rw [opcode]
      exact session_get_state_verdict
    | updateMulticastList opcode =>
      rw [opcode]
      exact update_multicast_list_verdict
    | updateAnchorRounds opcode =>
      rw [opcode]
      exact update_dt_rounds_verdict true
    | updateTagRounds opcode =>
      rw [opcode]
      exact update_dt_rounds_verdict false
    | dataTransferPhaseConfig opcode =>
      rw [opcode]
      exact data_transfer_phase_config_verdict

end

end UciSim
