import UciSim.AppConfigEntries
import UciSim.PacketScripts

/-!
# Commands do not read the scenario

Outside the ranging stream a device and its twin in another scenario do the same with
a packet: one code, one response, the same notifications posted, and the same changes.
The scenarios differ only in when what is posted is handed over.
-/

set_option autoImplicit false

namespace UciSim

open Exchange

def Device.inScenario (d : Device) (s : Scenario) : Device := { d with scenario := s }

section

variable {d : Device} {s : Scenario}

@[simp] theorem Device.inScenario_profile : (d.inScenario s).profile = d.profile := rfl

@[simp] theorem Device.inScenario_sessions : (d.inScenario s).sessions = d.sessions := rfl

theorem find_session_twin (sessionId : UInt32) :
    (d.inScenario s).findSession sessionId = d.findSession sessionId := rfl

/-- One outcome of a command for a device and for its twin in the scenario `s`. -/
def Twins (s : Scenario) (o o' : Rc × Exchange) : Prop :=
  ∃ rc response ns d', o = (rc,answered d' response ns) ∧
    o' = (rc,answered (d'.inScenario s) response ns) ∧ ns.length ≤ 1

/-- A handler that changes the device and responds. -/
theorem twins_respond (d' : Device) (rc : Rc) (gid oid : UInt8) (payload : List UInt8) :
    Twins s (rc,(start d').respond gid oid payload)
      (rc,(start (d'.inScenario s)).respond gid oid payload) :=
  ⟨rc,_,[],d',rfl,rfl,Nat.zero_le 1⟩

theorem twins_same (rc : Rc) (gid oid : UInt8) (payload : List UInt8) :
    Twins s (rc,(start d).respond gid oid payload)
      (rc,(start (d.inScenario s)).respond gid oid payload) := twins_respond d rc gid oid payload

theorem twins_fail (request : Packet) (status : UInt8) :
    Twins s ((start d).fail request status) ((start (d.inScenario s)).fail request status) :=
  twins_same .err request.gid request.oid [status]

/-- A handler that also emits one notification. -/
theorem twins_emit (d' : Device) (rc : Rc) (gid oid : UInt8) (payload : List UInt8)
    (n : Packet) :
    Twins s (rc,((start d').respond gid oid payload).emit n)
      (rc,((start (d'.inScenario s)).respond gid oid payload).emit n) :=
  ⟨rc,_,[n],d',rfl,rfl,Nat.le_refl 1⟩

/-- A handler that answers for one session, or that none is found. -/
theorem twins_found {sessionId : UInt32} {b b' : Rc × Exchange}
    {f f' : Fin maxSessions → Rc × Exchange} (hb : Twins s b b') (hf : ∀ i, Twins s (f i) (f' i)) :
    Twins s (match (start d).device.findSession sessionId with | none => b | some i => f i)
      (match (start (d.inScenario s)).device.findSession sessionId with
        | none => b' | some i => f' i) := by
  rw [start_device, start_device, find_session_twin]
  cases d.findSession sessionId with
  | none => exact hb
  | some i => exact hf i

variable {request : Packet}

theorem store_config_twin (configId : UInt8) (value : List UInt8) :
    (d.inScenario s).storeConfig configId value =
      (d.storeConfig configId value).map fun d => d.inScenario s := by
  unfold Device.storeConfig
  split
  · rfl
  split
  · rfl
  · rw [Option.map_map]
    rfl

theorem core_set_configs_twin (count : ℕ) (rest : List UInt8) (d : Device)
    (items : List UInt8) (anyFailed : Bool) :
    coreSetConfigs count rest (d.inScenario s) items anyFailed =
      ((coreSetConfigs count rest d items anyFailed).1.inScenario s,
        (coreSetConfigs count rest d items anyFailed).2) := by
  induction count generalizing rest d items anyFailed with
  | zero => rfl
  | succ count ih =>
    cases rest with
    | nil => rfl
    | cons configId rest =>
      cases rest with
      | nil => rfl
      | cons valueLen rest =>
        unfold coreSetConfigs
        dsimp only
        rw [store_config_twin, Device.inScenario_profile]
        split
        · rfl
        split
        · exact ih _ _ _ _
        split
        · exact ih _ _ _ _
        cases d.storeConfig configId (rest.take valueLen.toNat) with
        | none => exact ih _ _ _ _
        | some d' => exact ih _ _ _ _

theorem core_set_config_twins : Twins s ((start d).handleCoreSetConfig request)
    ((start (d.inScenario s)).handleCoreSetConfig request) := by
  unfold handleCoreSetConfig
  cases request.payload with
  | nil => exact twins_fail _ _
  | cons count rest =>
    dsimp only
    rw [start_device, start_device, core_set_configs_twin]
    exact twins_respond _ _ _ _ _

theorem core_twins :
    Twins s ((start d).handleCore request) ((start (d.inScenario s)).handleCore request) := by
  refine (core_dispatch d.profile request).related (x := start d) (y := start (d.inScenario s))
    rfl rfl (twins_fail _ _) ?_
  intro handler listed _
  cases listed with
  | deviceReset =>
    unfold handleDeviceReset
    refine ite_related Iff.rfl (fun _ => twins_fail _ _) fun _ => ?_
    refine ite_related Iff.rfl (fun _ => twins_fail _ _) fun _ => ?_
    exact twins_emit d.resetRuntimeState _ _ _ _ _
  | deviceInfo => exact twins_same _ _ _ _
  | getCaps => exact ite_related Iff.rfl (fun _ => twins_fail _ _) fun _ => twins_same _ _ _ _
  | setConfig => exact core_set_config_twins
  | getConfig =>
    unfold handleCoreGetConfig
    cases request.payload with
    | nil => exact twins_fail _ _
    | cons count rest => exact twins_same _ _ _ _
  | queryTimestamp =>
    unfold handleQueryUwbsTimestamp
    exact ite_related Iff.rfl (fun _ => twins_fail _ _) fun _ =>
      ⟨.ok,_,[],_,rfl,rfl,Nat.zero_le 1⟩

theorem qorvo_ext2_twins : Twins s ((start d).handleQorvoExt2 request)
    ((start (d.inScenario s)).handleQorvoExt2 request) := by
  unfold handleQorvoExt2
  exact ite_related Iff.rfl (fun _ => twins_same _ _ _ _) fun _ => twins_fail _ _

theorem qorvo_mac_twins : Twins s ((start d).handleQorvoMac request)
    ((start (d.inScenario s)).handleQorvoMac request) := by
  unfold handleQorvoMac
  refine ite_related Iff.rfl (fun _ => ?_) fun _ => ?_
  · refine ite_related Iff.rfl (fun _ => twins_same _ _ _ _) fun _ => ?_
    dsimp only
    split
    · exact twins_same _ _ _ _
    · exact twins_same _ _ _ _
  · exact ite_related Iff.rfl (fun _ => twins_same _ _ _ _) fun _ => twins_fail _ _

theorem session_init_twins : Twins s ((start d).handleSessionInit request)
    ((start (d.inScenario s)).handleSessionInit request) := by
  unfold handleSessionInit
  refine ite_related Iff.rfl (fun _ => twins_fail _ _) fun _ => ?_
  dsimp only
  refine ite_related Iff.rfl (fun _ => twins_fail _ _) fun _ => ?_
  rw [start_device, start_device, find_session_twin]
  cases d.findSession (readU32Le request.payload 0) with
  | some i => exact twins_emit d _ _ _ _ _
  | none =>
    unfold Device.allocSession
    rw [show (d.inScenario s).freeSession = d.freeSession from rfl]
    cases d.freeSession with
    | none => exact twins_fail _ _
    | some i => exact twins_emit (d.setSession i _) _ _ _ _ _

theorem session_deinit_twins : Twins s ((start d).handleSessionDeinit request)
    ((start (d.inScenario s)).handleSessionDeinit request) := by
  unfold handleSessionDeinit
  refine ite_related Iff.rfl (fun _ => twins_fail _ _) fun _ => ?_
  refine twins_found (twins_fail _ _) fun i => ?_
  have hmoved : ∀ d : Device, (((start d).makeStatusResponse request statusOk).emitSessionStatusNtf
      (readU32Le request.payload 0) sessionStateDeinit).setSession i Session.zero =
      ({ start d with device := d.setSession i Session.zero }.respond request.gid request.oid
        [statusOk]).emit (sessionStatusNotification (readU32Le request.payload 0)
          sessionStateDeinit d.profile.sessionStatusReasonCode) := fun d =>
    emit_mapDevice (fun d => d.setSession i Session.zero)
      ((start d).makeStatusResponse request statusOk) _ rfl rfl fun _ => rfl
  dsimp only
  rw [hmoved, hmoved]
  exact twins_emit (d.setSession i Session.zero) _ _ _ _ _

theorem stored_twin (i : Fin maxSessions) (configId : UInt8) (value : List UInt8) :
    (d.inScenario s).stored i configId value = (d.stored i configId value).inScenario s := by
  unfold Device.stored
  by_cases h : d.MovesStream i configId
  · rw [if_pos h, if_pos (show (d.inScenario s).MovesStream i configId from h)]
    rfl
  · rw [if_neg h, if_neg (show ¬ (d.inScenario s).MovesStream i configId from h)]
    rfl

theorem set_app_configs_twin (count : ℕ) (rest : List UInt8) (d : Device)
    (i : Fin maxSessions) :
    Device.setAppConfigs count rest (d.inScenario s) i =
      ((Device.setAppConfigs count rest d i).1,
        (Device.setAppConfigs count rest d i).2.inScenario s) := by
  induction count generalizing rest d with
  | zero => rfl
  | succ count ih =>
    cases rest with
    | nil => rfl
    | cons configId rest =>
      cases rest with
      | nil => rfl
      | cons valueLen rest =>
        unfold Device.setAppConfigs
        by_cases hcut : rest.length < valueLen.toNat
        · rw [if_pos hcut, if_pos hcut]
        rw [if_neg hcut, if_neg hcut, Device.set_app_config_eq, Device.set_app_config_eq,
          show (d.inScenario s).refusal i configId (rest.take valueLen.toNat) =
            d.refusal i configId (rest.take valueLen.toNat) from rfl]
        cases d.refusal i configId (rest.take valueLen.toNat) with
        | some status => rfl
        | none =>
          dsimp only
          rw [stored_twin]
          by_cases hstrands : d.Strands i configId
          · rw [if_pos hstrands,
              if_pos (show (d.inScenario s).Strands i configId from hstrands)]
          · rw [if_neg hstrands,
              if_neg (show ¬ (d.inScenario s).Strands i configId from hstrands)]
            exact ih _ _

theorem session_edit_twins (d : Device) (s : Scenario) (request : Packet) :
    Twins s ((start d).handleSessionUpdateMulticastList request)
      ((start (d.inScenario s)).handleSessionUpdateMulticastList request) ∧
    Twins s ((start d).handleSessionDataTransferPhaseConfig request)
      ((start (d.inScenario s)).handleSessionDataTransferPhaseConfig request) ∧
    ∀ useAnchorRounds, Twins s ((start d).handleSessionUpdateDtRounds request useAnchorRounds)
      ((start (d.inScenario s)).handleSessionUpdateDtRounds request useAnchorRounds) := by
  refine ⟨?_,?_,fun useAnchorRounds => ?_⟩
  · unfold handleSessionUpdateMulticastList
    refine ite_related Iff.rfl (fun _ => twins_fail _ _) fun _ => ?_
    refine twins_found (twins_fail _ _) fun i => ?_
    refine ite_related Iff.rfl (fun _ => twins_fail _ _) fun _ => ?_
    exact twins_respond (d.setSession i _) _ _ _ _
  · unfold handleSessionDataTransferPhaseConfig
    refine ite_related Iff.rfl (fun _ => twins_fail _ _) fun _ => ?_
    refine twins_found (twins_fail _ _) fun i => ?_
    refine ite_related Iff.rfl (fun _ => twins_fail _ _) fun _ => ?_
    exact twins_respond (d.setSession i _) _ _ _ _
  · unfold handleSessionUpdateDtRounds
    refine ite_related Iff.rfl (fun _ => twins_fail _ _) fun _ => ?_
    refine ite_related Iff.rfl (fun _ => twins_fail _ _) fun _ => ?_
    refine twins_found (twins_fail _ _) fun i => ?_
    exact twins_respond (d.setSession i _) _ _ _ _

theorem set_app_config_twins : Twins s ((start d).handleSessionSetAppConfig request)
    ((start (d.inScenario s)).handleSessionSetAppConfig request) := by
  unfold handleSessionSetAppConfig
  refine ite_related Iff.rfl (fun _ => twins_fail _ _) fun _ => ?_
  refine twins_found (twins_fail _ _) fun i => ?_
  dsimp only
  rw [start_device, start_device, set_app_configs_twin]
  exact twins_respond _ _ _ _ _

theorem session_config_twins : Twins s ((start d).handleSessionConfig request)
    ((start (d.inScenario s)).handleSessionConfig request) := by
  rcases session_edit_twins d s request with ⟨hmulticast,hphase,hrounds⟩
  refine (config_dispatch d.profile request).related (x := start d) (y := start (d.inScenario s))
    rfl rfl (twins_fail _ _) ?_
  intro handler listed _
  cases listed with
  | init => exact session_init_twins
  | deinit => exact session_deinit_twins
  | setAppConfig => exact set_app_config_twins
  | getAppConfig =>
    unfold handleSessionGetAppConfig
    refine ite_related Iff.rfl (fun _ => twins_fail _ _) fun _ => ?_
    exact twins_found (twins_fail _ _) fun i => twins_same _ _ _ _
  | getCount => exact twins_same _ _ _ _
  | queryDataSize =>
    unfold handleQueryDataSizeInRanging
    refine ite_related Iff.rfl (fun _ => twins_same _ _ _ _) fun _ => ?_
    exact twins_found (twins_same _ _ _ _) fun i => twins_same _ _ _ _
  | getState =>
    unfold handleSessionGetState
    refine ite_related Iff.rfl (fun _ => twins_fail _ _) fun _ => ?_
    exact twins_found (twins_fail _ _) fun i => twins_same _ _ _ _
  | updateMulticastList => exact hmulticast
  | updateAnchorRounds => exact hrounds true
  | updateTagRounds => exact hrounds false
  | dataTransferPhaseConfig => exact hphase

end

end UciSim
