import UciSim.AppConfigEntries
import UciSim.EngineRuns
import UciSim.Requests

/-!
# The status of a set request

The loop ends after the declared number of entries, at a refused entry, at an
entry the payload cuts off, or silently where the payload ends. Only the last of
these ends answers for entries that are not there.
-/

set_option autoImplicit false

namespace UciSim

inductive SetEnd where
  | complete
  | exhausted
  | truncated
  | refused (status : UInt8)
  | stranded (remaining : ℕ)
  deriving DecidableEq, Repr

namespace SetEnd

def status : SetEnd → UInt8
  | .complete => statusOk
  | .exhausted => statusOk
  | .truncated => statusInvalidParam
  | .refused status => status
  | .stranded _ => statusRejected

/-- Neither does the payload end before the declared count is reached, nor is the entry that
reaches it one whose event cannot be moved, nor does a refusal carry the status of success. -/
def Faithful (e : SetEnd) : Prop :=
  e ≠ .exhausted ∧ e ≠ .stranded 0 ∧ e ≠ .refused statusOk

instance (e : SetEnd) : Decidable e.Faithful := inferInstanceAs (Decidable (_ ∧ _ ∧ _))

theorem faithful_iff (e : SetEnd) :
    (e.status = statusOk ↔ e = .complete ∨ e = .stranded 0) ↔ e.Faithful := by
  have hinvalid : statusInvalidParam ≠ statusOk := by decide
  have hrejected : statusRejected ≠ statusOk := by decide
  cases e with
  | complete => simp [status, Faithful]
  | exhausted => simp [status, Faithful]
  | truncated => simp [status, Faithful, hinvalid]
  | refused status => simp [SetEnd.status, Faithful]
  | stranded remaining => simp [status, Faithful, hrejected]

end SetEnd

namespace Device

def setEnd : ℕ → List UInt8 → Device → Fin maxSessions → SetEnd
  | 0, _, _, _ => .complete
  | remaining+1, configId::valueLen::rest, d, i =>
    let value := rest.take valueLen.toNat
    if rest.length < valueLen.toNat then .truncated
    else match d.refusal i configId value with
      | some status => .refused status
      | none =>
        if d.Strands i configId then .stranded remaining
        else setEnd remaining (rest.drop valueLen.toNat) (d.stored i configId value) i
  | _+1, _, _, _ => .exhausted

theorem set_app_configs_status (count : ℕ) (rest : List UInt8) (d : Device)
    (i : Fin maxSessions) : (setAppConfigs count rest d i).1 = (setEnd count rest d i).status := by
  induction count generalizing rest d with
  | zero => rfl
  | succ count ih =>
    match rest with
    | [] => rfl
    | [_] => rfl
    | configId::valueLen::rest =>
      unfold setAppConfigs setEnd
      dsimp only
      by_cases hcut : rest.length < valueLen.toNat
      · rw [if_pos hcut, if_pos hcut]
        rfl
      rw [if_neg hcut, if_neg hcut, set_app_config_eq]
      cases d.refusal i configId (rest.take valueLen.toNat) with
      | some status => rfl
      | none =>
        dsimp only
        by_cases hstrands : d.Strands i configId
        · rw [if_pos hstrands, if_pos hstrands]
          rfl
        · rw [if_neg hstrands, if_neg hstrands]
          exact ih _ _

/-- All declared entries are stored when the loop runs to its end, also where the last entry's
event is lost. -/
theorem stored_entries_length (count : ℕ) (rest : List UInt8) (d : Device)
    (i : Fin maxSessions) :
    (storedEntries count rest d i).length = count ↔
      setEnd count rest d i = .complete ∨ setEnd count rest d i = .stranded 0 := by
  induction count generalizing rest d with
  | zero => simp [storedEntries, setEnd]
  | succ count ih =>
    match rest with
    | [] => simp [storedEntries, setEnd]
    | [_] => simp [storedEntries, setEnd]
    | configId::valueLen::rest =>
      unfold storedEntries setEnd
      dsimp only
      by_cases hcut : rest.length < valueLen.toNat
      · simp [hcut]
      rw [if_neg hcut]
      cases hrefusal : d.refusal i configId (rest.take valueLen.toNat) with
      | some status => simp [hcut]
      | none =>
        rw [if_neg (by simp [hcut])]
        by_cases hstrands : d.Strands i configId
        · rw [if_pos hstrands, if_pos hstrands]
          simp [eq_comm]
        · rw [if_neg hstrands, if_neg hstrands]
          simpa using ih (rest.drop valueLen.toNat)
            (d.stored i configId (rest.take valueLen.toNat))

def encodeEntry (entry : UInt8 × List UInt8) : List UInt8 :=
  entry.1::UInt8.ofNat entry.2.length::entry.2

end Device

def Packet.declaredEntries (request : Packet) : ℕ := (byteAt request.payload 4).toNat

def Packet.setEnd (request : Packet) (d : Device) (i : Fin maxSessions) : SetEnd :=
  Device.setEnd request.declaredEntries (request.payload.drop 5) d i

theorem set_request_response {d : Device} {request : Packet} {i : Fin maxSessions}
    (h : Sets d request i) :
    (d.handlePacket request).2.result.response = some ⟨mtResponse,pbfComplete,
      gidSessionConfig,request.oid,[(request.setEnd d i).status,0]⟩ := by
  obtain ⟨⟨hmt,hgid,hoid⟩,hs,hlen,hfound⟩ := h
  have hset : ((Exchange.start d).handleSessionSetAppConfig request).2.result.response =
      some ⟨mtResponse,pbfComplete,gidSessionConfig,request.oid,
        [(request.setEnd d i).status,0]⟩ := by
    unfold Exchange.handleSessionSetAppConfig
    rw [if_neg (Nat.not_lt_of_le hlen), show (Exchange.start d).device = d from rfl, hfound]
    dsimp only
    rw [Packet.setEnd, ← Device.set_app_configs_status]
    rfl
  have hdispatch : (Exchange.start d).dispatchCommand request =
      (Exchange.start d).handleSessionSetAppConfig request :=
    dispatch_config_of (.setAppConfig hoid) hgid hs
  unfold Device.handlePacket
  rw [if_neg (by rw [hmt]; decide), if_neg (not_not.mpr hmt)]
  dsimp only
  rw [Exchange.finalize_response, Exchange.report_error_response, hdispatch, hset]

/-- The response to the request reports success. -/
def Acknowledged (d : Device) (request : Packet) : Prop :=
  ∃ response ∈ (d.handlePacket request).2.result.response, byteAt response.payload 0 = statusOk

instance (d : Device) (request : Packet) : Decidable (Acknowledged d request) :=
  match h : (d.handlePacket request).2.result.response with
  | none => isFalse (by simp [Acknowledged, h])
  | some response => decidable_of_iff (byteAt response.payload 0 = statusOk)
      (by simp [Acknowledged, h])

/-- As many entries as declared are complete, supported, not rejected, and stored. -/
def AllStored (d : Device) (request : Packet) (i : Fin maxSessions) : Prop :=
  (request.entriesFor d i).length = request.declaredEntries

instance (d : Device) (request : Packet) (i : Fin maxSessions) :
    Decidable (AllStored d request i) := inferInstanceAs (Decidable (_ = _))

/-- A set request for an existing session reports success exactly for stored entries, as
long as its loop does not end faithlessly. -/
theorem acknowledged_iff_stored (d : Device) (request : Packet) (i : Fin maxSessions)
    (h : Sets d request i) :
    (Acknowledged d request ↔ AllStored d request i) ↔ (request.setEnd d i).Faithful := by
  have hacknowledged : Acknowledged d request ↔ (request.setEnd d i).status = statusOk := by
    simp [Acknowledged, set_request_response h, byteAt]
  rw [hacknowledged, ← SetEnd.faithful_iff]
  exact iff_congr Iff.rfl (Device.stored_entries_length _ _ d i)

def createdDevice : Device :=
  (Run.reached defaultProfile .rangingStream [.submit (initRequest 1)]).engine.device

theorem acknowledged_iff_stored_twice :
    Acknowledged createdDevice
        (setAppConfigRequest 1 2 [appConfigStsConfig,1,0,appConfigPrfMode,1,0]) ↔
      AllStored createdDevice
        (setAppConfigRequest 1 2 [appConfigStsConfig,1,0,appConfigPrfMode,1,0]) 0 :=
  (acknowledged_iff_stored createdDevice _ 0 (by decide +kernel)).mpr (by decide +kernel)

/-- A payload that ends before its only declared entry is acknowledged. -/
theorem empty_payload_acknowledged :
    Sets createdDevice (setAppConfigRequest 1 1 []) 0 ∧
      Acknowledged createdDevice (setAppConfigRequest 1 1 []) ∧
      ¬ AllStored createdDevice (setAppConfigRequest 1 1 []) 0 := by
  decide +kernel

end UciSim
