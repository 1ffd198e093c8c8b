import UciSim.ConfigReads
import UciSim.StartValidation
import UciSim.PacketActions

/-!
# Deferred rejections

A value that is refused under the surface of a session status is stored, and the
start finds it. Three parameters the start reads through getters that take a value
of another length for an absent one.
-/

set_option autoImplicit false

namespace UciSim

open Session

/-- The parameters whose getter falls back to a default the start then judges. -/
def fallbackAppConfigs : List UInt8 :=
  [appConfigAoaResultReq, appConfigRssiReporting, appConfigRangingRoundUsage]

/-- The start reads a default in place of the value. -/
def FallsBack (configId : UInt8) (value : List UInt8) : Prop :=
  configId ∈ fallbackAppConfigs ∧ value.length ≠ 1

instance (configId : UInt8) (value : List UInt8) : Decidable (FallsBack configId value) :=
  inferInstanceAs (Decidable (_ ∧ _))

/-- A set request of the value is refused, to be reported at the start. -/
def Session.Defers (session : Session) (profile : Profile) (configId : UInt8)
    (value : List UInt8) : Prop :=
  ∃ invalid, validateSessionAppConfig profile session configId value = .error invalid ∧
    invalid.surface = invalidConfigSurfaceSessionStatus

instance (session : Session) (profile : Profile) (configId : UInt8) (value : List UInt8) :
    Decidable (session.Defers profile configId value) :=
  match h : validateSessionAppConfig profile session configId value with
  | .ok _ => isFalse (fun hd => by
      rcases hd with ⟨invalid,herror,-⟩
      cases herror.symm.trans h)
  | .error invalid => decidable_of_iff (invalid.surface = invalidConfigSurfaceSessionStatus) (by
      constructor
      · exact fun hs => ⟨invalid,h,hs⟩
      · rintro ⟨invalid',herror,hs⟩
        cases herror.symm.trans h
        exact hs)

section

variable {profile : Profile} {session : Session} {configId : UInt8} {value : List UInt8}

theorem Session.Defers.not_admits (h : session.Defers profile configId value)
    (hget : session.getConfig configId = some value) : ¬ session.Admits profile configId := by
  rintro ⟨value',hget',hok⟩
  rcases h with ⟨invalid,herror,-⟩
  cases hget.symm.trans hget'
  cases herror.symm.trans hok

theorem Session.Defers.not_accepts (h : session.Defers profile configId value)
    (hget : session.getConfig configId = some value) : ¬ session.Accepts profile configId :=
  fun ha => h.not_admits hget ((admits_iff hget).mpr ha)

theorem Session.Defers.getter (reader : Reader) (check : UInt8 → Check) (fallback : UInt8)
    {invalid : InvalidConfig} (h : session.Defers profile reader.configId value)
    (hget : session.getConfig reader.configId = some value) (hlen : value.length = 1)
    (hcheck : ∀ value, validateSessionAppConfig profile session reader.configId value =
      expectU8 value invalid check) : check (session.readU8 reader fallback) ≠ .ok () := by
  rcases List.length_eq_one_iff.mp hlen with ⟨b,rfl⟩
  intro hok
  exact h.not_accepts hget ((getter_u8 reader check fallback hget hcheck).mp hok)

theorem Session.Defers.ranging_interval
    (h : session.Defers profile appConfigRangingInterval value)
    (hget : session.getConfig appConfigRangingInterval = some value) :
    validateRangingIntervalMs profile (session.getRangingIntervalMs profile) ≠ .ok () := by
  intro hok
  rcases h with ⟨invalid,herror,hsurface⟩
  by_cases hlen : value.length = 4
  · match value with
    | [b0,b1,b2,b3] =>
      have hread : session.read rangingIntervalReader = some [b0,b1,b2,b3] := hget
      rw [getRangingIntervalMs, hread] at hok
      cases herror.symm.trans hok
  · rw [ranging_interval_refuses profile session hlen] at herror
    cases herror
    cases hsurface

theorem Session.Defers.result_report
    (h : session.Defers profile appConfigResultReportConfig value) : value.length = 1 := by
  rcases h with ⟨invalid,herror,hsurface⟩
  by_contra hlen
  have hrefused : validateSessionAppConfig profile session appConfigResultReportConfig value =
      .error ⟨statusInvalidParam,reasonErrorInvalidResultReportConfig,
        invalidConfigSurfaceImmediate⟩ := expect_u8_refuses _ _ hlen
  rw [hrefused] at herror
  cases herror
  cases hsurface

theorem start_refuses (hv : validatedAppConfigs.contains configId = true)
    (hget : session.getConfig configId = some value)
    (hdefers : session.Defers profile configId value) (hf : ¬ FallsBack configId value) :
    validateSessionStart profile session ≠ .ok () := by
  intro hok
  have hlen : configId ∈ fallbackAppConfigs → value.length = 1 :=
    fun hmem => by_contra fun hne => hf ⟨hmem,hne⟩
  rcases start_getters hok with ⟨hinterval,hreport,haoa,hrssi,husage⟩
  rcases validated_cases configId (List.contains_iff_mem.mp hv) with
    hdemanded | rfl | rfl | rfl | rfl | rfl
  · exact hdefers.not_admits hget (start_admits hok configId hdemanded)
  · exact hdefers.ranging_interval hget hinterval
  · exact hdefers.getter resultReportConfigReader (validateResultReportConfig profile) 0x01 hget
      hdefers.result_report (fun _ => rfl) hreport
  · exact hdefers.getter aoaResultReqReader (validateAoaResultReq profile) 0x00 hget
      (hlen (by decide)) (fun _ => rfl) haoa
  · exact hdefers.getter rssiReportingReader (validateRssiReporting profile) 0x00 hget
      (hlen (by decide)) (fun _ => rfl) hrssi
  · exact hdefers.getter rangingRoundUsageReader (validateRangingRoundUsage profile) 0x01 hget
      (hlen (by decide)) (fun _ => rfl) husage

end

section

open Exchange

theorem emit_sessions (x : Exchange) (n : Packet) :
    (x.emit n).device.sessions = x.device.sessions := by
  unfold emit deliverNotification queueNotification placeNotification
  split_ifs <;> rfl

theorem report_error_sessions (outcome : Rc × Exchange) :
    (reportError outcome).device.sessions = outcome.2.device.sessions := by
  rcases outcome with ⟨rc,x⟩
  cases rc with
  | ok => rfl
  | err =>
    unfold reportError
    dsimp only
    cases x.result.response with
    | none => rfl
    | some response =>
      dsimp only
      cases response.payload with
      | nil => rfl
      | cons status rest => exact emit_sessions _ _

variable {d : Device} {request : Packet} {i : Fin maxSessions}

def StartRequest (d : Device) (request : Packet) (i : Fin maxSessions) : Prop :=
  request.mt = mtCommand ∧ request.gid = gidSessionControl ∧ request.oid = sessionStart ∧
    d.findSession (readU32Le request.payload 0) = some i

instance (d : Device) (request : Packet) (i : Fin maxSessions) :
    Decidable (StartRequest d request i) := inferInstanceAs (Decidable (_ ∧ _ ∧ _ ∧ _))

namespace Device

/-- The status a refused start is answered with and the notification that goes with it. -/
def startReport (d : Device) (request : Packet) (i : Fin maxSessions) (invalid : InvalidConfig) :
    UInt8 × Packet :=
  if invalid.surface = invalidConfigSurfaceSessionStatus then
    (statusOk,sessionStatusNotification (readU32Le request.payload 0) (d.sessions i).state
      invalid.reasonCode)
  else (invalid.status,coreGenericErrorNotification invalid.status)

/-- The start is answered with the error, and its notification is handed over at once or waits
behind the others where there is room. -/
def ReportsStart (d : Device) (request : Packet) (i : Fin maxSessions) (invalid : InvalidConfig) :
    Prop :=
  let outcome := (d.handlePacket request).2
  let report := d.startReport request i invalid
  outcome.result.response = some ⟨mtResponse,pbfComplete,request.gid,request.oid,[report.1]⟩ ∧
    (d.scenario.shouldDeferNotification = false →
      outcome.result.notification = some report.2) ∧
    (d.scenario.shouldDeferNotification = true →
      d.pendingNotifications.length < maxPendingNotifications →
        outcome.result.notification.toList ++ outcome.device.pendingNotifications =
          d.pendingNotifications ++ [report.2])

end Device

theorem finalize_mail (x : Exchange) (k : ℕ) (h : x.result.notification = none) :
    (x.finalizeResult k).result.notification.toList ++
      (x.finalizeResult k).device.pendingNotifications = x.device.pendingNotifications := by
  unfold finalizeResult
  rw [h, if_neg (by simp)]
  split_ifs
  · rw [h]
    rfl
  unfold Device.dequeueNotification
  cases hp : x.device.pendingNotifications with
  | nil => simp [h,hp]
  | cons n rest => rfl

theorem finalize_placed (x : Exchange) (k : ℕ) {n : Packet} (h : x.result.notification = some n) :
    (x.finalizeResult k).result.notification = some n := by
  unfold finalizeResult
  rw [if_pos (by rw [h]; rfl), h]

theorem emit_placed (x : Exchange) (n : Packet) (h : x.result.notification = none)
    (hs : x.device.scenario.shouldDeferNotification = false) :
    (x.emit n).result.notification = some n := by
  unfold emit deliverNotification
  rw [hs, if_neg (by decide), h]
  rfl

theorem emit_queued (x : Exchange) (n : Packet)
    (hs : x.device.scenario.shouldDeferNotification = true)
    (hroom : x.device.pendingNotifications.length < maxPendingNotifications) :
    (x.emit n).result = x.result ∧
      (x.emit n).device.pendingNotifications = x.device.pendingNotifications ++ [n] := by
  unfold emit deliverNotification queueNotification
  rw [hs, if_pos rfl, if_neg (Nat.not_le.mpr hroom)]
  exact ⟨rfl,rfl⟩

theorem refused_start_handled {invalid : InvalidConfig} (h : Moves d request sessionStart i)
    (hno : validateSessionStart d.profile (d.sessions i) = .error invalid) :
    (d.handlePacket request).2 =
      (((start d).makeStatusResponse request (d.startReport request i invalid).1).emit
        (d.startReport request i invalid).2).finalizeResult d.pendingNotifications.length := by
  rcases h with ⟨hmt,hgid,hoid,hsupports,hlen,hfound,t,ht,hallows⟩
  have htransition : (start d).dispatchCommand request = (start d).handleTransition request i :=
    dispatch_control_of (.transition (by rw [hoid]; decide)) hgid hsupports hlen hfound
  unfold Device.handlePacket
  dsimp only
  rw [hmt, if_neg (by decide), if_neg (by decide), htransition]
  dsimp only
  congr 1
  unfold handleTransition Device.startReport
  rw [show (start d).device = d from rfl, hoid, ht]
  dsimp only
  rw [hallows, if_neg (by decide), if_pos rfl, hno]
  dsimp only
  split_ifs <;> rfl

theorem refused_start_reports {invalid : InvalidConfig} (h : Moves d request sessionStart i)
    (hno : validateSessionStart d.profile (d.sessions i) = .error invalid) :
    d.ReportsStart request i invalid := by
  have hhandled := refused_start_handled h hno
  unfold Device.ReportsStart
  dsimp only
  rw [hhandled]
  refine ⟨?_,fun hprompt => ?_,fun hdefers hroom => ?_⟩
  · rw [finalize_response, emit_response]
    rfl
  · exact finalize_placed _ _ (emit_placed _ _ rfl hprompt)
  · rcases emit_queued ((start d).makeStatusResponse request (d.startReport request i invalid).1)
      (d.startReport request i invalid).2 hdefers hroom with ⟨hslot,hpending⟩
    rw [finalize_mail _ _ (congrArg Result.notification hslot), hpending]
    rfl

theorem refused_start_sessions (h : StartRequest d request i)
    (hno : validateSessionStart d.profile (d.sessions i) ≠ .ok ()) :
    (d.handlePacket request).2.device.sessions = d.sessions := by
  rcases h with ⟨hmt,hgid,hoid,hfound⟩
  unfold Device.handlePacket
  dsimp only
  rw [hmt, if_neg (by decide), if_neg (by decide), finalize_sessions, report_error_sessions,
    dispatch_control hgid]
  cases control_dispatch d.profile request (some i) with
  | refused _ _ _ fails =>
    rw [fails (start d) rfl hfound]
    rfl
  | handled handler j listed _ _ hj runs =>
    cases hj
    rw [runs (start d) rfl hfound]
    cases listed with
    | transition =>
      unfold handleTransition
      rw [show (start d).device = d from rfl, hoid]
      cases d.profile.getSessionTransition sessionStart with
      | none => rfl
      | some t =>
        dsimp only
        rw [if_pos rfl]
        split
        · rfl
        cases hcheck : validateSessionStart d.profile (d.sessions i) with
        | ok a => exact absurd hcheck hno
        | error invalid =>
          dsimp only
          split
          · exact emit_sessions _ _
          · rfl
    | _ opcode =>
      rw [hoid] at opcode
      exact absurd opcode (by decide)

end

section

variable {profile : Profile} {session session' : Session} {configId : UInt8} {value : List UInt8}

theorem validate_stored (h : session.Overrides configId value session') :
    validateSessionAppConfig profile session' configId value =
      validateSessionAppConfig profile session configId value := by
  have hstored : session'.Overrides configId value session' :=
    .stored (h.read_same ⟨configId,0⟩ rfl)
  have hblock : validateBlockStrideContext profile session' configId value =
      validateBlockStrideContext profile session configId value := by
    rw [block_stride_override profile hstored, block_stride_override profile h]
  have htopology : validateSlotTopologyContext profile session' configId value =
      validateSlotTopologyContext profile session configId value := by
    rw [slot_topology_override profile hstored, slot_topology_override profile h]
  have hcap : validateCapSizeRangeContext profile session' configId value =
      validateCapSizeRangeContext profile session configId value := by
    rw [cap_size_range_override profile hstored, cap_size_range_override profile h]
  have hread : ∀ (reader : Reader) (fallback : UInt8), configId ≠ reader.configId →
      session'.readU8 reader fallback = session.readU8 reader fallback := by
    intro reader fallback hid
    rw [readU8, h.read_other reader hid, readU8]
  by_cases hmac : configId = appConfigDeviceMacAddress
  · subst hmac
    exact congrArg (validateDeviceMacAddress profile value) (hread _ _ (by decide))
  by_cases hcode : configId = appConfigPreambleCodeIndex
  · subst hcode
    exact congrArg (fun prfMode => expectU8 value profile.invalidPreambleCodeIndex
      (fun code => validatePreambleCodeIndex profile code prfMode)) (hread _ _ (by decide))
  by_cases hsfd : configId = appConfigSfdId
  · subst hsfd
    exact congrArg (fun prfMode => expectU8 value profile.invalidSfdId
      (fun sfdId => validateSfdId profile sfdId prfMode)) (hread _ _ (by decide))
  unfold validateSessionAppConfig
  simp only [if_neg hmac, if_neg hcode, if_neg hsfd, hblock, htopology, hcap]

end

/-- A value that a set request stored although the validation had refused it is refused by the
table that holds it. As long as it is, and the start does not fall back from it to a default,
a start of the session is refused, moves no session and reports the error it met. -/
theorem deferred_rejection_kept (d : Device) (i : Fin maxSessions) (configId : UInt8)
    (value : List UInt8) (hv : validatedAppConfigs.contains configId = true)
    (hdefers : (d.sessions i).Defers d.profile configId value) :
    ((d.setAppConfig i configId value).2.sessions i).Defers d.profile configId value ∧
      ∀ d' : Device, d'.profile = d.profile → (d'.sessions i).getConfig configId = some value →
        (d'.sessions i).Defers d.profile configId value → ¬ FallsBack configId value →
          (∃ invalid, validateSessionStart d'.profile (d'.sessions i) = .error invalid ∧
            ∀ request, Moves d' request sessionStart i → d'.ReportsStart request i invalid) ∧
            ∀ request, StartRequest d' request i →
              (d'.handlePacket request).2.device.sessions = d'.sessions := by
  constructor
  · rw [Device.set_app_config_eq]
    cases hrefusal : d.refusal i configId value with
    | some status => exact hdefers
    | none =>
      dsimp only
      rw [Device.stored_session]
      unfold Session.Defers
      rw [validate_stored (Device.storing_get_config hrefusal)]
      exact hdefers
  · intro d' hp hget hrefused hf
    rw [← hp] at hrefused
    have hno := start_refuses hv hget hrefused hf
    constructor
    · cases hcheck : validateSessionStart d'.profile (d'.sessions i) with
      | ok a => exact absurd hcheck hno
      | error invalid => exact ⟨invalid,rfl,fun request h => refused_start_reports h hcheck⟩
    · intro request hstart
      exact refused_start_sessions hstart hno

/-- The shipped profile, reporting a refused signal strength or preamble at the start. -/
def deferringProfile : Profile := { defaultProfile with
  invalidRssiReporting := { defaultProfile.invalidRssiReporting with
    surface := invalidConfigSurfaceSessionStatus }
  invalidPreambleCodeIndex := { defaultProfile.invalidPreambleCodeIndex with
    surface := invalidConfigSurfaceSessionStatus } }

/-- A preamble outside its range is refused again at the start, with a session status. -/
theorem deferred_preamble_refused :
    let d := (Run.reached deferringProfile .default [.submit (initRequest 1)]).engine.device
    let d' := (Run.reached deferringProfile .default [.submit (initRequest 1),
      .submit (setAppConfigRequest 1 1 [appConfigPreambleCodeIndex,1,25])]).engine.device
    ((d.setAppConfig 0 appConfigPreambleCodeIndex [25]).2.sessions 0).Defers d.profile
        appConfigPreambleCodeIndex [25] ∧
      (∃ invalid, invalid.surface = invalidConfigSurfaceSessionStatus ∧
        d'.ReportsStart (startRequest 1) 0 invalid) ∧
      (d'.handlePacket (startRequest 1)).2.device.sessions = d'.sessions := by
  intro d d'
  have hkept := deferred_rejection_kept d 0 appConfigPreambleCodeIndex [25] (by decide)
    (by decide +kernel)
  have hstart : StartRequest d' (startRequest 1) 0 := by decide +kernel
  have hmoves : Moves d' (startRequest 1) sessionStart 0 := by decide +kernel
  have hp : d'.profile = d.profile := by
    rw [Run.reached_profile, Run.reached_profile]
  have hverdict : validateSessionStart d'.profile (d'.sessions 0) =
      .error deferringProfile.invalidPreambleCodeIndex := by decide +kernel
  rcases hkept.2 d' hp (by decide +kernel) (by decide +kernel) (by decide) with
    ⟨⟨invalid,herror,hreports⟩,hsessions⟩
  cases herror.symm.trans hverdict
  exact ⟨hkept.1,⟨_,rfl,hreports _ hmoves⟩,hsessions _ hstart⟩

/-- A set request stores a value that the validation refuses, and the session starts all the
same: the signal strength of no bytes is taken for an absent one, and the preamble is within
its range once the pulse repetition frequency has changed. -/
theorem deferred_rejection_lost :
    let fresh := (Run.reached deferringProfile .default [.submit (initRequest 1)]).engine.device
    let rssi : List Op := [.submit (initRequest 1),
      .submit (setAppConfigRequest 1 1 [appConfigRssiReporting,0])]
    let preamble : List Op := [.submit (initRequest 1),
      .submit (setAppConfigRequest 1 1 [appConfigPreambleCodeIndex,1,25]),
      .submit (setAppConfigRequest 1 1 [appConfigPrfMode,1,1])]
    let start := fun ops => (Run.reached deferringProfile .default
      (ops ++ [.submit (startRequest 1)])).engine.device.sessions 0
    ((fresh.sessions 0).Defers deferringProfile appConfigRssiReporting [] ∧
      ((Run.reached deferringProfile .default rssi).engine.device.sessions 0).state =
        sessionStateInit ∧
      (start rssi).getConfig appConfigRssiReporting = some [] ∧
      (start rssi).state = sessionStateActive) ∧
    (fresh.sessions 0).Defers deferringProfile appConfigPreambleCodeIndex [25] ∧
      ((Run.reached deferringProfile .default preamble).engine.device.sessions 0).state =
        sessionStateInit ∧
      (start preamble).getConfig appConfigPreambleCodeIndex = some [25] ∧
      (start preamble).state = sessionStateActive := by
  decide +kernel

end UciSim
