import Mathlib.Tactic.FinCases
import UciSim.ConfigTables
import UciSim.Requests

/-!
# Reads into fixed buffers

Every typed read copies a stored value of any length into a local of a fixed
size. Validation bounds most of the stored lengths; the start check's read of
the key rotation rate is too small for the one length validation admits.
-/

set_option autoImplicit false

namespace UciSim

namespace Session

/-- The reads that copy into a local of their own size. -/
def typedReaders : List Reader := [
  sessionInfoNtfConfigReader, proximityNearReader, proximityFarReader,
  rangingRoundUsageReader, dataRepetitionCountReader, maxNumberOfMeasurementsReader,
  rangingIntervalReader, responderSlotIndexReader, aoaResultReqReader, rssiReportingReader,
  resultReportConfigReader, deviceTypeReader, deviceRoleReader, multiNodeModeReader,
  macAddressModeReader, numberOfControleesReader, deviceMacAddressReader,
  dstMacAddressReader, slotsPerRrReader, blockStrideLengthReader, rangingTimeStructReader,
  scheduledModeReader, capSizeRangeReader, slotDurationReader, channelNumberReader,
  stsConfigReader, prfModeReader, preambleCodeIndexReader, sfdIdReader, psduDataRateReader,
  preambleDurationReader, stsLengthReader, keyRotationReader, keyRotationRateReader,
  numberOfStsSegmentsReader, maxRrRetryReader, linkLayerModeReader]

def Fits (session : Session) (reader : Reader) : Prop :=
  ∀ value ∈ session.read reader, value.length ≤ reader.size

instance (session : Session) (reader : Reader) : Decidable (session.Fits reader) :=
  inferInstanceAs (Decidable (∀ value ∈ session.read reader, _))

/-- The readers of a parameter that a set request stores at any length. -/
def uncheckedReaders : List Reader :=
  typedReaders.filter (fun reader => !validatedAppConfigs.contains reader.configId)

/-- The length the validation demands of the parameter, where it demands one. -/
def demandedLength (reader : Reader) : ℕ :=
  if reader = keyRotationRateReader then 2 else reader.size

end Session

open Session

theorem expect_u8_refuses {value : List UInt8} (invalid : InvalidConfig) (check : UInt8 → Check)
    (h : value.length ≠ 1) :
    expectU8 value invalid check = .error { invalid with status := statusInvalidParam } := by
  match value with
  | [] => rfl
  | [_] => exact absurd rfl h
  | _::_::_ => rfl

theorem expect_u16_refuses {value : List UInt8} (invalid : InvalidConfig)
    (check : UInt8 → UInt8 → Check) (h : value.length ≠ 2) :
    expectU16 value invalid check = .error { invalid with status := statusInvalidParam } := by
  match value with
  | [] => rfl
  | [_] => rfl
  | [_,_] => exact absurd rfl h
  | _::_::_::_ => rfl

theorem ranging_interval_refuses {value : List UInt8} (profile : Profile) (session : Session)
    (h : value.length ≠ 4) :
    validateSessionAppConfig profile session appConfigRangingInterval value =
      .error ⟨statusInvalidParam,reasonErrorInvalidRangingInterval,
        invalidConfigSurfaceImmediate⟩ := by
  match value with
  | [] => rfl
  | [_] => rfl
  | [_,_] => rfl
  | [_,_,_] => rfl
  | [_,_,_,_] => exact absurd rfl h
  | _::_::_::_::_::_ => rfl

theorem other_length_refused (session : Session) {value : List UInt8} {reader : Reader}
    (hr : reader ∈ typedReaders) (hv : validatedAppConfigs.contains reader.configId = true)
    (hsize : reader.size ≠ maxConfigValue) (hlen : value.length ≠ demandedLength reader) :
    ∃ invalid, validateSessionAppConfig defaultProfile session reader.configId value =
      .error invalid ∧ invalid.surface = invalidConfigSurfaceImmediate := by
  unfold typedReaders at hr
  fin_cases hr
  all_goals first
    | exact ⟨_,expect_u8_refuses _ _ hlen,rfl⟩
    | exact ⟨_,expect_u16_refuses _ _ hlen,rfl⟩
    | exact ⟨_,ranging_interval_refuses _ _ hlen,rfl⟩
    | exact absurd rfl hsize
    | exact absurd hv (by decide)

theorem refusal_none {d : Device} {i : Fin maxSessions} {configId : UInt8}
    {value : List UInt8} (h : d.refusal i configId value = none) :
    d.rejection i configId value = none ∧
      ∃ session, (d.sessions i).storeConfig configId value = some session := by
  unfold Device.refusal at h
  split at h
  · cases h
  cases hrejection : d.rejection i configId value with
  | some status =>
    rw [hrejection] at h
    cases h
  | none =>
    rw [hrejection] at h
    cases hstore : (d.sessions i).storeConfig configId value with
    | some session => exact ⟨rfl,session,rfl⟩
    | none => simp [hstore] at h

/-- An entry of a validated parameter that is stored fits its reader, the key rotation
rate apart. -/
theorem admitted_fits {d : Device} {i : Fin maxSessions} {value : List UInt8} {reader : Reader}
    (hp : d.profile = defaultProfile) (hr : reader ∈ typedReaders)
    (hv : validatedAppConfigs.contains reader.configId = true)
    (h : d.refusal i reader.configId value = none) :
    value.length ≤ reader.size ↔ reader ≠ keyRotationRateReader := by
  obtain ⟨hrejection,session,hstore⟩ := refusal_none h
  by_cases hsize : reader.size = maxConfigValue
  · refine ⟨?_,fun _ => hsize ▸ (store_config_some hstore).1⟩
    rintro - rfl
    exact absurd hsize (by decide)
  have hlen : value.length = demandedLength reader := by
    by_contra hlen
    obtain ⟨invalid,hinvalid,himmediate⟩ :=
      other_length_refused (d.sessions i) hr hv hsize hlen
    unfold Device.rejection at hrejection
    rw [if_pos hv, hp, hinvalid] at hrejection
    simp [himmediate] at hrejection
  rw [hlen, demandedLength]
  by_cases hk : reader = keyRotationRateReader
  · simp [hk]
  · simp [hk]

namespace Session

def Bounded (session : Session) : Prop :=
  ∀ reader ∈ typedReaders, ∃ value, session.getConfig reader.configId = some value ∧
    (value.length ≤ reader.size ↔ reader ≠ keyRotationRateReader)

/-- A session in use is bounded and a free slot is empty. -/
structure Tabled (session : Session) : Prop where
  free : session.allocated = false → session.configs = []
  bounded : session.allocated = true → session.Bounded

theorem Bounded.congr {session session' : Session} (h : session.Bounded)
    (hc : session'.configs = session.configs) : session'.Bounded := by
  intro reader hr
  obtain ⟨value,hget,hfits⟩ := h reader hr
  exact ⟨value,by rw [← hget, getConfig, getConfig, hc],hfits⟩

theorem Tabled.congr {session session' : Session} (h : session.Tabled)
    (hs : session.SameTable session') : session'.Tabled where
  free ha := hs.configs.trans (h.free (hs.allocated ▸ ha))
  bounded ha := (h.bounded (hs.allocated ▸ ha)).congr hs.configs

theorem Tabled.zero : Session.zero.Tabled where
  free _ := rfl
  bounded ha := by cases ha

theorem defaults_bounded :
    (Session.zero.storeDefaults defaultProfile.defaultSessionAppConfigs).Bounded := by
  have h : ∀ reader ∈ typedReaders,
      ((Session.zero.storeDefaults defaultProfile.defaultSessionAppConfigs).getConfig
        reader.configId).any
        (fun value => decide (value.length ≤ reader.size ↔ reader ≠ keyRotationRateReader)) := by
    decide +kernel
  intro reader hr
  obtain ⟨value,hget,hfits⟩ := (Option.any_eq_true _ _).mp (h reader hr)
  exact ⟨value,hget,decide_eq_true_eq.mp hfits⟩

theorem Bounded.fresh {d : Device} (hp : d.profile = defaultProfile) {i : Fin maxSessions}
    (h : (d.sessions i).configs = []) (sessionId : UInt32) :
    (d.freshSession i sessionId).Bounded := by
  refine defaults_bounded.congr ?_
  rw [← hp]
  exact store_defaults_configs h _

end Session

namespace Device

theorem stored_session (d : Device) (i : Fin maxSessions) (configId : UInt8)
    (value : List UInt8) : (d.stored i configId value).sessions i = d.storing i configId value := by
  unfold stored
  split
  · exact setSession_same _ _ _
  · exact setSession_same _ _ _

theorem stored_profile (d : Device) (i : Fin maxSessions) (configId : UInt8)
    (value : List UInt8) : (d.stored i configId value).profile = d.profile := by
  unfold stored
  split <;> rfl

theorem storing_get_config {d : Device} {i : Fin maxSessions} {configId : UInt8}
    {value : List UInt8} (h : d.refusal i configId value = none) (other : UInt8) :
    (d.storing i configId value).getConfig other =
      if configId = other then some value else (d.sessions i).getConfig other := by
  obtain ⟨-,session,hstore⟩ := refusal_none h
  have hconfigs : (d.storing i configId value).configs = session.configs := by
    rw [storing, hstore, Option.getD_some]
    exact (forget_proximity_eq session configId).2.2.2.2
  rw [Session.getConfig, hconfigs]
  exact Session.store_config_get hstore other

end Device

/-- The entry fits the reader of its parameter where validation leaves its length open. -/
def FitsUnchecked (configId : UInt8) (value : List UInt8) : Prop :=
  ∀ reader ∈ uncheckedReaders, reader.configId = configId → value.length ≤ reader.size

instance (configId : UInt8) (value : List UInt8) : Decidable (FitsUnchecked configId value) :=
  inferInstanceAs (Decidable (∀ reader ∈ uncheckedReaders, _))

theorem entry_fits {d : Device} {i : Fin maxSessions} {value : List UInt8} {reader : Reader}
    (hp : d.profile = defaultProfile) (hr : reader ∈ typedReaders)
    (he : FitsUnchecked reader.configId value)
    (h : d.refusal i reader.configId value = none) :
    value.length ≤ reader.size ↔ reader ≠ keyRotationRateReader := by
  by_cases hv : validatedAppConfigs.contains reader.configId = true
  · exact admitted_fits hp hr hv h
  · refine ⟨?_,fun _ => he reader (List.mem_filter.mpr ⟨hr,by simpa using hv⟩) rfl⟩
    rintro - rfl
    exact hv (by decide)

theorem Session.Bounded.stored {d : Device} {i : Fin maxSessions} {configId : UInt8}
    {value : List UInt8} (hp : d.profile = defaultProfile) (hb : (d.sessions i).Bounded)
    (he : FitsUnchecked configId value) (h : d.refusal i configId value = none) :
    ((d.stored i configId value).sessions i).Bounded := by
  intro reader hr
  rw [Device.stored_session, Device.storing_get_config h]
  by_cases hid : configId = reader.configId
  · subst hid
    exact ⟨value,if_pos rfl,entry_fits hp hr he h⟩
  · rw [if_neg hid]
    exact hb reader hr

/-- A set request stores no parameter that validation leaves open at a length its reader
cannot take. -/
def Run.StoresFittingValues (r : Run) : Op → Prop
  | .submit request => ∀ i, Sets r.engine.device request i →
      ∀ entry ∈ request.entriesFor r.engine.device i, FitsUnchecked entry.1 entry.2
  | _ => True

instance (r : Run) (op : Op) : Decidable (r.StoresFittingValues op) := by
  cases op <;> unfold Run.StoresFittingValues <;> infer_instance

structure Device.Tabled (d : Device) : Prop where
  profile : d.profile = defaultProfile
  sessions : ∀ i, (d.sessions i).Tabled

namespace Device.Tabled

theorem init (scenario : Scenario) : (Device.initWithProfile defaultProfile scenario).Tabled :=
  ⟨rfl,fun _ => .zero⟩

theorem configured {d : Device} {request : Packet} {i : Fin maxSessions} (h : d.Tabled)
    (sets : Sets d request i)
    (hentries : ∀ entry ∈ request.entriesFor d i, FitsUnchecked entry.1 entry.2) :
    ((d.reconfigured request i).sessions i).Tabled := by
  have ha := (find_session_some sets.2.2.2).1
  have hinvariant := set_app_configs_invariant
    (P := fun d => d.profile = defaultProfile ∧ (d.sessions i).allocated = true ∧
      (d.sessions i).Bounded) (e := FitsUnchecked) (i := i) ?_
    (byteAt request.payload 4).toNat (request.payload.drop 5) d
    ⟨h.profile,ha,(h.sessions i).bounded ha⟩ hentries
  · obtain ⟨-,hallocated,hbounded⟩ := hinvariant
    refine ⟨fun hfree => ?_,fun _ => hbounded⟩
    exact absurd (hfree.symm.trans hallocated) (by decide)
  · rintro d configId value ⟨hp,ha,hb⟩ he hrefusal
    refine ⟨(stored_profile d i configId value).trans hp,?_,hb.stored hp he hrefusal⟩
    rw [stored_session, (storing_eq d i configId value).2.2.2, ha]

theorem move {d : Device} {request : Packet} {i : Fin maxSessions} {session : Session}
    (h : d.Tabled)
    (hentries : Sets d request i →
      ∀ entry ∈ request.entriesFor d i, FitsUnchecked entry.1 entry.2)
    (hmove : TableMove d request i session) : session.Tabled := by
  cases hmove with
  | kept _ same => exact (h.sessions i).congr same
  | opened sessionId free =>
    refine ⟨fun hfree => ?_,fun _ => .fresh h.profile ((h.sessions i).free free) sessionId⟩
    rw [fresh_session_eq] at hfree
    cases hfree
  | cleared => exact .zero
  | configured sets => exact h.configured sets (hentries sets)

theorem step {r : Run} {op : Op} (h : r.engine.device.Tabled) (hfit : r.StoresFittingValues op) :
    (r.step op).engine.device.Tabled := by
  refine Run.step_device (P := Device.Tabled)
    (G := fun d request => ∀ i, Sets d request i →
      ∀ entry ∈ request.entriesFor d i, FitsUnchecked entry.1 entry.2) ?_ ?_ ?_ r op h ?_
  · exact fun d p hd => ⟨hd.profile,hd.sessions⟩
  · exact fun d request response posting d' hd hentries hserved =>
      ⟨(served_frame hserved).1.trans hd.profile,
        fun i => hd.move (hentries i) (served_tables hserved i)⟩
  · exact fun d elapsedMs flushes ns d' hd hticked =>
      ⟨(ticked_frame hticked).2.1.trans hd.profile,
        fun i => (hd.sessions i).congr (Device.SameTables.ticked hticked i)⟩
  · rintro request rfl
    exact hfit

end Device.Tabled

/-- With the default profile every typed read of every session stays inside its buffer
but one: the start check reads the two bytes of the key rotation rate into one. -/
theorem reads_bounded (scenario : Scenario) (ops : List Op)
    (h : Run.Along defaultProfile scenario Run.StoresFittingValues ops) (i : Fin maxSessions)
    (ha : ((Run.reached defaultProfile scenario ops).engine.device.sessions i).allocated = true)
    (reader : Reader) (hr : reader ∈ typedReaders) :
    ((Run.reached defaultProfile scenario ops).engine.device.sessions i).Fits reader ↔
      reader ≠ keyRotationRateReader := by
  have htabled := Runs.invariant_of_steps (I := fun r : Run => r.engine.device.Tabled)
    (fun _ _ hd hfit => hd.step hfit) _ ops (Device.Tabled.init scenario) h
  obtain ⟨value,hget,hfits⟩ := (htabled.sessions i).bounded ha reader hr
  rw [← hfits]
  exact ⟨fun hread => hread value hget,fun hle v hv => by
    obtain rfl : value = v := Option.some.inj (hget.symm.trans hv)
    exact hle⟩

theorem reads_bounded_after_set :
    ((Run.reached defaultProfile .rangingStream [.submit (initRequest 1),
      .submit (setAppConfigRequest 1 1 [appConfigDataRepetitionCount,1,4])]
      ).engine.device.sessions 0).Fits dataRepetitionCountReader :=
  (reads_bounded .rangingStream _ (by decide +kernel) 0 (by decide +kernel)
    dataRepetitionCountReader (by decide +kernel)).mpr (by decide)

/-- The default key rotation rate overflows its reader in every new session, and a set
request can do the same to a parameter whose length is not checked. -/
theorem reads_overflow :
    let created := (Run.reached defaultProfile .rangingStream
      [.submit (initRequest 1)]).engine.device.sessions 0
    let configured := (Run.reached defaultProfile .rangingStream [.submit (initRequest 1),
      .submit (setAppConfigRequest 1 1 [appConfigDataRepetitionCount,2,4,0])]
      ).engine.device.sessions 0
    (created.allocated = true ∧ ¬ created.Fits keyRotationRateReader) ∧
      (configured.allocated = true ∧ ¬ configured.Fits dataRepetitionCountReader) := by
  decide +kernel

end UciSim
