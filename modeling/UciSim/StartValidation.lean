import UciSim.CheckResults
import UciSim.HandlersSession

/-!
# The two validators

A start request judges the whole table, a set request one value in the context of
the table. The start demands most parameters, and of these exactly what the set
request demands; five it reads through getters that fall back to a default. On a
table that stores every validated parameter with its length the two agree, up to
four conditions that only the start looks at.
-/

set_option autoImplicit false

namespace UciSim

open Session

namespace Session

/-- The parameter is stored with a value that a set request accepts. -/
def Admits (session : Session) (profile : Profile) (configId : UInt8) : Prop :=
  ∃ value, session.getConfig configId = some value ∧
    validateSessionAppConfig profile session configId value = .ok ()

/-- A set request would accept the stored value of the parameter. -/
def Accepts (session : Session) (profile : Profile) (configId : UInt8) : Prop :=
  ∀ value, session.getConfig configId = some value →
    validateSessionAppConfig profile session configId value = .ok ()

/-- A responder is a controlee and an initiator a controller. -/
def RolePaired (session : Session) : Prop :=
  ∃ role, session.read deviceRoleReader = some [role] ∧
    (role = deviceRoleResponder → session.read deviceTypeReader = some [deviceTypeControlee]) ∧
    (role = deviceRoleInitiator → session.read deviceTypeReader = some [deviceTypeController])

/-- There is an address for every controlee, and a unicast session has one. -/
def TopologyAgrees (session : Session) : Prop :=
  ∃ controlees addresses, session.read numberOfControleesReader = some [controlees] ∧
    session.read dstMacAddressReader = some addresses ∧
    addresses.length/2 = controlees.toNat ∧
    (session.read multiNodeModeReader = some [0x00] → controlees = 1 ∧ addresses.length = 2)

def HasKey (session : Session) (configId : UInt8) (lengths : List ℕ) : Prop :=
  ∃ key, session.getConfig configId = some key ∧ key.length ∈ lengths

/-- The keys the configuration of the scrambled timestamps needs are stored. -/
structure KeyMaterial (session : Session) : Prop where
  static : session.read stsConfigReader = some [0x00] → session.HasKey appConfigStaticStsIv [8]
  provisioned : session.read stsConfigReader = some [0x03] →
    session.HasKey appConfigSessionKey [16,32]
  responder : session.read stsConfigReader = some [0x04] →
    session.HasKey appConfigSessionKey [16,32] ∧ session.HasKey appConfigSubsessionKey [16,32]

/-- Keys rotate only in the configurations that allow it. -/
def RotationCompatible (session : Session) : Prop :=
  ∀ rotation, session.read keyRotationReader = some [rotation] → rotation ≠ 0 →
    ∃ stsConfig ∈ [(0x01 : UInt8),0x02,0x03,0x04], session.read stsConfigReader = some [stsConfig]

theorem accepts_iff {session : Session} {profile : Profile} {configId : UInt8}
    {value : List UInt8} (h : session.getConfig configId = some value) :
    session.Accepts profile configId ↔
      validateSessionAppConfig profile session configId value = .ok () := by
  constructor
  · exact fun ha => ha value h
  · intro hok value' hvalue'
    cases h.symm.trans hvalue'
    exact hok

theorem admits_iff {session : Session} {profile : Profile} {configId : UInt8}
    {value : List UInt8} (h : session.getConfig configId = some value) :
    session.Admits profile configId ↔ session.Accepts profile configId := by
  rw [accepts_iff h]
  constructor
  · rintro ⟨value',hvalue',hok⟩
    cases h.symm.trans hvalue'
    exact hok
  · exact fun hok => ⟨value,h,hok⟩

theorem read_u8_of_read {session : Session} {reader : Reader} {b : UInt8}
    (h : session.read reader = some [b]) (fallback : UInt8) :
    session.readU8 reader fallback = b := by
  rw [readU8, h]

end Session

section

variable {profile : Profile} {session : Session} {next : UInt8 → Check}
  {invalid invalid' : InvalidConfig}

theorem admits_context (reader : Reader) (check : UInt8 → List UInt8 → Check)
    (hcheck : ∀ value, validateSessionAppConfig profile session reader.configId value =
      expectU8 value invalid' (fun b => check b value)) :
    session.Admits profile reader.configId ↔
      ∃ b, session.read reader = some [b] ∧ check b [b] = .ok () := by
  unfold Admits
  constructor
  · rintro ⟨value,hget,hok⟩
    rw [hcheck] at hok
    rcases expect_u8_ok.mp hok with ⟨b,rfl,hb⟩
    exact ⟨b,hget,hb⟩
  · rintro ⟨b,hread,hb⟩
    exact ⟨[b],hread,(hcheck [b]).trans hb⟩

theorem admits_u8 (reader : Reader) (check : UInt8 → Check)
    (hcheck : ∀ value, validateSessionAppConfig profile session reader.configId value =
      expectU8 value invalid' check) :
    session.Admits profile reader.configId ↔
      ∃ b, session.read reader = some [b] ∧ check b = .ok () :=
  admits_context reader (fun b _ => check b) hcheck

theorem start_u8 (reader : Reader) (check : UInt8 → Check)
    (hcheck : ∀ value, validateSessionAppConfig profile session reader.configId value =
      expectU8 value invalid' check) :
    (session.getU8Config reader invalid >>= fun b => check b >>= fun _ => next b) = .ok () ↔
      session.Admits profile reader.configId ∧ next (session.readU8 reader 0) = .ok () := by
  rw [admits_u8 reader check hcheck, read_u8_ok]
  constructor
  · rintro ⟨b,hread,hok⟩
    rw [read_u8_of_read hread]
    exact ⟨⟨b,hread,(then_ok.mp hok).1⟩,(then_ok.mp hok).2⟩
  · rintro ⟨⟨b,hread,hok⟩,hnext⟩
    rw [read_u8_of_read hread] at hnext
    exact ⟨b,hread,then_ok.mpr ⟨hok,hnext⟩⟩

theorem getter_u8 (reader : Reader) (check : UInt8 → Check) (fallback : UInt8) {b : UInt8}
    (h : session.read reader = some [b])
    (hcheck : ∀ value, validateSessionAppConfig profile session reader.configId value =
      expectU8 value invalid' check) :
    check (session.readU8 reader fallback) = .ok () ↔ session.Accepts profile reader.configId := by
  rw [accepts_iff h, hcheck, read_u8_of_read h]
  exact Iff.rfl

theorem start_u16 (reader : Reader) (check : UInt8 → UInt8 → Check) {rest : Check}
    (hcheck : ∀ value, validateSessionAppConfig profile session reader.configId value =
      expectU16 value invalid' check) :
    (session.getU16Config reader invalid >>= fun bytes =>
      check bytes.1 bytes.2 >>= fun _ => rest) = .ok () ↔
      session.Admits profile reader.configId ∧ rest = .ok () := by
  rw [read_u16_ok, Admits]
  constructor
  · rintro ⟨b0,b1,hread,hok⟩
    refine ⟨⟨[b0,b1],hread,?_⟩,(then_ok.mp hok).2⟩
    exact (hcheck _).trans (then_ok.mp hok).1
  · rintro ⟨⟨value,hget,hok⟩,hrest⟩
    rw [hcheck] at hok
    rcases expect_u16_ok.mp hok with ⟨b0,b1,rfl,hb⟩
    exact ⟨b0,b1,hget,then_ok.mpr ⟨hb,hrest⟩⟩

theorem start_bytes (reader : Reader) (check : List UInt8 → Check) {next : List UInt8 → Check}
    (hcheck : ∀ value, validateSessionAppConfig profile session reader.configId value =
      check value) :
    (session.getBytesConfig reader invalid >>= fun value => check value >>= fun _ =>
      next value) = .ok () ↔
      session.Admits profile reader.configId ∧
        ∃ value, session.read reader = some value ∧ next value = .ok () := by
  rw [read_bytes_ok, Admits]
  constructor
  · rintro ⟨value,hread,hok⟩
    exact ⟨⟨value,hread,(hcheck value).trans (then_ok.mp hok).1⟩,value,hread,(then_ok.mp hok).2⟩
  · rintro ⟨⟨value,hget,hok⟩,value',hread,hnext⟩
    cases hread.symm.trans hget
    exact ⟨value,hread,then_ok.mpr ⟨(hcheck value).symm.trans hok,hnext⟩⟩

theorem role_pair_ok :
    validateDeviceTypeRolePair profile session = .ok () ↔
      session.Admits profile appConfigDeviceType ∧ session.RolePaired := by
  unfold validateDeviceTypeRolePair
  rw [start_u8 deviceTypeReader (validateDeviceType profile) fun _ => rfl, read_u8_ok]
  refine and_congr_right fun hadmits => ?_
  rcases (admits_u8 deviceTypeReader (validateDeviceType profile) fun _ => rfl).mp hadmits with
    ⟨type,htype,-⟩
  unfold RolePaired
  rw [read_u8_of_read htype]
  refine exists_congr fun role => and_congr_right fun _ => ?_
  simp only [htype, Option.some.injEq, List.cons.injEq, and_true]
  by_cases hresponder : role = deviceRoleResponder
  · have hnot : ¬ role = deviceRoleInitiator := by
      rw [hresponder]
      decide
    rw [if_pos hresponder, require_ok, forall_prop_of_true hresponder, forall_prop_of_false hnot,
      and_true]
  · rw [if_neg hresponder, forall_prop_of_false hresponder, true_and]
    by_cases hinitiator : role = deviceRoleInitiator
    · rw [if_pos hinitiator, require_ok, forall_prop_of_true hinitiator]
    · rw [if_neg hinitiator, forall_prop_of_false hinitiator]
      exact iff_of_true rfl trivial

theorem topology_ok :
    validateMultiNodeModeTopology profile session = .ok () ↔
      session.Admits profile appConfigMultiNodeMode ∧
      session.Admits profile appConfigMacAddressMode ∧
      session.Admits profile appConfigNumberOfControlees ∧
      session.Admits profile appConfigDeviceMacAddress ∧
      session.Admits profile appConfigDstMacAddress ∧ session.TopologyAgrees := by
  unfold validateMultiNodeModeTopology
  rw [start_u8 multiNodeModeReader (validateMultiNodeMode profile) fun _ => rfl,
    start_u8 macAddressModeReader (validateMacAddressMode profile) fun _ => rfl,
    start_u8 numberOfControleesReader (validateNumberOfControlees profile) fun _ => rfl]
  refine and_congr_right fun hmode => and_congr_right fun hmac => and_congr_right fun hcount => ?_
  rcases (admits_u8 multiNodeModeReader (validateMultiNodeMode profile) fun _ => rfl).mp hmode with
    ⟨mode,hmode,-⟩
  rcases (admits_u8 macAddressModeReader (validateMacAddressMode profile) fun _ => rfl).mp hmac with
    ⟨macMode,hmac,-⟩
  rcases (admits_u8 numberOfControleesReader (validateNumberOfControlees profile)
    fun _ => rfl).mp hcount with ⟨controlees,hcount,-⟩
  have hdevice : ∀ value, validateSessionAppConfig profile session appConfigDeviceMacAddress value =
      validateDeviceMacAddress profile value macMode := by
    intro value
    rw [← read_u8_of_read hmac macAddressModeShort]
    rfl
  rw [read_u8_of_read hmode, read_u8_of_read hmac, read_u8_of_read hcount,
    start_bytes deviceMacAddressReader (fun value => validateDeviceMacAddress profile value macMode)
      hdevice]
  refine and_congr_right fun hstored => ?_
  rcases hstored with ⟨deviceMac,hdeviceMac,-⟩
  have hdeviceRead : session.read deviceMacAddressReader = some deviceMac := hdeviceMac
  simp only [hdeviceRead, Option.some.injEq, exists_eq_left',
    start_bytes dstMacAddressReader (validateDstMacAddress profile) fun _ => rfl]
  refine and_congr_right fun _ => ?_
  simp only [then_ok, require_ok, TopologyAgrees, hmode, hcount, Option.some.injEq,
    List.cons.injEq, and_true, exists_and_left, exists_eq_left']
  refine exists_congr fun dstMac => and_congr_right fun _ => and_congr_right fun _ => ?_
  constructor
  · intro hunicast hzero
    by_contra hmany
    exact hunicast ⟨hzero,by tauto⟩
  · rintro hunicast ⟨hzero,hmany⟩
    rcases hunicast hzero with ⟨hone,htwo⟩
    exact hmany.elim (fun h => h hone) (fun h => h htwo)

theorem config_length_ok (configId : UInt8) (lengths : List ℕ) :
    requireConfigLength profile session configId lengths = .ok () ↔
      session.HasKey configId lengths := by
  unfold requireConfigLength HasKey
  cases session.getConfig configId with
  | none => exact iff_of_false nofun nofun
  | some key => simp [require_ok]

theorem key_material_ok {stsConfig : UInt8} (h : session.read stsConfigReader = some [stsConfig]) :
    validateStsDependencies profile session stsConfig = .ok () ↔ session.KeyMaterial := by
  have hkeys : session.KeyMaterial ↔
      (stsConfig = 0x00 → session.HasKey appConfigStaticStsIv [8]) ∧
      (stsConfig = 0x03 → session.HasKey appConfigSessionKey [16,32]) ∧
      (stsConfig = 0x04 → session.HasKey appConfigSessionKey [16,32] ∧
        session.HasKey appConfigSubsessionKey [16,32]) := by
    have hread : ∀ b, session.read stsConfigReader = some [b] ↔ stsConfig = b := by
      intro b
      rw [h]
      simp
    constructor
    · intro hk
      exact ⟨fun hb => hk.static ((hread _).mpr hb),fun hb => hk.provisioned ((hread _).mpr hb),
        fun hb => hk.responder ((hread _).mpr hb)⟩
    · rintro ⟨hstatic,hprovisioned,hresponder⟩
      exact ⟨fun hb => hstatic ((hread _).mp hb),fun hb => hprovisioned ((hread _).mp hb),
        fun hb => hresponder ((hread _).mp hb)⟩
  rw [hkeys]
  unfold validateStsDependencies
  by_cases hzero : stsConfig = 0x00
  · subst hzero
    rw [if_pos rfl, config_length_ok]
    simp
  rw [if_neg hzero]
  by_cases hthree : stsConfig = 0x03
  · subst hthree
    rw [if_pos rfl, config_length_ok]
    simp
  rw [if_neg hthree]
  by_cases hfour : stsConfig = 0x04
  · subst hfour
    rw [if_pos rfl, then_ok, config_length_ok, config_length_ok]
    simp
  · rw [if_neg hfour]
    simp [hzero, hthree, hfour]

theorem rotation_ok {rotation stsConfig : UInt8}
    (hrotation : session.read keyRotationReader = some [rotation])
    (hsts : session.read stsConfigReader = some [stsConfig]) :
    ¬ (rotation ≠ 0 ∧ stsConfig ≠ 0x01 ∧ stsConfig ≠ 0x02 ∧ stsConfig ≠ 0x03 ∧
      stsConfig ≠ 0x04) ↔ session.RotationCompatible := by
  unfold RotationCompatible
  rw [hrotation, hsts]
  simp only [Option.some.injEq, List.cons.injEq, and_true, forall_eq', List.mem_cons,
    List.not_mem_nil, or_false, exists_eq_right']
  tauto

theorem admits_time_struct :
    session.Admits profile appConfigRangingTimeStruct ↔
      ∃ timeStruct, session.read rangingTimeStructReader = some [timeStruct] ∧
        validateRangingTimeStruct profile timeStruct = .ok () ∧
        validateBlockStrideContext profile session noOverride [] = .ok () := by
  refine (admits_context rangingTimeStructReader (fun b value => do
    validateRangingTimeStruct profile b
    validateBlockStrideContext profile session appConfigRangingTimeStruct value)
    fun _ => rfl).trans (exists_congr fun b => and_congr_right fun hread => ?_)
  rw [then_ok, block_stride_override profile (.stored hread)]

theorem admits_scheduled_mode :
    session.Admits profile appConfigScheduledMode ↔
      ∃ mode, session.read scheduledModeReader = some [mode] ∧
        validateScheduledMode profile mode = .ok () ∧
        validateBlockStrideContext profile session noOverride [] = .ok () ∧
        validateCapSizeRangeContext profile session noOverride [] = .ok () := by
  refine (admits_context scheduledModeReader (fun b value => do
    validateScheduledMode profile b
    validateBlockStrideContext profile session appConfigScheduledMode value
    validateCapSizeRangeContext profile session appConfigScheduledMode value)
    fun _ => rfl).trans (exists_congr fun b => and_congr_right fun hread => ?_)
  rw [then_ok, then_ok, block_stride_override profile (.stored hread),
    cap_size_range_override profile (.stored hread)]

theorem admits_block_stride :
    session.Admits profile appConfigBlockStrideLength ↔
      ∃ stride, session.read blockStrideLengthReader = some [stride] ∧
        validateBlockStrideLength profile stride = .ok () ∧
        validateBlockStrideContext profile session noOverride [] = .ok () := by
  refine (admits_context blockStrideLengthReader (fun b value => do
    validateBlockStrideLength profile b
    validateBlockStrideContext profile session appConfigBlockStrideLength value)
    fun _ => rfl).trans (exists_congr fun b => and_congr_right fun hread => ?_)
  rw [then_ok, block_stride_override profile (.stored hread)]

theorem admits_slots :
    session.Admits profile appConfigSlotsPerRr ↔
      ∃ slots, session.read slotsPerRrReader = some [slots] ∧
        validateSlotsPerRr profile slots = .ok () ∧
        validateSlotTopologyContext profile session noOverride [] = .ok () ∧
        validateCapSizeRangeContext profile session noOverride [] = .ok () := by
  refine (admits_context slotsPerRrReader (fun b value => do
    validateSlotsPerRr profile b
    validateSlotTopologyContext profile session appConfigSlotsPerRr value
    validateCapSizeRangeContext profile session appConfigSlotsPerRr value)
    fun _ => rfl).trans (exists_congr fun b => and_congr_right fun hread => ?_)
  rw [then_ok, then_ok, slot_topology_override profile (.stored hread),
    cap_size_range_override profile (.stored hread)]

theorem admits_responder :
    session.Admits profile appConfigResponderSlotIndex ↔
      validateSlotTopologyContext profile session noOverride [] = .ok () := by
  refine (admits_context responderSlotIndexReader (fun _ value =>
    validateSlotTopologyContext profile session appConfigResponderSlotIndex value)
    fun _ => rfl).trans ?_
  constructor
  · rintro ⟨b,hread,hok⟩
    rwa [slot_topology_override profile (.stored hread)] at hok
  · intro hok
    rcases (slot_topology_ok profile).mp hok with ⟨-,-,-,responder,hread,-⟩
    exact ⟨responder,hread,(slot_topology_override profile (.stored hread)).trans hok⟩

theorem admits_cap :
    session.Admits profile appConfigCapSizeRange ↔
      validateCapSizeRangeContext profile session noOverride [] = .ok () := by
  constructor
  · rintro ⟨value,hget,hok⟩
    rcases expect_u16_ok.mp hok with ⟨b0,b1,rfl,hok⟩
    rwa [cap_size_range_override profile (.stored hget)] at hok
  · intro hok
    rcases (cap_size_range_ok profile).mp hok with ⟨capMax,capMin,hread,-⟩
    exact ⟨[capMax,capMin],hread,(cap_size_range_override profile (.stored hread)).trans hok⟩

theorem schedule_ok (rest : Check) :
    (do
      let rangingTimeStruct ←
        session.getU8Config rangingTimeStructReader profile.invalidRangingTimeStruct
      validateRangingTimeStruct profile rangingTimeStruct
      let scheduledMode ← session.getU8Config scheduledModeReader profile.invalidScheduledMode
      validateScheduledMode profile scheduledMode
      let blockStrideLength ←
        session.getU8Config blockStrideLengthReader profile.invalidBlockStrideLength
      validateBlockStrideLength profile blockStrideLength
      validateBlockStrideContext profile session noOverride []
      let slotsPerRr ← session.getU8Config slotsPerRrReader profile.invalidSlotsPerRr
      validateSlotsPerRr profile slotsPerRr
      validateSlotTopologyContext profile session noOverride []
      validateCapSizeRangeContext profile session noOverride []
      rest) = .ok () ↔
      (session.Admits profile appConfigRangingTimeStruct ∧
        session.Admits profile appConfigScheduledMode ∧
        session.Admits profile appConfigBlockStrideLength ∧
        session.Admits profile appConfigSlotsPerRr ∧
        session.Admits profile appConfigResponderSlotIndex ∧
        session.Admits profile appConfigCapSizeRange) ∧ rest = .ok () := by
  rw [admits_time_struct, admits_scheduled_mode, admits_block_stride, admits_slots,
    admits_responder, admits_cap]
  simp only [read_u8_ok, then_ok]
  constructor
  · rintro ⟨_,htime,hvtime,_,hmode,hvmode,_,hstride,hvstride,hblock,_,hslots,hvslots,htopology,
      hcap,hrest⟩
    exact ⟨⟨⟨_,htime,hvtime,hblock⟩,⟨_,hmode,hvmode,hblock,hcap⟩,⟨_,hstride,hvstride,hblock⟩,
      ⟨_,hslots,hvslots,htopology,hcap⟩,htopology,hcap⟩,hrest⟩
  · rintro ⟨⟨⟨_,htime,hvtime,hblock⟩,⟨_,hmode,hvmode,-⟩,⟨_,hstride,hvstride,-⟩,
      ⟨_,hslots,hvslots,-⟩,htopology,hcap⟩,hrest⟩
    exact ⟨_,htime,hvtime,_,hmode,hvmode,_,hstride,hvstride,hblock,_,hslots,hvslots,htopology,
      hcap,hrest⟩

end

/-- What the start accepts, in the order of its checks. -/
theorem start_ok {profile : Profile} {session : Session} :
    validateSessionStart profile session = .ok () ↔
      validateRangingIntervalMs profile (session.getRangingIntervalMs profile) = .ok () ∧
      (session.Admits profile appConfigDeviceType ∧ session.RolePaired) ∧
      (session.Admits profile appConfigMultiNodeMode ∧
        session.Admits profile appConfigMacAddressMode ∧
        session.Admits profile appConfigNumberOfControlees ∧
        session.Admits profile appConfigDeviceMacAddress ∧
        session.Admits profile appConfigDstMacAddress ∧ session.TopologyAgrees) ∧
      session.Admits profile appConfigSlotDuration ∧
      session.Admits profile appConfigChannelNumber ∧
      session.Admits profile appConfigStsConfig ∧ session.KeyMaterial ∧
      validateResultReportConfig profile session.getResultReportConfig = .ok () ∧
      validateAoaResultReq profile session.getAoaResultReq = .ok () ∧
      session.Admits profile appConfigPrfMode ∧
      session.Admits profile appConfigPreambleCodeIndex ∧
      session.Admits profile appConfigSfdId ∧
      session.Admits profile appConfigPsduDataRate ∧
      session.Admits profile appConfigPreambleDuration ∧
      session.Admits profile appConfigStsLength ∧
      session.Admits profile appConfigKeyRotation ∧ session.RotationCompatible ∧
      session.Admits profile appConfigKeyRotationRate ∧
      session.Admits profile appConfigNumberOfStsSegments ∧
      session.Admits profile appConfigMaxRrRetry ∧
      session.Admits profile appConfigLinkLayerMode ∧
      (session.Admits profile appConfigRangingTimeStruct ∧
        session.Admits profile appConfigScheduledMode ∧
        session.Admits profile appConfigBlockStrideLength ∧
        session.Admits profile appConfigSlotsPerRr ∧
        session.Admits profile appConfigResponderSlotIndex ∧
        session.Admits profile appConfigCapSizeRange) ∧
      validateRssiReporting profile session.getRssiReporting = .ok () ∧
      validateRangingRoundUsage profile session.getRangingRoundUsage = .ok () := by
  unfold validateSessionStart
  rw [then_ok, then_ok, then_ok, role_pair_ok, topology_ok]
  refine and_congr_right fun _ => and_congr_right fun _ => and_congr_right fun _ => ?_
  refine (start_u16 slotDurationReader
    (fun b0 b1 => validateSlotDurationRstu profile (readU16Le [b0,b1] 0))
    fun _ => rfl).trans (and_congr_right fun _ => ?_)
  refine (start_u8 channelNumberReader (validateChannelNumber profile)
    fun _ => rfl).trans (and_congr_right fun _ => ?_)
  refine (start_u8 stsConfigReader (validateStsConfig profile)
    fun _ => rfl).trans (and_congr_right fun hsts => ?_)
  rcases (admits_u8 stsConfigReader (validateStsConfig profile) fun _ => rfl).mp hsts with
    ⟨stsConfig,hsts,-⟩
  rw [read_u8_of_read hsts, then_ok, key_material_ok hsts, then_ok, then_ok]
  refine and_congr_right fun _ => and_congr_right fun _ => and_congr_right fun _ => ?_
  refine (start_u8 prfModeReader (validatePrfMode profile)
    fun _ => rfl).trans (and_congr_right fun _ => ?_)
  refine (start_u8 preambleCodeIndexReader (fun code =>
    validatePreambleCodeIndex profile code (session.readU8 prfModeReader 0))
    fun _ => rfl).trans (and_congr_right fun _ => ?_)
  refine (start_u8 sfdIdReader (fun sfdId =>
    validateSfdId profile sfdId (session.readU8 prfModeReader 0))
    fun _ => rfl).trans (and_congr_right fun _ => ?_)
  refine (start_u8 psduDataRateReader (validatePsduDataRate profile)
    fun _ => rfl).trans (and_congr_right fun _ => ?_)
  refine (start_u8 preambleDurationReader (validatePreambleDuration profile)
    fun _ => rfl).trans (and_congr_right fun _ => ?_)
  refine (start_u8 stsLengthReader (validateStsLength profile)
    fun _ => rfl).trans (and_congr_right fun _ => ?_)
  refine (start_u8 keyRotationReader (validateKeyRotation profile)
    fun _ => rfl).trans (and_congr_right fun hrotation => ?_)
  rcases (admits_u8 keyRotationReader (validateKeyRotation profile) fun _ => rfl).mp hrotation with
    ⟨rotation,hrotation,-⟩
  rw [read_u8_of_read hrotation, then_ok, require_ok, rotation_ok hrotation hsts]
  refine and_congr_right fun _ => ?_
  refine (start_u16 keyRotationRateReader (fun b0 _ => validateKeyRotationRate profile b0)
    fun _ => rfl).trans (and_congr_right fun _ => ?_)
  refine (start_u8 numberOfStsSegmentsReader (validateNumberOfStsSegments profile)
    fun _ => rfl).trans (and_congr_right fun _ => ?_)
  refine (start_u16 maxRrRetryReader (fun _ _ => .ok ())
    fun _ => rfl).trans (and_congr_right fun _ => ?_)
  refine (start_u8 linkLayerModeReader (validateLinkLayerMode profile)
    fun _ => rfl).trans (and_congr_right fun _ => ?_)
  refine (schedule_ok _).trans (and_congr_right fun _ => ?_)
  rw [then_ok]

/-- The validated parameters the start demands; it reads the others through getters. -/
def demandedAppConfigs : List UInt8 := [
  appConfigDeviceType, appConfigMultiNodeMode, appConfigMacAddressMode,
  appConfigNumberOfControlees, appConfigDeviceMacAddress, appConfigDstMacAddress,
  appConfigSlotDuration, appConfigChannelNumber, appConfigStsConfig, appConfigPrfMode,
  appConfigPreambleCodeIndex, appConfigSfdId, appConfigPsduDataRate,
  appConfigPreambleDuration, appConfigStsLength, appConfigKeyRotation,
  appConfigKeyRotationRate, appConfigNumberOfStsSegments, appConfigMaxRrRetry,
  appConfigLinkLayerMode, appConfigRangingTimeStruct, appConfigScheduledMode,
  appConfigBlockStrideLength, appConfigSlotsPerRr, appConfigResponderSlotIndex,
  appConfigCapSizeRange]

theorem validated_cases : ∀ configId ∈ validatedAppConfigs, configId ∈ demandedAppConfigs ∨
    configId = appConfigRangingInterval ∨ configId = appConfigResultReportConfig ∨
    configId = appConfigAoaResultReq ∨ configId = appConfigRssiReporting ∨
    configId = appConfigRangingRoundUsage := by
  decide +kernel

theorem start_admits {profile : Profile} {session : Session}
    (h : validateSessionStart profile session = .ok ()) :
    ∀ configId ∈ demandedAppConfigs, session.Admits profile configId := by
  rcases start_ok.mp h with ⟨-,⟨htype,-⟩,⟨hnode,hmac,hcontrolees,hdevice,hdst,-⟩,hslot,hchannel,
    hsts,-,-,-,hprf,hcode,hsfd,hrate,hduration,hstsLength,hrotation,-,hrotationRate,hsegments,
    hretry,hlinkLayer,⟨htime,hmode,hstride,hslots,hresponder,hcap⟩,-,-⟩
  simp only [demandedAppConfigs, List.forall_mem_cons]
  exact ⟨htype,hnode,hmac,hcontrolees,hdevice,hdst,hslot,hchannel,hsts,hprf,hcode,hsfd,hrate,
    hduration,hstsLength,hrotation,hrotationRate,hsegments,hretry,hlinkLayer,htime,hmode,hstride,
    hslots,hresponder,hcap,nofun⟩

theorem start_getters {profile : Profile} {session : Session}
    (h : validateSessionStart profile session = .ok ()) :
    validateRangingIntervalMs profile (session.getRangingIntervalMs profile) = .ok () ∧
      validateResultReportConfig profile session.getResultReportConfig = .ok () ∧
      validateAoaResultReq profile session.getAoaResultReq = .ok () ∧
      validateRssiReporting profile session.getRssiReporting = .ok () ∧
      validateRangingRoundUsage profile session.getRangingRoundUsage = .ok () := by
  rcases start_ok.mp h with ⟨hinterval,-,-,-,-,-,-,hreport,haoa,-,-,-,-,-,-,-,-,-,-,-,-,-,hrssi,
    husage⟩
  exact ⟨hinterval,hreport,haoa,hrssi,husage⟩

end UciSim
