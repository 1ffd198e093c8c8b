import UciSim.ConfigReads
import UciSim.MemoryInvariant

/-!
# Validation of a value in the request

A parameter under test is still a span of the request when it is validated. Each
check compares the length before it reads, so that no byte behind the value is
read. The stored parameters a check also looks at come through the typed
readers, which are the model's own here.
-/

set_option autoImplicit false

namespace UciSim.Memory

open Arrays Session

/-- A verdict, unless an access leaves its array first. -/
abbrev Judged (α : Type) := ExceptT InvalidConfig Checked α

/-- A verdict that reads no value. -/
def judge {α : Type} (verdict : Except InvalidConfig α) : Judged α := ExceptT.mk (.ok verdict)

def expectU8 (value : Span UInt8) (invalid : InvalidConfig) (check : UInt8 → Judged Unit) :
    Judged Unit :=
  if value.length ≠ 1 then judge (.error { invalid with status := statusInvalidParam })
  else do
    let b ← value.read 0
    check b

def expectU16 (value : Span UInt8) (invalid : InvalidConfig)
    (check : UInt8 → UInt8 → Judged Unit) : Judged Unit :=
  if value.length ≠ 2 then judge (.error { invalid with status := statusInvalidParam })
  else do
    let b0 ← value.read 0
    let b1 ← value.read 1
    check b0 b1

def contextU8 (session : Session) (reader : Reader) (overrideConfigId : UInt8)
    (value : Span UInt8) (invalid : InvalidConfig) : Judged UInt8 :=
  if overrideConfigId = reader.configId then
    if value.length ≠ 1 then judge (.error invalid)
    else do
      let b ← value.read 0
      judge (.ok b)
  else judge (session.getU8Config reader invalid)

def contextU16 (session : Session) (reader : Reader) (overrideConfigId : UInt8)
    (value : Span UInt8) (invalid : InvalidConfig) : Judged (UInt8 × UInt8) :=
  if overrideConfigId = reader.configId then
    if value.length ≠ 2 then judge (.error invalid)
    else do
      let b0 ← value.read 0
      let b1 ← value.read 1
      judge (.ok (b0,b1))
  else judge (session.getU16Config reader invalid)

def validateSlotTopologyContext (profile : Profile) (session : Session)
    (overrideConfigId : UInt8) (value : Span UInt8) : Judged Unit := do
  let invalid := profile.invalidSlotsPerRr
  let slotsPerRr ← contextU8 session slotsPerRrReader overrideConfigId value invalid
  judge (validateSlotsPerRr profile slotsPerRr)
  let responderSlotIndex ←
    contextU8 session responderSlotIndexReader overrideConfigId value invalid
  judge (require (responderSlotIndex < slotsPerRr) invalid)

def validateBlockStrideContext (profile : Profile) (session : Session)
    (overrideConfigId : UInt8) (value : Span UInt8) : Judged Unit := do
  let invalid := profile.invalidBlockStrideLength
  let blockStrideLength ←
    contextU8 session blockStrideLengthReader overrideConfigId value invalid
  judge (validateBlockStrideLength profile blockStrideLength)
  if blockStrideLength = 0 then judge (.ok ())
  else do
    let rangingTimeStruct ←
      contextU8 session rangingTimeStructReader overrideConfigId value invalid
    let scheduledMode ← contextU8 session scheduledModeReader overrideConfigId value invalid
    judge (require (rangingTimeStruct = 0x01 ∧ scheduledMode = scheduledModeTimeScheduled) invalid)

def validateCapSizeRangeContext (profile : Profile) (session : Session)
    (overrideConfigId : UInt8) (value : Span UInt8) : Judged Unit := do
  let invalid := profile.invalidCapSizeRange
  let (capSizeMax,capSizeMin) ←
    contextU16 session capSizeRangeReader overrideConfigId value invalid
  judge (require (capSizeMin ≤ capSizeMax) invalid)
  if capSizeMin = 0 ∧ capSizeMax = 0 then judge (.ok ())
  else do
    let scheduledMode ← contextU8 session scheduledModeReader overrideConfigId value invalid
    let slotsPerRr ← contextU8 session slotsPerRrReader overrideConfigId value invalid
    judge (require (scheduledMode = scheduledModeContentionBased ∧ slotsPerRr ≠ 0 ∧
      capSizeMax ≤ slotsPerRr-1) invalid)

/-- The checks of an address read its length only. -/
def validateSessionAppConfig (profile : Profile) (session : Session) (configId : UInt8)
    (value : Span UInt8) : Judged Unit :=
  if configId = appConfigDeviceType then
    expectU8 value profile.invalidDeviceType (fun b => judge (validateDeviceType profile b))
  else if configId = appConfigMultiNodeMode then
    expectU8 value profile.invalidMultiNodeMode (fun b => judge (validateMultiNodeMode profile b))
  else if configId = appConfigChannelNumber then
    expectU8 value profile.invalidChannelNumber (fun b => judge (validateChannelNumber profile b))
  else if configId = appConfigNumberOfControlees then
    expectU8 value profile.invalidNumOfControlees
      (fun b => judge (validateNumberOfControlees profile b))
  else if configId = appConfigMacAddressMode then
    expectU8 value profile.invalidMacAddressMode
      (fun b => judge (validateMacAddressMode profile b))
  else if configId = appConfigDeviceMacAddress then
    judge (validateDeviceMacAddress profile value.content
      (session.readU8 macAddressModeReader macAddressModeShort))
  else if configId = appConfigDstMacAddress then
    judge (validateDstMacAddress profile value.content)
  else if configId = appConfigStsConfig then
    expectU8 value profile.invalidStsConfig (fun b => judge (validateStsConfig profile b))
  else if configId = appConfigResultReportConfig then
    expectU8 value
      ⟨statusInvalidParam,reasonErrorInvalidResultReportConfig,invalidConfigSurfaceImmediate⟩
      (fun b => judge (validateResultReportConfig profile b))
  else if configId = appConfigAoaResultReq then
    expectU8 value profile.invalidAoaResultReq (fun b => judge (validateAoaResultReq profile b))
  else if configId = appConfigPrfMode then
    expectU8 value profile.invalidPrfMode (fun b => judge (validatePrfMode profile b))
  else if configId = appConfigPreambleCodeIndex then
    expectU8 value profile.invalidPreambleCodeIndex
      (fun b => judge (validatePreambleCodeIndex profile b (session.readU8 prfModeReader 0)))
  else if configId = appConfigSfdId then
    expectU8 value profile.invalidSfdId
      (fun b => judge (validateSfdId profile b (session.readU8 prfModeReader 0)))
  else if configId = appConfigPsduDataRate then
    expectU8 value profile.invalidPsduDataRate (fun b => judge (validatePsduDataRate profile b))
  else if configId = appConfigPreambleDuration then
    expectU8 value profile.invalidPreambleDuration
      (fun b => judge (validatePreambleDuration profile b))
  else if configId = appConfigStsLength then
    expectU8 value profile.invalidStsLength (fun b => judge (validateStsLength profile b))
  else if configId = appConfigKeyRotation then
    expectU8 value profile.invalidKeyRotation (fun b => judge (validateKeyRotation profile b))
  else if configId = appConfigKeyRotationRate then
    expectU16 value profile.invalidKeyRotationRate
      (fun b0 _ => judge (validateKeyRotationRate profile b0))
  else if configId = appConfigNumberOfStsSegments then
    expectU8 value profile.invalidNumberOfStsSegments
      (fun b => judge (validateNumberOfStsSegments profile b))
  else if configId = appConfigMaxRrRetry then
    expectU16 value
      ⟨statusInvalidParam,reasonStateChangeWithSessionManagementCommands,
        invalidConfigSurfaceImmediate⟩
      (fun _ _ => judge (.ok ()))
  else if configId = appConfigLinkLayerMode then
    expectU8 value profile.invalidLinkLayerMode (fun b => judge (validateLinkLayerMode profile b))
  else if configId = appConfigSlotDuration then
    expectU16 value profile.invalidSlotDuration
      (fun b0 b1 => judge (validateSlotDurationRstu profile (UciSim.readU16Le [b0,b1] 0)))
  else if configId = appConfigRangingTimeStruct then
    expectU8 value profile.invalidRangingTimeStruct (fun rangingTimeStruct => do
      judge (validateRangingTimeStruct profile rangingTimeStruct)
      validateBlockStrideContext profile session configId value)
  else if configId = appConfigScheduledMode then
    expectU8 value profile.invalidScheduledMode (fun scheduledMode => do
      judge (validateScheduledMode profile scheduledMode)
      validateBlockStrideContext profile session configId value
      validateCapSizeRangeContext profile session configId value)
  else if configId = appConfigBlockStrideLength then
    expectU8 value profile.invalidBlockStrideLength (fun blockStrideLength => do
      judge (validateBlockStrideLength profile blockStrideLength)
      validateBlockStrideContext profile session configId value)
  else if configId = appConfigSlotsPerRr then
    expectU8 value profile.invalidSlotsPerRr (fun slotsPerRr => do
      judge (validateSlotsPerRr profile slotsPerRr)
      validateSlotTopologyContext profile session configId value
      validateCapSizeRangeContext profile session configId value)
  else if configId = appConfigResponderSlotIndex then
    expectU8 value profile.invalidSlotsPerRr (fun _ =>
      validateSlotTopologyContext profile session configId value)
  else if configId = appConfigRssiReporting then
    expectU8 value profile.invalidRssiReporting (fun b => judge (validateRssiReporting profile b))
  else if configId = appConfigCapSizeRange then
    expectU16 value profile.invalidCapSizeRange (fun _ _ =>
      validateCapSizeRangeContext profile session configId value)
  else if configId = appConfigRangingRoundUsage then
    expectU8 value profile.invalidRangingRoundUsage
      (fun b => judge (validateRangingRoundUsage profile b))
  else if configId = appConfigRangingInterval then
    if value.length ≠ 4 then
      judge (.error ⟨statusInvalidParam,reasonErrorInvalidRangingInterval,
        invalidConfigSurfaceImmediate⟩)
    else do
      let b0 ← value.read 0
      let b1 ← value.read 1
      let b2 ← value.read 2
      let b3 ← value.read 3
      judge (validateRangingIntervalMs profile (UciSim.readU32Le [b0,b1,b2,b3] 0))
  else judge (.ok ())

variable {value : Span UInt8}

theorem judge_bind {α β : Type} (verdict : Except InvalidConfig α)
    (f : α → Except InvalidConfig β) :
    (judge verdict >>= fun a => judge (f a)) = judge (verdict >>= f) := by
  cases verdict <;> rfl

theorem judge_ite {α : Type} (c : Prop) [Decidable c] (a b : Except InvalidConfig α) :
    (if c then judge a else judge b) = judge (if c then a else b) := by
  split <;> rfl

/-- A read inside the value reads its content. -/
theorem value_read (hv : value.Inside) {index : ℕ} (hi : index < value.length)
    {bytes : List UInt8} (hbytes : value.content = bytes) :
    value.read index = .ok (bytes.getD index 0) := by
  rw [← hbytes]
  exact Span.read_inside hv hi 0

theorem expect_u8_eq (hv : value.Inside) (invalid : InvalidConfig) (check : UInt8 → Check) :
    expectU8 value invalid (fun b => judge (check b)) =
      judge (UciSim.expectU8 value.content invalid check) := by
  have hlen := Span.content_length hv
  unfold expectU8
  by_cases h : value.length ≠ 1
  · rw [if_pos h, expect_u8_refuses _ _ (by rw [hlen]; exact h)]
  rw [if_neg h]
  rw [not_not] at h
  rcases List.length_eq_one_iff.mp (hlen.trans h) with ⟨b,hb⟩
  rw [value_read hv (by omega) hb, hb]
  rfl

theorem expect_u16_eq (hv : value.Inside) (invalid : InvalidConfig)
    (check : UInt8 → UInt8 → Check) :
    expectU16 value invalid (fun b0 b1 => judge (check b0 b1)) =
      judge (UciSim.expectU16 value.content invalid check) := by
  have hlen := Span.content_length hv
  unfold expectU16
  by_cases h : value.length ≠ 2
  · rw [if_pos h, expect_u16_refuses _ _ (by rw [hlen]; exact h)]
  rw [if_neg h]
  rw [not_not] at h
  rcases List.length_eq_two.mp (hlen.trans h) with ⟨b0,b1,hb⟩
  rw [value_read hv (by omega) hb, value_read hv (by omega) hb, hb]
  rfl

theorem context_u8_eq (hv : value.Inside) (session : Session) (reader : Reader)
    (overrideConfigId : UInt8) (invalid : InvalidConfig) :
    contextU8 session reader overrideConfigId value invalid =
      judge (session.contextU8 reader overrideConfigId value.content invalid) := by
  have hlen := Span.content_length hv
  unfold contextU8 Session.contextU8
  by_cases hid : overrideConfigId = reader.configId
  · rw [if_pos hid, if_pos hid]
    by_cases h : value.length ≠ 1
    · rw [if_pos h]
      cases hb : value.content with
      | nil => rfl
      | cons b rest =>
        cases rest with
        | nil =>
          rw [hb] at hlen
          exact absurd hlen.symm h
        | cons b' rest => rfl
    rw [if_neg h]
    rw [not_not] at h
    rcases List.length_eq_one_iff.mp (hlen.trans h) with ⟨b,hb⟩
    rw [value_read hv (by omega) hb, hb]
    rfl
  · rw [if_neg hid, if_neg hid]

theorem context_u16_eq (hv : value.Inside) (session : Session) (reader : Reader)
    (overrideConfigId : UInt8) (invalid : InvalidConfig) :
    contextU16 session reader overrideConfigId value invalid =
      judge (if overrideConfigId = reader.configId then
        match value.content with
        | [b0,b1] => .ok (b0,b1)
        | _ => .error invalid
      else session.getU16Config reader invalid) := by
  have hlen := Span.content_length hv
  unfold contextU16
  by_cases hid : overrideConfigId = reader.configId
  · rw [if_pos hid, if_pos hid]
    by_cases h : value.length ≠ 2
    · rw [if_pos h]
      rcases hb : value.content with _ | ⟨b0, _ | ⟨b1, _ | ⟨b2,rest⟩⟩⟩
      · rfl
      · rfl
      · rw [hb] at hlen
        exact absurd hlen.symm h
      · rfl
    rw [if_neg h]
    rw [not_not] at h
    rcases List.length_eq_two.mp (hlen.trans h) with ⟨b0,b1,hb⟩
    rw [value_read hv (by omega) hb, value_read hv (by omega) hb, hb]
    rfl
  · rw [if_neg hid, if_neg hid]

theorem slot_topology_eq (hv : value.Inside) (profile : Profile) (session : Session)
    (configId : UInt8) :
    validateSlotTopologyContext profile session configId value =
      judge (UciSim.validateSlotTopologyContext profile session configId value.content) := by
  simp only [validateSlotTopologyContext, context_u8_eq hv, judge_bind]
  rfl

theorem block_stride_eq (hv : value.Inside) (profile : Profile) (session : Session)
    (configId : UInt8) :
    validateBlockStrideContext profile session configId value =
      judge (UciSim.validateBlockStrideContext profile session configId value.content) := by
  simp only [validateBlockStrideContext, context_u8_eq hv, judge_bind, judge_ite]
  rfl

theorem cap_size_range_eq (hv : value.Inside) (profile : Profile) (session : Session)
    (configId : UInt8) :
    validateCapSizeRangeContext profile session configId value =
      judge (UciSim.validateCapSizeRangeContext profile session configId value.content) := by
  simp only [validateCapSizeRangeContext, context_u8_eq hv, context_u16_eq hv, judge_bind,
    judge_ite]
  unfold UciSim.validateCapSizeRangeContext
  congr 1
  by_cases hid : configId = appConfigCapSizeRange
  · rw [if_pos hid, if_pos hid]
    rcases value.content with _ | ⟨b0, _ | ⟨b1, _ | ⟨b2,rest⟩⟩⟩ <;> rfl
  · rw [if_neg hid, if_neg hid]

theorem ranging_interval_eq (hv : value.Inside) (profile : Profile) (session : Session) :
    validateSessionAppConfig profile session appConfigRangingInterval value =
      judge (UciSim.validateSessionAppConfig profile session appConfigRangingInterval
        value.content) := by
  have hlen := Span.content_length hv
  show (if value.length ≠ 4 then _ else _) = _
  by_cases h : value.length ≠ 4
  · rw [if_pos h, ranging_interval_refuses _ _ (by rw [hlen]; exact h)]
  rw [if_neg h]
  rw [not_not] at h
  rcases hb : value.content with _ | ⟨b0, _ | ⟨b1, _ | ⟨b2, _ | ⟨b3,rest⟩⟩⟩⟩
  all_goals rw [hb, h] at hlen
  all_goals simp only [List.length_nil, List.length_cons] at hlen
  any_goals omega
  have hrest : rest = [] := List.eq_nil_of_length_eq_zero (by omega)
  subst hrest
  rw [value_read hv (by omega) hb, value_read hv (by omega) hb, value_read hv (by omega) hb,
    value_read hv (by omega) hb]
  rfl

/-- The verdict on a value inside the request is the model's on its bytes. -/
theorem validate_session_app_config_eq (hv : value.Inside) (profile : Profile)
    (session : Session) (configId : UInt8) :
    validateSessionAppConfig profile session configId value =
      judge (UciSim.validateSessionAppConfig profile session configId value.content) := by
  by_cases hinterval : configId = appConfigRangingInterval
  · rw [hinterval]
    exact ranging_interval_eq hv profile session
  simp only [validateSessionAppConfig, UciSim.validateSessionAppConfig, if_neg hinterval,
    block_stride_eq hv, slot_topology_eq hv, cap_size_range_eq hv, judge_bind, expect_u8_eq hv,
    expect_u16_eq hv, judge_ite]

end UciSim.Memory
