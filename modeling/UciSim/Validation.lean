import UciSim.Session

/-!
# Parameter validation

A single parameter is judged when it is set, the whole table when the session
starts. A refusal carries the status, the reason code and the surface of the
profile's entry for the parameter.
-/

set_option autoImplicit false

namespace UciSim

abbrev Check := Except InvalidConfig Unit

def require (condition : Prop) [Decidable condition] (invalid : InvalidConfig) : Check :=
  if condition then .ok () else .error invalid

def checkMax (value maximum : UInt8) (invalid : InvalidConfig) : Check :=
  require (value ≤ maximum) invalid

def checkRange (value minimum maximum : UInt8) (invalid : InvalidConfig) : Check :=
  require (minimum ≤ value ∧ value ≤ maximum) invalid

def checkMask (value mask : UInt8) (invalid : InvalidConfig) : Check :=
  require (value < 8 ∧ mask &&& (1 <<< value) ≠ 0) invalid

def checkMask16 (value : UInt8) (mask : UInt16) (invalid : InvalidConfig) : Check :=
  require (value < 16 ∧ mask &&& (1 <<< value.toUInt16) ≠ 0) invalid

def validateRangingIntervalMs (profile : Profile) (intervalMs : UInt32) : Check :=
  require (profile.supportedMinRangingIntervalMs.toUInt32 ≤ intervalMs)
    profile.invalidRangingInterval

def validateSlotDurationRstu (profile : Profile) (slotDurationRstu : UInt16) : Check :=
  require (profile.supportedMinSlotDurationRstu ≤ slotDurationRstu) profile.invalidSlotDuration

def validateResultReportConfig (profile : Profile) (resultReportConfig : UInt8) : Check :=
  require (resultReportConfig &&& ~~~profile.supportedResultReportConfigMask = 0)
    profile.invalidResultReportConfig

def validateStsConfig (profile : Profile) (stsConfig : UInt8) : Check :=
  checkMask stsConfig profile.supportedStsConfigMask profile.invalidStsConfig

def validateAoaResultReq (profile : Profile) (aoaResultReq : UInt8) : Check :=
  checkMax aoaResultReq profile.supportedAoaResultReqMax profile.invalidAoaResultReq

def validatePrfMode (profile : Profile) (prfMode : UInt8) : Check :=
  checkMax prfMode profile.supportedPrfModeMax profile.invalidPrfMode

def validatePreambleCodeIndex (profile : Profile) (preambleCodeIndex prfMode : UInt8) :
    Check := do
  validatePrfMode profile prfMode
  if prfMode = 0 then
    checkRange preambleCodeIndex profile.supportedBprfPreambleCodeIndexMin
      profile.supportedBprfPreambleCodeIndexMax profile.invalidPreambleCodeIndex
  else
    checkRange preambleCodeIndex profile.supportedHprfPreambleCodeIndexMin
      profile.supportedHprfPreambleCodeIndexMax profile.invalidPreambleCodeIndex

def validateSfdId (profile : Profile) (sfdId prfMode : UInt8) : Check := do
  validatePrfMode profile prfMode
  checkMask sfdId
    (if prfMode = 0 then profile.supportedBprfSfdIdMask else profile.supportedHprfSfdIdMask)
    profile.invalidSfdId

def validatePsduDataRate (profile : Profile) (psduDataRate : UInt8) : Check :=
  checkMax psduDataRate profile.supportedPsduDataRateMax profile.invalidPsduDataRate

def validatePreambleDuration (profile : Profile) (preambleDuration : UInt8) : Check :=
  checkMax preambleDuration profile.supportedPreambleDurationMax profile.invalidPreambleDuration

def validateStsLength (profile : Profile) (stsLength : UInt8) : Check :=
  checkMax stsLength profile.supportedStsLengthMax profile.invalidStsLength

def validateKeyRotation (profile : Profile) (keyRotation : UInt8) : Check :=
  checkMax keyRotation profile.supportedKeyRotationMax profile.invalidKeyRotation

def validateKeyRotationRate (profile : Profile) (keyRotationRate : UInt8) : Check :=
  checkMax keyRotationRate profile.supportedKeyRotationRateMax profile.invalidKeyRotationRate

def validateNumberOfStsSegments (profile : Profile) (numberOfStsSegments : UInt8) : Check :=
  checkMax numberOfStsSegments profile.supportedNumberOfStsSegmentsMax
    profile.invalidNumberOfStsSegments

def validateLinkLayerMode (profile : Profile) (linkLayerMode : UInt8) : Check :=
  checkMax linkLayerMode profile.supportedLinkLayerModeMax profile.invalidLinkLayerMode

def validateRangingTimeStruct (profile : Profile) (rangingTimeStruct : UInt8) : Check :=
  checkMask rangingTimeStruct profile.supportedRangingTimeStructMask
    profile.invalidRangingTimeStruct

def validateScheduledMode (profile : Profile) (scheduledMode : UInt8) : Check :=
  checkMask scheduledMode profile.supportedScheduledModeMask profile.invalidScheduledMode

def validateBlockStrideLength (profile : Profile) (blockStrideLength : UInt8) : Check :=
  checkMax blockStrideLength profile.supportedMaxBlockStrideLength
    profile.invalidBlockStrideLength

def validateSlotsPerRr (profile : Profile) (slotsPerRr : UInt8) : Check :=
  checkRange slotsPerRr profile.supportedMinSlotsPerRr profile.supportedMaxSlotsPerRr
    profile.invalidSlotsPerRr

def validateRssiReporting (profile : Profile) (rssiReporting : UInt8) : Check :=
  checkMax rssiReporting profile.supportedRssiReportingMax profile.invalidRssiReporting

def validateRangingRoundUsage (profile : Profile) (rangingRoundUsage : UInt8) : Check :=
  checkMask16 rangingRoundUsage profile.supportedRangingRoundUsageMask
    profile.invalidRangingRoundUsage

def validateDeviceType (profile : Profile) (deviceType : UInt8) : Check :=
  checkMask deviceType profile.supportedDeviceTypeMask profile.invalidDeviceType

def validateNumberOfControlees (profile : Profile) (numberOfControlees : UInt8) : Check :=
  checkMax numberOfControlees profile.supportedMaxControlees profile.invalidNumOfControlees

def validateMacAddressMode (profile : Profile) (macAddressMode : UInt8) : Check :=
  checkMask macAddressMode profile.supportedMacAddressModeMask profile.invalidMacAddressMode

def validateDeviceMacAddress (profile : Profile) (value : List UInt8)
    (macAddressMode : UInt8) : Check :=
  if macAddressMode = macAddressModeShort then
    require (value.length = 2) profile.invalidDeviceMacAddress
  else if macAddressMode = macAddressModeExtended then
    require (value.length = 8) profile.invalidDeviceMacAddress
  else validateMacAddressMode profile macAddressMode

def validateDstMacAddress (profile : Profile) (value : List UInt8) : Check :=
  require (value.length ≠ 0 ∧ value.length % 2 = 0 ∧
      value.length/2 ≤ profile.supportedMaxControlees.toNat)
    profile.invalidDstMacAddress

def validateMultiNodeMode (profile : Profile) (multiNodeMode : UInt8) : Check :=
  checkMask multiNodeMode profile.supportedMultiNodeModeMask profile.invalidMultiNodeMode

def validateChannelNumber (profile : Profile) (channelNumber : UInt8) : Check :=
  checkMask16 channelNumber profile.supportedChannelNumberMask profile.invalidChannelNumber

namespace Session

abbrev deviceTypeReader : Reader := ⟨appConfigDeviceType,1⟩
abbrev deviceRoleReader : Reader := ⟨appConfigDeviceRole,1⟩
abbrev multiNodeModeReader : Reader := ⟨appConfigMultiNodeMode,1⟩
abbrev macAddressModeReader : Reader := ⟨appConfigMacAddressMode,1⟩
abbrev numberOfControleesReader : Reader := ⟨appConfigNumberOfControlees,1⟩
abbrev deviceMacAddressReader : Reader := ⟨appConfigDeviceMacAddress,maxConfigValue⟩
abbrev dstMacAddressReader : Reader := ⟨appConfigDstMacAddress,maxConfigValue⟩
abbrev slotsPerRrReader : Reader := ⟨appConfigSlotsPerRr,1⟩
abbrev blockStrideLengthReader : Reader := ⟨appConfigBlockStrideLength,1⟩
abbrev rangingTimeStructReader : Reader := ⟨appConfigRangingTimeStruct,1⟩
abbrev scheduledModeReader : Reader := ⟨appConfigScheduledMode,1⟩
abbrev capSizeRangeReader : Reader := ⟨appConfigCapSizeRange,2⟩
abbrev slotDurationReader : Reader := ⟨appConfigSlotDuration,2⟩
abbrev channelNumberReader : Reader := ⟨appConfigChannelNumber,1⟩
abbrev stsConfigReader : Reader := ⟨appConfigStsConfig,1⟩
abbrev prfModeReader : Reader := ⟨appConfigPrfMode,1⟩
abbrev preambleCodeIndexReader : Reader := ⟨appConfigPreambleCodeIndex,1⟩
abbrev sfdIdReader : Reader := ⟨appConfigSfdId,1⟩
abbrev psduDataRateReader : Reader := ⟨appConfigPsduDataRate,1⟩
abbrev preambleDurationReader : Reader := ⟨appConfigPreambleDuration,1⟩
abbrev stsLengthReader : Reader := ⟨appConfigStsLength,1⟩
abbrev keyRotationReader : Reader := ⟨appConfigKeyRotation,1⟩
-- The start check declares a single `uint8_t` for this two-byte parameter.
abbrev keyRotationRateReader : Reader := ⟨appConfigKeyRotationRate,1⟩
abbrev numberOfStsSegmentsReader : Reader := ⟨appConfigNumberOfStsSegments,1⟩
abbrev maxRrRetryReader : Reader := ⟨appConfigMaxRrRetry,2⟩
abbrev linkLayerModeReader : Reader := ⟨appConfigLinkLayerMode,1⟩

def getU8Config (session : Session) (reader : Reader) (invalid : InvalidConfig) :
    Except InvalidConfig UInt8 :=
  match session.read reader with
  | some [value] => .ok value
  | _ => .error invalid

def getU16Config (session : Session) (reader : Reader) (invalid : InvalidConfig) :
    Except InvalidConfig (UInt8 × UInt8) :=
  match session.read reader with
  | some [b0,b1] => .ok (b0,b1)
  | _ => .error invalid

def getBytesConfig (session : Session) (reader : Reader) (invalid : InvalidConfig) :
    Except InvalidConfig (List UInt8) :=
  match session.read reader with
  | some value => .ok value
  | none => .error invalid

/-- The value under test replaces the stored one of its own identifier. -/
def contextU8 (session : Session) (reader : Reader) (overrideConfigId : UInt8)
    (overrideValue : List UInt8) (invalid : InvalidConfig) : Except InvalidConfig UInt8 :=
  if overrideConfigId = reader.configId then
    match overrideValue with
    | [value] => .ok value
    | _ => .error invalid
  else session.getU8Config reader invalid

end Session

open Session

def deviceRoleInvalid : InvalidConfig :=
  ⟨statusInvalidParam,reasonStateChangeWithSessionManagementCommands,
    invalidConfigSurfaceImmediate⟩

def validateDeviceTypeRolePair (profile : Profile) (session : Session) : Check := do
  let deviceType ← session.getU8Config deviceTypeReader profile.invalidDeviceType
  validateDeviceType profile deviceType
  let deviceRole ← session.getU8Config deviceRoleReader deviceRoleInvalid
  if deviceRole = deviceRoleResponder then
    require (deviceType = deviceTypeControlee) profile.invalidDeviceType
  else if deviceRole = deviceRoleInitiator then
    require (deviceType = deviceTypeController) profile.invalidDeviceType
  else .ok ()

def validateMultiNodeModeTopology (profile : Profile) (session : Session) : Check := do
  let multiNodeMode ← session.getU8Config multiNodeModeReader profile.invalidMultiNodeMode
  validateMultiNodeMode profile multiNodeMode
  let macAddressMode ← session.getU8Config macAddressModeReader profile.invalidMacAddressMode
  validateMacAddressMode profile macAddressMode
  let numberOfControlees ←
    session.getU8Config numberOfControleesReader profile.invalidNumOfControlees
  validateNumberOfControlees profile numberOfControlees
  let deviceMac ←
    session.getBytesConfig deviceMacAddressReader profile.invalidDeviceMacAddress
  validateDeviceMacAddress profile deviceMac macAddressMode
  let dstMac ← session.getBytesConfig dstMacAddressReader profile.invalidDstMacAddress
  validateDstMacAddress profile dstMac
  require (dstMac.length/2 = numberOfControlees.toNat) profile.invalidNumOfControlees
  require (¬ (multiNodeMode = 0x00 ∧ (numberOfControlees ≠ 1 ∨ dstMac.length ≠ 2)))
    profile.invalidMultiNodeMode

def validateSlotTopologyContext (profile : Profile) (session : Session)
    (overrideConfigId : UInt8) (overrideValue : List UInt8) : Check := do
  let invalid := profile.invalidSlotsPerRr
  let slotsPerRr ← session.contextU8 slotsPerRrReader overrideConfigId overrideValue invalid
  validateSlotsPerRr profile slotsPerRr
  let responderSlotIndex ←
    session.contextU8 responderSlotIndexReader overrideConfigId overrideValue invalid
  require (responderSlotIndex < slotsPerRr) invalid

def validateBlockStrideContext (profile : Profile) (session : Session)
    (overrideConfigId : UInt8) (overrideValue : List UInt8) : Check := do
  let invalid := profile.invalidBlockStrideLength
  let blockStrideLength ←
    session.contextU8 blockStrideLengthReader overrideConfigId overrideValue invalid
  validateBlockStrideLength profile blockStrideLength
  if blockStrideLength = 0 then .ok ()
  else do
    let rangingTimeStruct ←
      session.contextU8 rangingTimeStructReader overrideConfigId overrideValue invalid
    let scheduledMode ←
      session.contextU8 scheduledModeReader overrideConfigId overrideValue invalid
    require (rangingTimeStruct = 0x01 ∧ scheduledMode = scheduledModeTimeScheduled) invalid

def validateCapSizeRangeContext (profile : Profile) (session : Session)
    (overrideConfigId : UInt8) (overrideValue : List UInt8) : Check := do
  let invalid := profile.invalidCapSizeRange
  let (capSizeMax,capSizeMin) ←
    if overrideConfigId = appConfigCapSizeRange then
      match overrideValue with
      | [b0,b1] => .ok (b0,b1)
      | _ => .error invalid
    else session.getU16Config capSizeRangeReader invalid
  require (capSizeMin ≤ capSizeMax) invalid
  if capSizeMin = 0 ∧ capSizeMax = 0 then .ok ()
  else do
    let scheduledMode ←
      session.contextU8 scheduledModeReader overrideConfigId overrideValue invalid
    let slotsPerRr ←
      session.contextU8 slotsPerRrReader overrideConfigId overrideValue invalid
    require (scheduledMode = scheduledModeContentionBased ∧ slotsPerRr ≠ 0 ∧
      capSizeMax ≤ slotsPerRr-1) invalid

def requireConfigLength (profile : Profile) (session : Session) (configId : UInt8)
    (lengths : List ℕ) : Check :=
  match session.getConfig configId with
  | some value => require (value.length ∈ lengths) profile.invalidStsConfig
  | none => .error profile.invalidStsConfig

def validateStsDependencies (profile : Profile) (session : Session) (stsConfig : UInt8) :
    Check :=
  if stsConfig = 0x00 then requireConfigLength profile session appConfigStaticStsIv [8]
  else if stsConfig = 0x03 then
    requireConfigLength profile session appConfigSessionKey [16,32]
  else if stsConfig = 0x04 then do
    requireConfigLength profile session appConfigSessionKey [16,32]
    requireConfigLength profile session appConfigSubsessionKey [16,32]
  else .ok ()

def expectU8 (value : List UInt8) (invalid : InvalidConfig) (check : UInt8 → Check) : Check :=
  match value with
  | [b] => check b
  | _ => .error { invalid with status := statusInvalidParam }

def expectU16 (value : List UInt8) (invalid : InvalidConfig) (check : UInt8 → UInt8 → Check) :
    Check :=
  match value with
  | [b0,b1] => check b0 b1
  | _ => .error { invalid with status := statusInvalidParam }

def validateSessionAppConfig (profile : Profile) (session : Session) (configId : UInt8)
    (value : List UInt8) : Check :=
  if configId = appConfigDeviceType then
    expectU8 value profile.invalidDeviceType (validateDeviceType profile)
  else if configId = appConfigMultiNodeMode then
    expectU8 value profile.invalidMultiNodeMode (validateMultiNodeMode profile)
  else if configId = appConfigChannelNumber then
    expectU8 value profile.invalidChannelNumber (validateChannelNumber profile)
  else if configId = appConfigNumberOfControlees then
    expectU8 value profile.invalidNumOfControlees (validateNumberOfControlees profile)
  else if configId = appConfigMacAddressMode then
    expectU8 value profile.invalidMacAddressMode (validateMacAddressMode profile)
  else if configId = appConfigDeviceMacAddress then
    validateDeviceMacAddress profile value
      (session.readU8 macAddressModeReader macAddressModeShort)
  else if configId = appConfigDstMacAddress then validateDstMacAddress profile value
  else if configId = appConfigStsConfig then
    expectU8 value profile.invalidStsConfig (validateStsConfig profile)
  else if configId = appConfigResultReportConfig then
    expectU8 value
      ⟨statusInvalidParam,reasonErrorInvalidResultReportConfig,invalidConfigSurfaceImmediate⟩
      (validateResultReportConfig profile)
  else if configId = appConfigAoaResultReq then
    expectU8 value profile.invalidAoaResultReq (validateAoaResultReq profile)
  else if configId = appConfigPrfMode then
    expectU8 value profile.invalidPrfMode (validatePrfMode profile)
  else if configId = appConfigPreambleCodeIndex then
    expectU8 value profile.invalidPreambleCodeIndex (fun preambleCodeIndex =>
      validatePreambleCodeIndex profile preambleCodeIndex (session.readU8 prfModeReader 0))
  else if configId = appConfigSfdId then
    expectU8 value profile.invalidSfdId (fun sfdId =>
      validateSfdId profile sfdId (session.readU8 prfModeReader 0))
  else if configId = appConfigPsduDataRate then
    expectU8 value profile.invalidPsduDataRate (validatePsduDataRate profile)
  else if configId = appConfigPreambleDuration then
    expectU8 value profile.invalidPreambleDuration (validatePreambleDuration profile)
  else if configId = appConfigStsLength then
    expectU8 value profile.invalidStsLength (validateStsLength profile)
  else if configId = appConfigKeyRotation then
    expectU8 value profile.invalidKeyRotation (validateKeyRotation profile)
  else if configId = appConfigKeyRotationRate then
    expectU16 value profile.invalidKeyRotationRate (fun b0 _ =>
      validateKeyRotationRate profile b0)
  else if configId = appConfigNumberOfStsSegments then
    expectU8 value profile.invalidNumberOfStsSegments (validateNumberOfStsSegments profile)
  else if configId = appConfigMaxRrRetry then
    expectU16 value
      ⟨statusInvalidParam,reasonStateChangeWithSessionManagementCommands,
        invalidConfigSurfaceImmediate⟩
      (fun _ _ => .ok ())
  else if configId = appConfigLinkLayerMode then
    expectU8 value profile.invalidLinkLayerMode (validateLinkLayerMode profile)
  else if configId = appConfigSlotDuration then
    expectU16 value profile.invalidSlotDuration (fun b0 b1 =>
      validateSlotDurationRstu profile (readU16Le [b0,b1] 0))
  else if configId = appConfigRangingTimeStruct then
    expectU8 value profile.invalidRangingTimeStruct (fun rangingTimeStruct => do
      validateRangingTimeStruct profile rangingTimeStruct
      validateBlockStrideContext profile session configId value)
  else if configId = appConfigScheduledMode then
    expectU8 value profile.invalidScheduledMode (fun scheduledMode => do
      validateScheduledMode profile scheduledMode
      validateBlockStrideContext profile session configId value
      validateCapSizeRangeContext profile session configId value)
  else if configId = appConfigBlockStrideLength then
    expectU8 value profile.invalidBlockStrideLength (fun blockStrideLength => do
      validateBlockStrideLength profile blockStrideLength
      validateBlockStrideContext profile session configId value)
  else if configId = appConfigSlotsPerRr then
    expectU8 value profile.invalidSlotsPerRr (fun slotsPerRr => do
      validateSlotsPerRr profile slotsPerRr
      validateSlotTopologyContext profile session configId value
      validateCapSizeRangeContext profile session configId value)
  else if configId = appConfigResponderSlotIndex then
    expectU8 value profile.invalidSlotsPerRr (fun _ =>
      validateSlotTopologyContext profile session configId value)
  else if configId = appConfigRssiReporting then
    expectU8 value profile.invalidRssiReporting (validateRssiReporting profile)
  else if configId = appConfigCapSizeRange then
    expectU16 value profile.invalidCapSizeRange (fun _ _ =>
      validateCapSizeRangeContext profile session configId value)
  else if configId = appConfigRangingRoundUsage then
    expectU8 value profile.invalidRangingRoundUsage (validateRangingRoundUsage profile)
  else if configId = appConfigRangingInterval then
    match value with
    | [b0,b1,b2,b3] => validateRangingIntervalMs profile (readU32Le [b0,b1,b2,b3] 0)
    | _ => .error ⟨statusInvalidParam,reasonErrorInvalidRangingInterval,
        invalidConfigSurfaceImmediate⟩
  else .ok ()

/-- No parameter has this identifier: the stored values alone are judged. -/
abbrev noOverride : UInt8 := 0xFF

def validateSessionStart (profile : Profile) (session : Session) : Check := do
  validateRangingIntervalMs profile (session.getRangingIntervalMs profile)
  validateDeviceTypeRolePair profile session
  validateMultiNodeModeTopology profile session
  let (slot0,slot1) ← session.getU16Config slotDurationReader profile.invalidSlotDuration
  validateSlotDurationRstu profile (readU16Le [slot0,slot1] 0)
  let channelNumber ← session.getU8Config channelNumberReader profile.invalidChannelNumber
  validateChannelNumber profile channelNumber
  let stsConfig ← session.getU8Config stsConfigReader profile.invalidStsConfig
  validateStsConfig profile stsConfig
  validateStsDependencies profile session stsConfig
  validateResultReportConfig profile session.getResultReportConfig
  validateAoaResultReq profile session.getAoaResultReq
  let prfMode ← session.getU8Config prfModeReader profile.invalidPrfMode
  validatePrfMode profile prfMode
  let preambleCodeIndex ←
    session.getU8Config preambleCodeIndexReader profile.invalidPreambleCodeIndex
  validatePreambleCodeIndex profile preambleCodeIndex prfMode
  let sfdId ← session.getU8Config sfdIdReader profile.invalidSfdId
  validateSfdId profile sfdId prfMode
  let psduDataRate ← session.getU8Config psduDataRateReader profile.invalidPsduDataRate
  validatePsduDataRate profile psduDataRate
  let preambleDuration ←
    session.getU8Config preambleDurationReader profile.invalidPreambleDuration
  validatePreambleDuration profile preambleDuration
  let stsLength ← session.getU8Config stsLengthReader profile.invalidStsLength
  validateStsLength profile stsLength
  let keyRotation ← session.getU8Config keyRotationReader profile.invalidKeyRotation
  validateKeyRotation profile keyRotation
  require (¬ (keyRotation ≠ 0 ∧ stsConfig ≠ 0x01 ∧ stsConfig ≠ 0x02 ∧ stsConfig ≠ 0x03 ∧
    stsConfig ≠ 0x04)) profile.invalidKeyRotation
  let (keyRotationRate,_) ←
    session.getU16Config keyRotationRateReader profile.invalidKeyRotationRate
  validateKeyRotationRate profile keyRotationRate
  let numberOfStsSegments ←
    session.getU8Config numberOfStsSegmentsReader profile.invalidNumberOfStsSegments
  validateNumberOfStsSegments profile numberOfStsSegments
  let _ ← session.getU16Config maxRrRetryReader
    ⟨statusInvalidParam,reasonStateChangeWithSessionManagementCommands,
      invalidConfigSurfaceImmediate⟩
  let linkLayerMode ← session.getU8Config linkLayerModeReader profile.invalidLinkLayerMode
  validateLinkLayerMode profile linkLayerMode
  let rangingTimeStruct ←
    session.getU8Config rangingTimeStructReader profile.invalidRangingTimeStruct
  validateRangingTimeStruct profile rangingTimeStruct
  let scheduledMode ← session.getU8Config scheduledModeReader profile.invalidScheduledMode
  validateScheduledMode profile scheduledMode
  let blockStrideLength ←
    session.getU8Config blockStrideLengthReader profile.invalidBlockStrideLength
  validateBlockStrideLength profile blockStrideLength
  validateBlockStrideContext profile session noOverride []
  let slotsPerRr ← session.getU8Config slotsPerRrReader profile.invalidSlotsPerRr
  validateSlotsPerRr profile slotsPerRr
  validateSlotTopologyContext profile session noOverride []
  validateCapSizeRangeContext profile session noOverride []
  validateRssiReporting profile session.getRssiReporting
  validateRangingRoundUsage profile session.getRangingRoundUsage

end UciSim
