import UciSim.Packet

/-!
# Device profiles

A profile owns the versions, the supported identifiers, the session defaults
and the limits every validated parameter is held to. The three fields
`invalid_*_status`, `_reason_code` and `_surface` of a parameter are one
`InvalidConfig`; an array with its count is a list.
-/

set_option autoImplicit false

namespace UciSim

structure SessionTransition where
  oid : UInt8
  allowedStatesMask : UInt8
  nextState : UInt8
  invalidStatus : UInt8
  deriving DecidableEq, Repr

abbrev invalidConfigSurfaceImmediate : UInt8 := 0
abbrev invalidConfigSurfaceSessionStatus : UInt8 := 1

structure InvalidConfig where
  status : UInt8
  reasonCode : UInt8
  surface : UInt8
  deriving DecidableEq, Repr

structure Profile where
  uciVersion : UInt16
  macVersion : UInt16
  phyVersion : UInt16
  testVersion : UInt16
  vendorSpecificData : List UInt8
  deviceStatsTemperature : Int16
  defaultDeviceState : UInt8
  defaultLowPowerMode : UInt8
  defaultDevicePanId : UInt8 × UInt8
  initialUwbsTimestamp : UInt64
  uwbsTimestampIncrement : UInt64
  defaultSessionType : UInt8
  initialSessionState : UInt8
  sessionStatusReasonCode : UInt8
  supportedMinRangingIntervalMs : UInt16
  invalidRangingInterval : InvalidConfig
  supportedMinSlotDurationRstu : UInt16
  invalidSlotDuration : InvalidConfig
  supportedResultReportConfigMask : UInt8
  invalidResultReportConfig : InvalidConfig
  supportedStsConfigMask : UInt8
  invalidStsConfig : InvalidConfig
  supportedAoaResultReqMax : UInt8
  invalidAoaResultReq : InvalidConfig
  supportedPrfModeMax : UInt8
  invalidPrfMode : InvalidConfig
  supportedBprfPreambleCodeIndexMin : UInt8
  supportedBprfPreambleCodeIndexMax : UInt8
  supportedHprfPreambleCodeIndexMin : UInt8
  supportedHprfPreambleCodeIndexMax : UInt8
  invalidPreambleCodeIndex : InvalidConfig
  supportedBprfSfdIdMask : UInt8
  supportedHprfSfdIdMask : UInt8
  invalidSfdId : InvalidConfig
  supportedPsduDataRateMax : UInt8
  invalidPsduDataRate : InvalidConfig
  supportedPreambleDurationMax : UInt8
  invalidPreambleDuration : InvalidConfig
  supportedStsLengthMax : UInt8
  invalidStsLength : InvalidConfig
  supportedKeyRotationMax : UInt8
  invalidKeyRotation : InvalidConfig
  supportedKeyRotationRateMax : UInt8
  invalidKeyRotationRate : InvalidConfig
  supportedNumberOfStsSegmentsMax : UInt8
  invalidNumberOfStsSegments : InvalidConfig
  supportedLinkLayerModeMax : UInt8
  invalidLinkLayerMode : InvalidConfig
  supportedRangingTimeStructMask : UInt8
  invalidRangingTimeStruct : InvalidConfig
  supportedScheduledModeMask : UInt8
  invalidScheduledMode : InvalidConfig
  supportedMaxBlockStrideLength : UInt8
  invalidBlockStrideLength : InvalidConfig
  supportedMinSlotsPerRr : UInt8
  supportedMaxSlotsPerRr : UInt8
  invalidSlotsPerRr : InvalidConfig
  invalidCapSizeRange : InvalidConfig
  supportedRssiReportingMax : UInt8
  invalidRssiReporting : InvalidConfig
  supportedRangingRoundUsageMask : UInt16
  invalidRangingRoundUsage : InvalidConfig
  supportedMultiNodeModeMask : UInt8
  invalidMultiNodeMode : InvalidConfig
  supportedChannelNumberMask : UInt16
  invalidChannelNumber : InvalidConfig
  supportedMaxControlees : UInt8
  invalidNumOfControlees : InvalidConfig
  supportedMacAddressModeMask : UInt8
  invalidMacAddressMode : InvalidConfig
  invalidDeviceMacAddress : InvalidConfig
  invalidDstMacAddress : InvalidConfig
  supportedDeviceTypeMask : UInt8
  invalidDeviceType : InvalidConfig
  sessionTransitions : List SessionTransition
  defaultSessionMaxDataSize : UInt16
  rangingIntervalMs : UInt32
  rangingStreamBurstCount : UInt8
  coreCapsPayload : List UInt8
  rangeDataNotificationOid : UInt8
  /-- The bytes the initialiser names; the array's remaining ones are zero. -/
  rangeDataPayloadTemplate : List UInt8
  rangeDataPayloadLen : UInt16
  rangeDataSequenceOffset : UInt8
  rangeDataPrimarySessionIdOffset : UInt8
  rangeDataSecondarySessionIdOffset : UInt8
  rangeDataIntervalOffset : UInt8
  rangeDataMeasurementTypeOffset : UInt8
  rangeDataMeasurementDistanceOffset : UInt8
  rangeDataDistanceBaseCm : UInt16
  rangeDataDistanceStepCm : UInt16
  supportedCoreOids : List UInt8
  supportedSessionConfigOids : List UInt8
  supportedSessionControlOids : List UInt8
  supportedCoreConfigIds : List UInt8
  supportedSessionAppConfigIds : List UInt8
  defaultSessionAppConfigs : List (UInt8 × List UInt8)

abbrev defaultMinRangingIntervalMs : UInt16 := 50

/-- A limit of the shipped profile is reported at once. -/
def immediately (status reason : UInt8) : InvalidConfig :=
  ⟨status, reason, invalidConfigSurfaceImmediate⟩

def defaultProfile : Profile where
  uciVersion := 0x0100
  macVersion := 0x0200
  phyVersion := 0x0200
  testVersion := 0x0100
  vendorSpecificData := [
    0x01, 0x00, 0x00, 0x00, 0x42, 0x00, 0x00, 0x00, 0x00, 0x00, 0x00, 0x00, 0x01, 0x00, 0x00, 0x51,
    0x4D, 0x33, 0x35, 0x38, 0x32, 0x35, 0x00, 0x00, 0x00, 0x00, 0x00, 0x00, 0x00, 0x00, 0x00, 0x00,
    0x00, 0x00, 0x00, 0x00, 0x00, 0x00, 0x00, 0x00, 0x00, 0x00, 0x00, 0x00, 0x00, 0x00, 0x00, 0xED,
    0x8B, 0x00, 0x00, 0x01, 0x51, 0x4D, 0x33, 0x35, 0x38, 0x32, 0x35, 0x5F, 0x53, 0x49, 0x50, 0x5F,
    0x56, 0x31, 0x2E, 0x30, 0x20, 0x20, 0x20, 0x20, 0x20, 0x20, 0x20, 0x20, 0xED, 0x8B, 0x00, 0x00,
    0x02, 0x00, 0x00, 0x00, 0x01, 0x00]
  deviceStatsTemperature := 3500
  defaultDeviceState := deviceStateReady
  defaultLowPowerMode := 0x00
  defaultDevicePanId := (0x00, 0x00)
  initialUwbsTimestamp := 0x1122334455667788
  uwbsTimestampIncrement := 1
  defaultSessionType := sessionTypeRanging
  initialSessionState := sessionStateInit
  sessionStatusReasonCode := reasonStateChangeWithSessionManagementCommands
  supportedMinRangingIntervalMs := defaultMinRangingIntervalMs
  invalidRangingInterval := immediately statusInvalidRange reasonErrorInvalidRangingInterval
  supportedMinSlotDurationRstu := 16
  invalidSlotDuration := immediately statusInvalidParam reasonErrorSlotLengthNotSupported
  supportedResultReportConfigMask := 0x0F
  invalidResultReportConfig :=
    immediately statusInvalidParam reasonErrorInvalidResultReportConfig
  supportedStsConfigMask := 0x1F
  invalidStsConfig := immediately statusInvalidParam reasonErrorInvalidStsConfig
  supportedAoaResultReqMax := 0x03
  invalidAoaResultReq :=
    immediately statusInvalidParam reasonStateChangeWithSessionManagementCommands
  supportedPrfModeMax := 0x02
  invalidPrfMode :=
    immediately statusInvalidParam reasonStateChangeWithSessionManagementCommands
  supportedBprfPreambleCodeIndexMin := 9
  supportedBprfPreambleCodeIndexMax := 12
  supportedHprfPreambleCodeIndexMin := 25
  supportedHprfPreambleCodeIndexMax := 32
  invalidPreambleCodeIndex :=
    immediately statusInvalidParam reasonErrorInvalidPreambleCodeIndex
  supportedBprfSfdIdMask := 0b00101
  supportedHprfSfdIdMask := 0b11110
  invalidSfdId := immediately statusInvalidParam reasonErrorInvalidSfdId
  supportedPsduDataRateMax := 0x03
  invalidPsduDataRate := immediately statusInvalidParam reasonErrorInvalidPsduDataRate
  supportedPreambleDurationMax := 0x01
  invalidPreambleDuration :=
    immediately statusInvalidParam reasonErrorInvalidPreambleDuration
  supportedStsLengthMax := 0x02
  invalidStsLength := immediately statusInvalidParam reasonErrorInvalidStsLength
  supportedKeyRotationMax := 0x01
  invalidKeyRotation :=
    immediately statusInvalidParam reasonStateChangeWithSessionManagementCommands
  supportedKeyRotationRateMax := 0x0F
  invalidKeyRotationRate :=
    immediately statusInvalidParam reasonStateChangeWithSessionManagementCommands
  supportedNumberOfStsSegmentsMax := 0x04
  invalidNumberOfStsSegments :=
    immediately statusInvalidParam reasonStateChangeWithSessionManagementCommands
  supportedLinkLayerModeMax := 0x01
  invalidLinkLayerMode :=
    immediately statusInvalidParam reasonStateChangeWithSessionManagementCommands
  supportedRangingTimeStructMask := 0b11
  invalidRangingTimeStruct :=
    immediately statusInvalidParam reasonStateChangeWithSessionManagementCommands
  supportedScheduledModeMask := 1 <<< scheduledModeTimeScheduled
  invalidScheduledMode :=
    immediately statusInvalidParam reasonStateChangeWithSessionManagementCommands
  supportedMaxBlockStrideLength := 0xFF
  invalidBlockStrideLength :=
    immediately statusInvalidParam reasonStateChangeWithSessionManagementCommands
  supportedMinSlotsPerRr := 1
  supportedMaxSlotsPerRr := 0xFF
  invalidSlotsPerRr := immediately statusInvalidParam reasonErrorInsufficientSlotsPerRr
  invalidCapSizeRange := immediately statusInvalidParam reasonErrorInvalidCapSizeRange
  supportedRssiReportingMax := 0x01
  invalidRssiReporting :=
    immediately statusInvalidParam reasonStateChangeWithSessionManagementCommands
  supportedRangingRoundUsageMask := 0b1_1001_1110
  invalidRangingRoundUsage :=
    immediately statusInvalidParam reasonErrorInvalidRangingRoundUsage
  supportedMultiNodeModeMask := 0b111
  invalidMultiNodeMode := immediately statusInvalidParam reasonErrorInvalidMultiNodeMode
  supportedChannelNumberMask := 0b10_0010_0000
  invalidChannelNumber :=
    immediately statusInvalidParam reasonStateChangeWithSessionManagementCommands
  supportedMaxControlees := 8
  invalidNumOfControlees :=
    immediately statusInvalidParam reasonErrorInvalidNumOfControlees
  supportedMacAddressModeMask := 1 <<< macAddressModeShort
  invalidMacAddressMode :=
    immediately statusInvalidParam reasonErrorMacAddressModeNotSupported
  invalidDeviceMacAddress :=
    immediately statusInvalidParam reasonStateChangeWithSessionManagementCommands
  invalidDstMacAddress := immediately statusInvalidParam reasonErrorInvalidDstAddressList
  supportedDeviceTypeMask := (1 <<< deviceTypeControlee) ||| (1 <<< deviceTypeController)
  invalidDeviceType :=
    immediately statusInvalidParam reasonStateChangeWithSessionManagementCommands
  sessionTransitions := [
    { oid := sessionStart
      allowedStatesMask := (1 <<< sessionStateInit) ||| (1 <<< sessionStateIdle)
      nextState := sessionStateActive
      invalidStatus := statusRejected },
    { oid := sessionStop
      allowedStatesMask := 1 <<< sessionStateActive
      nextState := sessionStateIdle
      invalidStatus := statusRejected }]
  defaultSessionMaxDataSize := 0x0200
  rangingIntervalMs := 2000
  rangingStreamBurstCount := 3
  coreCapsPayload := [statusOk, 0x01, 0xE4, 0x04,
    (defaultMinRangingIntervalMs &&& 0xFF).toUInt8,
    ((defaultMinRangingIntervalMs >>> 8) &&& 0xFF).toUInt8, 0x00, 0x00]
  rangeDataNotificationOid := sessionStart
  rangeDataPayloadTemplate := [
    0x00, 0x00, 0x00, 0x00, 0x00, 0x00, 0x00, 0x00, 0x00, 0xD0, 0x07, 0x00, 0x00, 0x01, 0x00, 0x00,
    0x00, 0x00, 0x00, 0x00, 0x00, 0x00, 0x00, 0x00, 0x01, 0x12, 0x34, 0x00, 0x00, 0x64, 0x00, 0x14,
    0x00, 0x08, 0x05, 0x00, 0x07, 0x10, 0x00, 0x06, 0x03, 0x00, 0x09, 0x02, 0xE0, 0x00, 0x00, 0x00,
    0x00, 0x00, 0x00, 0x00]
  rangeDataPayloadLen := 52
  rangeDataSequenceOffset := 0
  rangeDataPrimarySessionIdOffset := 4
  rangeDataSecondarySessionIdOffset := 16
  rangeDataIntervalOffset := 9
  rangeDataMeasurementTypeOffset := 13
  rangeDataMeasurementDistanceOffset := 29
  rangeDataDistanceBaseCm := 100
  rangeDataDistanceStepCm := 5
  supportedCoreOids := [coreDeviceReset, coreDeviceInfo, coreGetCapsInfo, coreSetConfig,
    coreGetConfig, coreQueryUwbsTimestamp]
  supportedSessionConfigOids := [sessionInit, sessionDeinit, sessionSetAppConfig,
    sessionGetAppConfig, sessionGetCount, sessionGetState,
    sessionUpdateControllerMulticastList, sessionUpdateDtAnchorRangingRounds,
    sessionUpdateDtTagRangingRounds, sessionDataTransferPhaseConfig,
    sessionQueryDataSizeInRanging]
  supportedSessionControlOids := [sessionStart, sessionStop, sessionGetRangingCount,
    sessionLogicalLinkCreate, sessionLogicalLinkClose, sessionLogicalLinkGetParam]
  supportedCoreConfigIds := [deviceConfigDeviceState, deviceConfigLowPowerMode,
    deviceConfigDevicePanId]
  supportedSessionAppConfigIds := [
    0x00, 0x01, 0x02, 0x03, 0x04, 0x05, 0x06, 0x07, 0x08, 0x09, 0x0A, 0x0B, 0x0C, 0x0D, 0x0E, 0x0F,
    0x10, 0x11, 0x12, 0x13, 0x14, 0x15, 0x16, 0x17, 0x18, 0x19, 0x1A, 0x1B, 0x1C, 0x1D, 0x1E, 0x1F,
    0x20, 0x21, 0x22, 0x23, 0x24, 0x25, 0x26, 0x27, 0x28, 0x29, 0x2A, 0x2B, 0x2C, 0x2D, 0x2E, 0x2F,
    0x30, 0x31, 0x32, 0x33, 0x34, 0x35, 0x36, 0x37, 0x38, 0x39, 0x3A, 0x3B, 0x3C, 0x3D, 0x3E, 0x3F,
    0x40, 0x41, 0x42, 0x43, 0x44, 0x45, 0x46, 0x47, 0x49, 0x4A, 0x4B, 0x4C, 0x4D, 0xB6, 0xE6, 0xE7]
  defaultSessionAppConfigs := [
    (0x00, [0x01]), (0x01, [0x01]), (0x02, [0x01]), (0x03, [0x01]), (0x04, [0x05]),
    (0x05, [0x03]), (0x06, [0xCD, 0xAB]), (0x07, [0x78, 0x56, 0x89, 0x67, 0x9A, 0x78]),
    (0x08, [0x60, 0x09]), (0x09, [0xD0, 0x07, 0x00, 0x00]), (0x0A, [0x05, 0x00, 0x00, 0x00]),
    (0x0B, [0x01]), (0x0C, [0x05]), (0x0D, [0x03]), (0x0E, [0x01]), (0x0F, [0x64, 0x00]),
    (0x10, [0xF4, 0x01]), (0x11, [0x01]), (0x12, [0x02]), (0x13, [0x01]), (0x14, [0x0C]),
    (0x15, [0x02]), (0x16, [0x01]), (0x17, [0x01]), (0x18, [0x01]), (0x19, [0x00]),
    (0x1A, [0x00]), (0x1B, [0x06]), (0x1C, [0x01]), (0x1D, [0x2D, 0x00]), (0x1E, [0x00]),
    (0x1F, [0x00]), (0x20, [0x00, 0x00]), (0x21, [0x10, 0x00]), (0x22, [0x01]),
    (0x23, [0x01]), (0x24, [0x0F, 0x00]), (0x25, [0x4B]), (0x26, [0x00]),
    (0x27, [0x34, 0x12]), (0x28, [0x01, 0x02, 0x03, 0x04, 0x05, 0x06, 0x07, 0x08]),
    (0x29, [0x02]), (0x2A, [0x00, 0x00]), (0x2B, [0xE8, 0x03, 0x00, 0x00]), (0x2C, [0x01]),
    (0x2D, [0x00]), (0x2E, [0x07]), (0x2F, [0x04]), (0x30, [0x78, 0x56, 0x34, 0x12]),
    (0x31, [0x01]), (0x32, [0x10, 0x00]), (0x33, [0x64, 0x00, 0x00, 0x00]),
    (0x34, [0xFA, 0x00, 0x00, 0x00]), (0x35, [0x02]), (0x36, [0x03]),
    (0x37, [0x01, 0x02, 0x03]), (0x38, [0x07]), (0x39, [0x01]), (0x3A, [0x02]),
    (0x3B, [0x00, 0x04]), (0x3C, [0x05]), (0x3D, [0x01]), (0x3E, [0x03]), (0x3F, [0x01]),
    (0x40, [0x01]), (0x41, [0x00]), (0x42, [0x01]), (0x43, [0x01]), (0x44, [0x01]),
    (0x45, [0x00, 0x11, 0x22, 0x33, 0x44, 0x55, 0x66, 0x77,
      0x88, 0x99, 0xAA, 0xBB, 0xCC, 0xDD, 0xEE, 0xFF]),
    (0x46, [0xFF, 0xEE, 0xDD, 0xCC, 0xBB, 0xAA, 0x99, 0x88,
      0x77, 0x66, 0x55, 0x44, 0x33, 0x22, 0x11, 0x00]),
    (0x47, [0x01]), (0x49, [0x01]), (0x4A, [0x02]), (0x4B, [0x03]), (0x4C, [0x01]),
    (0x4D, [0x0A])]

namespace Profile

def supportsCommand (profile : Profile) (gid oid : UInt8) : Bool :=
  if gid = gidCore then profile.supportedCoreOids.contains oid
  else if gid = gidSessionConfig then profile.supportedSessionConfigOids.contains oid
  else if gid = gidSessionControl then profile.supportedSessionControlOids.contains oid
  else false

def supportsCoreConfig (profile : Profile) (configId : UInt8) : Bool :=
  profile.supportedCoreConfigIds.contains configId

def supportsSessionAppConfig (profile : Profile) (configId : UInt8) : Bool :=
  profile.supportedSessionAppConfigIds.contains configId

def getSessionTransition (profile : Profile) (oid : UInt8) : Option SessionTransition :=
  profile.sessionTransitions.find? (fun t => t.oid == oid)

end Profile

def supportsMulticastAction (action : UInt8) : Bool :=
  action == multicastActionAdd || action == multicastActionRemove ||
    action == multicastActionAddShortKey || action == multicastActionAddLongKey

end UciSim
