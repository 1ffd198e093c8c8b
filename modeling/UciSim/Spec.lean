import Mathlib.Data.List.Basic

/-!
# Protocol constants

The numbers of `uci_sim_spec.h` under the header's words. A constant of the
header that no modelled function reads is not repeated here.
-/

set_option autoImplicit false

namespace UciSim

abbrev headerSize : ℕ := 4
abbrev maxPayload : ℕ := 1024
abbrev maxPacket : ℕ := headerSize+maxPayload
abbrev maxSessions : ℕ := 8
abbrev maxMulticastEntries : ℕ := 8
abbrev maxLogicalLinks : ℕ := 8
abbrev maxDtRounds : ℕ := 32
abbrev maxPendingNotifications : ℕ := 8
abbrev maxScenarioEvents : ℕ := 8
abbrev maxDeviceConfigs : ℕ := 8
abbrev maxSessionConfigs : ℕ := 80
abbrev maxConfigValue : ℕ := 64
abbrev maxOutboundPackets : ℕ := 16

abbrev mtData : UInt8 := 0x0
abbrev mtCommand : UInt8 := 0x1
abbrev mtResponse : UInt8 := 0x2
abbrev mtNotification : UInt8 := 0x3

abbrev dataPacketFormatSend : UInt8 := 0x01

abbrev pbfComplete : UInt8 := 0x0
abbrev pbfNotComplete : UInt8 := 0x1

abbrev gidCore : UInt8 := 0x00
abbrev gidSessionConfig : UInt8 := 0x01
abbrev gidSessionControl : UInt8 := 0x02
abbrev gidQorvoExt2 : UInt8 := 0x0B
abbrev gidQorvoMac : UInt8 := 0x0E

abbrev statusOk : UInt8 := 0x00
abbrev statusRejected : UInt8 := 0x01
abbrev statusFailed : UInt8 := 0x02
abbrev statusInvalidParam : UInt8 := 0x04
abbrev statusInvalidRange : UInt8 := 0x05
abbrev statusInvalidMsgSize : UInt8 := 0x06
abbrev statusUnknownGid : UInt8 := 0x07
abbrev statusUnknownOid : UInt8 := 0x08
abbrev statusMulticastListFull : UInt8 := 0x17
abbrev statusAddressNotFound : UInt8 := 0x18
abbrev statusAddressAlreadyPresent : UInt8 := 0x19

abbrev coreDeviceReset : UInt8 := 0x00
abbrev coreDeviceStatusNtf : UInt8 := 0x01
abbrev coreDeviceInfo : UInt8 := 0x02
abbrev coreGetCapsInfo : UInt8 := 0x03
abbrev coreSetConfig : UInt8 := 0x04
abbrev coreGetConfig : UInt8 := 0x05
abbrev coreGenericError : UInt8 := 0x07
abbrev coreQueryUwbsTimestamp : UInt8 := 0x08

abbrev oidQorvoCoreGetDeviceStats : UInt8 := 0x27
abbrev oidQorvoMacSetCalibrations : UInt8 := 0x2A
abbrev oidQorvoMacGetCalibrations : UInt8 := 0x2B

abbrev sessionInit : UInt8 := 0x00
abbrev sessionDeinit : UInt8 := 0x01
abbrev sessionStatusNtf : UInt8 := 0x02
abbrev sessionSetAppConfig : UInt8 := 0x03
abbrev sessionGetAppConfig : UInt8 := 0x04
abbrev sessionGetCount : UInt8 := 0x05
abbrev sessionGetState : UInt8 := 0x06
abbrev sessionUpdateControllerMulticastList : UInt8 := 0x07
abbrev sessionUpdateDtAnchorRangingRounds : UInt8 := 0x08
abbrev sessionUpdateDtTagRangingRounds : UInt8 := 0x09
abbrev sessionDataTransferPhaseConfig : UInt8 := 0x0E
abbrev sessionQueryDataSizeInRanging : UInt8 := 0x0B

abbrev sessionStart : UInt8 := 0x00
abbrev sessionStop : UInt8 := 0x01
abbrev sessionGetRangingCount : UInt8 := 0x03
abbrev sessionDataCreditNtf : UInt8 := 0x04
abbrev sessionDataTransferStatusNtf : UInt8 := 0x05
abbrev sessionLogicalLinkCreate : UInt8 := 0x07
abbrev sessionLogicalLinkClose : UInt8 := 0x08
abbrev sessionLogicalLinkUwbsClose : UInt8 := 0x09
abbrev sessionLogicalLinkUwbsCreate : UInt8 := 0x0A
abbrev sessionLogicalLinkGetParam : UInt8 := 0x0B

abbrev deviceStateReady : UInt8 := 0x01

abbrev deviceConfigDeviceState : UInt8 := 0x00
abbrev deviceConfigLowPowerMode : UInt8 := 0x01
abbrev deviceConfigDevicePanId : UInt8 := 0xA2

abbrev appConfigDeviceType : UInt8 := 0x00
abbrev appConfigRangingRoundUsage : UInt8 := 0x01
abbrev appConfigStsConfig : UInt8 := 0x02
abbrev appConfigMultiNodeMode : UInt8 := 0x03
abbrev appConfigChannelNumber : UInt8 := 0x04
abbrev appConfigNumberOfControlees : UInt8 := 0x05
abbrev appConfigDeviceMacAddress : UInt8 := 0x06
abbrev appConfigDstMacAddress : UInt8 := 0x07
abbrev appConfigSlotDuration : UInt8 := 0x08
abbrev appConfigRangingInterval : UInt8 := 0x09
abbrev appConfigAoaResultReq : UInt8 := 0x0D
abbrev appConfigSessionInfoNtfConfig : UInt8 := 0x0E
abbrev appConfigRngDataNtfProximityNear : UInt8 := 0x0F
abbrev appConfigRngDataNtfProximityFar : UInt8 := 0x10
abbrev appConfigDeviceRole : UInt8 := 0x11
abbrev appConfigRssiReporting : UInt8 := 0x13
abbrev appConfigPreambleCodeIndex : UInt8 := 0x14
abbrev appConfigSfdId : UInt8 := 0x15
abbrev appConfigPsduDataRate : UInt8 := 0x16
abbrev appConfigPreambleDuration : UInt8 := 0x17
abbrev appConfigLinkLayerMode : UInt8 := 0x18
abbrev appConfigDataRepetitionCount : UInt8 := 0x19
abbrev appConfigRangingTimeStruct : UInt8 := 0x1A
abbrev appConfigSlotsPerRr : UInt8 := 0x1B
abbrev appConfigResponderSlotIndex : UInt8 := 0x1E
abbrev appConfigPrfMode : UInt8 := 0x1F
abbrev appConfigCapSizeRange : UInt8 := 0x20
abbrev appConfigScheduledMode : UInt8 := 0x22
abbrev appConfigKeyRotation : UInt8 := 0x23
abbrev appConfigKeyRotationRate : UInt8 := 0x24
abbrev appConfigMacAddressMode : UInt8 := 0x26
abbrev appConfigStaticStsIv : UInt8 := 0x28
abbrev appConfigNumberOfStsSegments : UInt8 := 0x29
abbrev appConfigMaxRrRetry : UInt8 := 0x2A
abbrev appConfigBlockStrideLength : UInt8 := 0x2D
abbrev appConfigResultReportConfig : UInt8 := 0x2E
abbrev appConfigMaxNumberOfMeasurements : UInt8 := 0x32
abbrev appConfigStsLength : UInt8 := 0x35
abbrev appConfigSessionKey : UInt8 := 0x45
abbrev appConfigSubsessionKey : UInt8 := 0x46

abbrev deviceTypeControlee : UInt8 := 0x00
abbrev deviceTypeController : UInt8 := 0x01

abbrev deviceRoleResponder : UInt8 := 0x00
abbrev deviceRoleInitiator : UInt8 := 0x01

abbrev macAddressModeShort : UInt8 := 0x00
abbrev macAddressModeExtended : UInt8 := 0x01

abbrev scheduledModeContentionBased : UInt8 := 0x00
abbrev scheduledModeTimeScheduled : UInt8 := 0x01

abbrev sessionTypeRanging : UInt8 := 0x00

abbrev sessionStateInit : UInt8 := 0x00
abbrev sessionStateDeinit : UInt8 := 0x01
abbrev sessionStateActive : UInt8 := 0x02
abbrev sessionStateIdle : UInt8 := 0x03

abbrev reasonStateChangeWithSessionManagementCommands : UInt8 := 0x00
abbrev reasonMaxNumberOfMeasurementsReached : UInt8 := 0x02
abbrev reasonErrorSlotLengthNotSupported : UInt8 := 0x20
abbrev reasonErrorInsufficientSlotsPerRr : UInt8 := 0x21
abbrev reasonErrorMacAddressModeNotSupported : UInt8 := 0x22
abbrev reasonErrorInvalidRangingInterval : UInt8 := 0x23
abbrev reasonErrorInvalidStsConfig : UInt8 := 0x24
abbrev reasonErrorInvalidPreambleCodeIndex : UInt8 := 0x2C
abbrev reasonErrorInvalidSfdId : UInt8 := 0x2D
abbrev reasonErrorInvalidPsduDataRate : UInt8 := 0x2E
abbrev reasonErrorInvalidPreambleDuration : UInt8 := 0x30
abbrev reasonErrorInvalidStsLength : UInt8 := 0x31
abbrev reasonErrorInvalidNumOfControlees : UInt8 := 0x33
abbrev reasonErrorInvalidDstAddressList : UInt8 := 0x35
abbrev reasonErrorInvalidResultReportConfig : UInt8 := 0x37
abbrev reasonErrorInvalidRangingRoundUsage : UInt8 := 0x39
abbrev reasonErrorInvalidMultiNodeMode : UInt8 := 0x3A
abbrev reasonErrorInvalidCapSizeRange : UInt8 := 0xFA

abbrev multicastActionAdd : UInt8 := 0x00
abbrev multicastActionRemove : UInt8 := 0x01
abbrev multicastActionAddShortKey : UInt8 := 0x02
abbrev multicastActionAddLongKey : UInt8 := 0x03

abbrev dataTransferStatusRepetitionOk : UInt8 := 0x00
abbrev dataTransferStatusOk : UInt8 := 0x01
abbrev dataTransferStatusErrorRejected : UInt8 := 0x04
abbrev dataTransferStatusErrorDataTransferIsOngoing : UInt8 := 0x06
abbrev dataTransferStatusInvalidFormat : UInt8 := 0x07

/-- The two results of the source's `int` functions: `0` and `-1`. -/
inductive Rc where
  | ok
  | err
  deriving DecidableEq, Repr

end UciSim
