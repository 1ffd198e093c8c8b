import UciSim.Device

/-!
# Ranging measurements

A sample is taken from a session, its policy decides what a notification shows
and whether it is sent, and the notification is the profile's template with the
sample's fields written over it.
-/

set_option autoImplicit false

namespace UciSim

structure Measurement where
  sessionId : UInt32
  sequenceNumber : UInt32
  rangingIntervalMs : UInt32
  distanceCm : UInt16
  measurementType : UInt8
  slotIndex : UInt8
  deriving DecidableEq, Repr

structure PolicyResult where
  shouldEmitNotification : Bool
  hasProximityState : Bool
  inProximityRange : Bool
  emittedFieldMask : UInt8
  deriving DecidableEq, Repr

abbrev measFieldDistance : UInt8 := 0x01
abbrev measFieldAoaAzimuth : UInt8 := 0x02
abbrev measFieldAoaElevation : UInt8 := 0x04
abbrev measFieldAoaAzimuthFom : UInt8 := 0x08
abbrev measFieldAoaElevationFom : UInt8 := 0x10
abbrev measFieldRssi : UInt8 := 0x20

def mapMeasurementTypeFromRoundUsage (rangingRoundUsage : UInt8) : UInt8 :=
  if rangingRoundUsage = 0x05 then 0x02
  else if rangingRoundUsage = 0x06 then 0x03
  else 0x01

def initRangingSample (profile : Profile) (session : Session) : Measurement where
  sessionId := session.sessionId
  sequenceNumber := 0
  rangingIntervalMs := session.getRangingIntervalMs profile
  distanceCm := (profile.rangeDataDistanceBaseCm.toUInt32 +
    session.rangingCount*profile.rangeDataDistanceStepCm.toUInt32).toUInt16
  measurementType := mapMeasurementTypeFromRoundUsage session.getRangingRoundUsage
  slotIndex := session.getResponderSlotIndex

def reportedFieldMask (resultReportConfig rssiReporting : UInt8) : UInt8 :=
  (if resultReportConfig &&& 0x01 ≠ 0 then measFieldDistance else 0) |||
    (if resultReportConfig &&& 0x02 ≠ 0 then measFieldAoaAzimuth else 0) |||
    (if resultReportConfig &&& 0x04 ≠ 0 then measFieldAoaElevation else 0) |||
    (if resultReportConfig &&& 0x08 ≠ 0 then
      measFieldAoaAzimuthFom ||| measFieldAoaElevationFom else 0) |||
    (if rssiReporting ≠ 0 then measFieldRssi else 0)

def aoaFieldMask (aoaResultReq : UInt8) : UInt8 :=
  let azimuth := measFieldAoaAzimuth ||| measFieldAoaAzimuthFom
  let elevation := measFieldAoaElevation ||| measFieldAoaElevationFom
  if aoaResultReq = 0x01 then ~~~azimuth
  else if aoaResultReq = 0x02 then ~~~elevation
  else if aoaResultReq = 0x03 then 0xFF
  else ~~~(azimuth ||| elevation)

def evaluateRangeNotificationPolicy (session : Session) (sample : Measurement) :
    PolicyResult :=
  let near := session.getRangeDataNtfProximityNear
  let far := session.getRangeDataNtfProximityFar
  let inRange := decide (near ≤ far ∧ near ≤ sample.distanceCm ∧ sample.distanceCm ≤ far)
  let ntfConfig := session.getRangeDataNtfConfig
  { shouldEmitNotification :=
      if ntfConfig = 0x00 then false
      else if ntfConfig = 0x02 then inRange
      else if ntfConfig = 0x05 then
        session.hasLastProximityState && session.lastInProximityRange != inRange
      else true
    hasProximityState := true
    inProximityRange := inRange
    emittedFieldMask :=
      reportedFieldMask session.getResultReportConfig session.getRssiReporting &&&
        aoaFieldMask session.getAoaResultReq }

/-- Writes past the end fall behind the payload's length and are not sent. -/
def setBytes (payload : List UInt8) (offset : ℕ) : List UInt8 → List UInt8
  | [] => payload
  | b::rest => setBytes (payload.set offset b) (offset+1) rest

def maskBytes (mask field : UInt8) (offset : UInt8) (width : ℕ) (payload : List UInt8) :
    List UInt8 :=
  if mask &&& field = 0 then setBytes payload offset.toNat (List.replicate width 0)
  else payload

def buildRangeDataNotification (profile : Profile) (sample : Measurement)
    (policyResult : PolicyResult) (notificationOid : UInt8) : Option Packet :=
  if profile.rangeDataPayloadLen = 0 ∨ profile.rangeDataPayloadLen.toNat > maxPayload then none
  else
    let template := (List.range profile.rangeDataPayloadLen.toNat).map
      (byteAt profile.rangeDataPayloadTemplate)
    let payload := setBytes template profile.rangeDataSequenceOffset.toNat
      (writeU32Le sample.sequenceNumber)
    let payload := setBytes payload profile.rangeDataPrimarySessionIdOffset.toNat
      (writeU32Le sample.sessionId)
    let payload := setBytes payload profile.rangeDataSecondarySessionIdOffset.toNat
      (writeU32Le sample.sessionId)
    let payload := setBytes payload profile.rangeDataIntervalOffset.toNat
      (writeU32Le sample.rangingIntervalMs)
    let payload := setBytes payload profile.rangeDataMeasurementTypeOffset.toNat
      [sample.measurementType]
    let distanceOffset := profile.rangeDataMeasurementDistanceOffset
    let localAzimuthOffset := distanceOffset+2
    let localAzimuthFomOffset := localAzimuthOffset+2
    let localElevationOffset := localAzimuthFomOffset+1
    let localElevationFomOffset := localElevationOffset+2
    let remoteAzimuthOffset := localElevationFomOffset+1
    let remoteAzimuthFomOffset := remoteAzimuthOffset+2
    let remoteElevationOffset := remoteAzimuthFomOffset+1
    let remoteElevationFomOffset := remoteElevationOffset+2
    let slotIndexOffset := remoteElevationFomOffset+1
    let rssiOffset := remoteElevationFomOffset+2
    let mask := policyResult.emittedFieldMask
    let payload := setBytes payload distanceOffset.toNat
      (if mask &&& measFieldDistance ≠ 0 then writeU16Le sample.distanceCm else [0,0])
    let payload := maskBytes mask measFieldAoaAzimuth localAzimuthOffset 2 payload
    let payload := maskBytes mask measFieldAoaAzimuth remoteAzimuthOffset 2 payload
    let payload := maskBytes mask measFieldAoaElevation localElevationOffset 2 payload
    let payload := maskBytes mask measFieldAoaElevation remoteElevationOffset 2 payload
    let payload := maskBytes mask measFieldAoaAzimuthFom localAzimuthFomOffset 1 payload
    let payload := maskBytes mask measFieldAoaAzimuthFom remoteAzimuthFomOffset 1 payload
    let payload := maskBytes mask measFieldAoaElevationFom localElevationFomOffset 1 payload
    let payload := maskBytes mask measFieldAoaElevationFom remoteElevationFomOffset 1 payload
    let payload := setBytes payload slotIndexOffset.toNat [sample.slotIndex]
    let payload := maskBytes mask measFieldRssi rssiOffset 1 payload
    some (.notification gidSessionControl notificationOid payload)

namespace Session

def endStream (session : Session) : Session :=
  { session with state := sessionStateIdle, rangingStreamRemaining := 0 }

def countMeasurement (session : Session) (policyResult : PolicyResult) : Session :=
  { session with
    hasLastProximityState := policyResult.hasProximityState
    lastInProximityRange := policyResult.inProximityRange
    rangingCount := session.rangingCount+1
    rangingStreamRemaining := session.rangingStreamRemaining-1 }

def budgetSpent (session : Session) : Bool :=
  session.getMaxNumberOfMeasurements != 0 &&
    session.rangingCount ≥ session.getMaxNumberOfMeasurements.toUInt32

def transmit (session : Session) : Session :=
  { session with dataTransferTxCount := session.dataTransferTxCount+1 }

def repeatTransfer (session : Session) : Session :=
  { session.transmit with
    dataTransferRepetitionsRemaining := session.dataTransferRepetitionsRemaining-1 }

def finishTransfer (session : Session) : Session :=
  { session.transmit with dataTransferInProgress := false }

end Session

namespace Exchange

/-- The session at slot `i` has spent its measurement budget. -/
def finishRanging (x : Exchange) (i : Fin maxSessions) : Rc × Exchange :=
  let session := x.device.sessions i
  let x := x.setSession i session.endStream
  let x := { x with device := x.device.cancelSessionEvents session.sessionId }
  x.queueSessionStatusNotification session.sessionId sessionStateIdle
    reasonMaxNumberOfMeasurementsReached

def emitRangeData (x : Exchange) (sample : Measurement) (policyResult : PolicyResult) :
    Rc × Exchange :=
  if policyResult.shouldEmitNotification then
    let profile := x.device.profile
    let sample := { sample with sequenceNumber := x.device.nextRangingSequence }
    let x := { x with device := { x.device with
      nextRangingSequence := x.device.nextRangingSequence+1 } }
    match buildRangeDataNotification profile sample policyResult
        profile.rangeDataNotificationOid with
    | none => (.err, x)
    | some notification => x.queueNotification notification
  else (.ok, x)

def emitRangingStream (x : Exchange) (i : Fin maxSessions) : Rc × Exchange :=
  let session := x.device.sessions i
  if x.device.scenario ≠ .rangingStream ∨ session.rangingStreamRemaining = 0 ∨
      session.state ≠ sessionStateActive then (.ok, x)
  else if session.budgetSpent then x.finishRanging i
  else
    let sample := initRangingSample x.device.profile session
    let policyResult := evaluateRangeNotificationPolicy session sample
    match x.emitRangeData sample policyResult with
    | (.err, x) => (.err, x)
    | (.ok, x) =>
      let x := x.setSession i (session.countMeasurement policyResult)
      if (session.countMeasurement policyResult).budgetSpent then x.finishRanging i
      else (.ok, x)

def progressDataTransfer (x : Exchange) (i : Fin maxSessions) : Rc × Exchange :=
  let session := x.device.sessions i
  if !session.allocated || !session.dataTransferInProgress then (.err, x)
  else if session.dataTransferRepetitionsRemaining > 0 then
    (x.setSession i session.repeatTransfer).queueDataTransferStatusNotification
      session.sessionId session.dataTransferSequence dataTransferStatusRepetitionOk
      session.transmit.dataTransferTxCount
  else
    match (x.setSession i session.finishTransfer).queueDataCreditNotification
        session.sessionId 1 with
    | (.err, x) => (.err, x)
    | (.ok, x) => x.queueDataTransferStatusNotification session.sessionId
        session.dataTransferSequence dataTransferStatusOk session.transmit.dataTransferTxCount

end Exchange

end UciSim
