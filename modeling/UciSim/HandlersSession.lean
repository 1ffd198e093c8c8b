import UciSim.HandlersCore

/-!
# Session configuration commands

Creation and removal of sessions, their parameter tables, multicast lists,
round lists and data-transfer phases.
-/

set_option autoImplicit false

namespace UciSim

def validatedAppConfigs : List UInt8 := [
  appConfigDeviceType, appConfigMultiNodeMode, appConfigChannelNumber,
  appConfigNumberOfControlees, appConfigDeviceMacAddress, appConfigDstMacAddress,
  appConfigMacAddressMode, appConfigStsConfig, appConfigRangingInterval,
  appConfigSlotDuration, appConfigRangingRoundUsage, appConfigAoaResultReq, appConfigPrfMode,
  appConfigPreambleCodeIndex, appConfigSfdId, appConfigPsduDataRate,
  appConfigPreambleDuration, appConfigStsLength, appConfigKeyRotation,
  appConfigLinkLayerMode, appConfigCapSizeRange, appConfigRangingTimeStruct,
  appConfigScheduledMode, appConfigKeyRotationRate, appConfigNumberOfStsSegments,
  appConfigMaxRrRetry, appConfigBlockStrideLength, appConfigSlotsPerRr,
  appConfigResponderSlotIndex, appConfigRssiReporting, appConfigResultReportConfig]

namespace Session

def storeDefaults (session : Session) (defaults : List (UInt8 × List UInt8)) : Session :=
  defaults.foldl (fun session entry => (session.storeConfig entry.1 entry.2).getD session) session

/-- A change of what is notified forgets the last proximity state. -/
def forgetProximity (session : Session) (configId : UInt8) : Session :=
  if configId = appConfigSessionInfoNtfConfig ∨ configId = appConfigRngDataNtfProximityNear ∨
      configId = appConfigRngDataNtfProximityFar then
    { session with hasLastProximityState := false, lastInProximityRange := false }
  else session

def multicastKeyLen (action : UInt8) : ℕ :=
  if action = multicastActionAddShortKey then 16
  else if action = multicastActionAddLongKey then 32
  else 0

/-- The key of an entry and the bytes behind it; the key may be left out at the very end. -/
def multicastKey (action : UInt8) (rest : List UInt8) : Option (List UInt8 × List UInt8) :=
  let keyLen := multicastKeyLen action
  if keyLen ≤ rest.length then some (rest.take keyLen,rest.drop keyLen)
  else if rest.length ≠ 0 then none
  else some ([],[])

def updateMulticastList (action : UInt8) :
    ℕ → List UInt8 → Session → List UInt8 → UInt8 → UInt8 × List UInt8 × Session
  | 0, _, session, items, overall => (overall,items,session)
  | remaining+1, rest, session, items, overall =>
    if rest.length < 6 ∨ 2+items.length+7 > maxPayload then (statusInvalidParam,items,session)
    else
      let shortAddress := readU16Le rest 0
      let subsessionId := readU32Le rest 2
      match multicastKey action (rest.drop 6) with
      | none => (statusInvalidParam,items,session)
      | some (key,rest) =>
        let (entryStatus,session) :=
          if action = multicastActionRemove then
            session.removeMulticastEntry shortAddress subsessionId
          else session.addMulticastEntry shortAddress subsessionId key
        updateMulticastList action remaining rest session
          (items ++ writeU16Le shortAddress ++ writeU32Le subsessionId ++ [entryStatus])
          (if entryStatus ≠ statusOk ∧ overall = statusOk then statusFailed else overall)

end Session

namespace Device

def allocSession (device : Device) (sessionId : UInt32) : Option (Fin maxSessions × Device) :=
  match device.freeSession with
  | none => none
  | some i =>
    let session := { device.sessions i with
      allocated := true
      sessionId := sessionId
      sessionType := device.profile.defaultSessionType
      state := device.profile.initialSessionState
      rangingCount := 0
      hasLastProximityState := false
      lastInProximityRange := false
      maxDataSize := device.profile.defaultSessionMaxDataSize }
    some (i, device.setSession i (session.storeDefaults device.profile.defaultSessionAppConfigs))

/-- One parameter of a set request: the status that ends the request, if any. -/
def setAppConfig (device : Device) (i : Fin maxSessions) (configId : UInt8)
    (value : List UInt8) : Option UInt8 × Device :=
  let session := device.sessions i
  if !device.profile.supportsSessionAppConfig configId then (some statusInvalidParam, device)
  else
    let verdict :=
      if validatedAppConfigs.contains configId then
        validateSessionAppConfig device.profile session configId value
      else .ok ()
    let refusal := match verdict with
      | .ok () => none
      | .error invalid =>
        if invalid.surface = invalidConfigSurfaceImmediate then some invalid.status else none
    match refusal with
    | some status => (some status, device)
    | none =>
      match session.storeConfig configId value with
      | none => (some statusRejected, device)
      | some session =>
        let session := session.forgetProximity configId
        let device := device.setSession i session
        if configId = appConfigRangingInterval ∧ session.state = sessionStateActive ∧
            session.rangingStreamRemaining > 0 then
          match device.rescheduleSessionEvent .rangeData session.sessionId
              (session.getRangingIntervalMs device.profile) with
          | (.ok,device) => (none, device)
          | (.err,device) => (some statusRejected, device)
        else (none, device)

def setAppConfigs : ℕ → List UInt8 → Device → Fin maxSessions → UInt8 × Device
  | remaining+1, configId::valueLen::rest, device, i =>
    if rest.length < valueLen.toNat then (statusInvalidParam, device)
    else match device.setAppConfig i configId (rest.take valueLen.toNat) with
      | (some status,device) => (status, device)
      | (none,device) => setAppConfigs remaining (rest.drop valueLen.toNat) device i
  | _, _, device, _ => (statusOk, device)

end Device

/-- Every stored supported parameter, in the profile's order, while the payload has room. -/
def collectSupported (session : Session) :
    List UInt8 → List UInt8 → ℕ → UInt8 × List UInt8 × ℕ
  | [], items, processed => (statusOk,items,processed)
  | configId::rest, items, processed =>
    match session.getConfig configId with
    | none => collectSupported session rest items processed
    | some value =>
      if 2+items.length+2+value.length > maxPayload then (statusInvalidParam,items,processed)
      else collectSupported session rest
        (items ++ [configId,UInt8.ofNat value.length] ++ value) (processed+1)

namespace Exchange

def emitSessionStatusNtfWithReason (x : Exchange) (sessionId : UInt32) (state reason : UInt8) :
    Exchange :=
  x.emit (sessionStatusNotification sessionId state reason)

def emitSessionStatusNtf (x : Exchange) (sessionId : UInt32) (state : UInt8) : Exchange :=
  x.emitSessionStatusNtfWithReason sessionId state x.device.profile.sessionStatusReasonCode

def handleSessionInit (x : Exchange) (request : Packet) : Rc × Exchange :=
  if request.payload.length < 5 then x.fail request statusInvalidMsgSize
  else
    let sessionId := readU32Le request.payload 0
    if byteAt request.payload 4 ≠ sessionTypeRanging then x.fail request statusInvalidRange
    else
      let found := match x.device.findSession sessionId with
        | some i => some (i,x.device)
        | none => x.device.allocSession sessionId
      match found with
      | none => x.fail request statusRejected
      | some (i,device) =>
        let x := { x with device := device }.respond gidSessionConfig sessionInit
          (statusOk::writeU32Le sessionId)
        (.ok, x.emitSessionStatusNtf sessionId (device.sessions i).state)

def handleSessionDeinit (x : Exchange) (request : Packet) : Rc × Exchange :=
  if request.payload.length < 4 then x.fail request statusInvalidMsgSize
  else
    let sessionId := readU32Le request.payload 0
    match x.device.findSession sessionId with
    | none => x.fail request statusInvalidParam
    | some i =>
      let x := x.makeStatusResponse request statusOk
      let x := x.emitSessionStatusNtf sessionId sessionStateDeinit
      (.ok, x.setSession i Session.zero)

def handleSessionGetCount (x : Exchange) : Rc × Exchange :=
  (.ok, x.respond gidSessionConfig sessionGetCount
    [statusOk,UInt8.ofNat x.device.allocatedCount])

def handleQueryDataSizeInRanging (x : Exchange) (request : Packet) : Rc × Exchange :=
  let failed := x.respond gidSessionConfig sessionQueryDataSizeInRanging
    [statusInvalidParam,0x00,0x00]
  if request.payload.length < 4 then (.err, failed)
  else match x.device.findSession (readU32Le request.payload 0) with
    | none => (.err, failed)
    | some i => (.ok, x.respond gidSessionConfig sessionQueryDataSizeInRanging
        (statusOk::writeU16Le (x.device.sessions i).maxDataSize))

def handleSessionGetState (x : Exchange) (request : Packet) : Rc × Exchange :=
  if request.payload.length < 4 then x.fail request statusInvalidMsgSize
  else match x.device.findSession (readU32Le request.payload 0) with
    | none => x.fail request statusInvalidParam
    | some i => (.ok, x.respond gidSessionConfig sessionGetState
        [statusOk,(x.device.sessions i).state])

def handleSessionUpdateMulticastList (x : Exchange) (request : Packet) : Rc × Exchange :=
  if request.payload.length < 6 then x.fail request statusInvalidMsgSize
  else
    let entryCount := byteAt request.payload 4
    let action := byteAt request.payload 5
    match x.device.findSession (readU32Le request.payload 0) with
    | none => x.fail request statusInvalidParam
    | some i =>
      if !supportsMulticastAction action then x.fail request statusInvalidParam
      else
        let (overall,items,session) := Session.updateMulticastList action entryCount.toNat
          (request.payload.drop 6) (x.device.sessions i) [] statusOk
        let processed := items.length/7
        let overall := if processed ≠ entryCount.toNat ∧ overall = statusOk then
          statusInvalidParam else overall
        (rcOf overall, (x.setSession i session).respond gidSessionConfig
          sessionUpdateControllerMulticastList ([overall,UInt8.ofNat processed] ++ items))

def handleSessionDataTransferPhaseConfig (x : Exchange) (request : Packet) : Rc × Exchange :=
  if request.payload.length < 7 then x.fail request statusInvalidParam
  else match x.device.findSession (readU32Le request.payload 0) with
    | none => x.fail request statusInvalidParam
    | some i =>
      let dtpSize := byteAt request.payload 6
      -- The source keeps the low byte of this length.
      let payloadLen := UInt8.ofNat (request.payload.length-7)
      if dtpSize.toNat > 64 ∨ payloadLen ≠ dtpSize then x.fail request statusInvalidMsgSize
      else
        let session := { x.device.sessions i with
          dtpRepetition := byteAt request.payload 4
          dtpControl := byteAt request.payload 5
          dtpSize := dtpSize
          dtpPayload := (request.payload.drop 7).take payloadLen.toNat }
        (.ok, (x.setSession i session).makeStatusResponse request statusOk)

def handleSessionUpdateDtRounds (x : Exchange) (request : Packet) (useAnchorRounds : Bool) :
    Rc × Exchange :=
  if request.payload.length < 5 then x.fail request statusInvalidParam
  else
    let roundCount := byteAt request.payload 4
    if request.payload.length < 5+roundCount.toNat ∨ roundCount.toNat > maxDtRounds then
      x.fail request statusInvalidParam
    else match x.device.findSession (readU32Le request.payload 0) with
      | none => x.fail request statusInvalidParam
      | some i =>
        let rounds := (request.payload.drop 5).take roundCount.toNat
        let session := x.device.sessions i
        let session := if useAnchorRounds then { session with dtAnchorRoundIndexes := rounds }
          else { session with dtTagRoundIndexes := rounds }
        (.ok, (x.setSession i session).respond gidSessionConfig request.oid
          ([statusOk,roundCount] ++ rounds))

def handleSessionSetAppConfig (x : Exchange) (request : Packet) : Rc × Exchange :=
  if request.payload.length < 5 then x.fail request statusInvalidMsgSize
  else match x.device.findSession (readU32Le request.payload 0) with
    | none => x.fail request statusInvalidParam
    | some i =>
      let count := byteAt request.payload 4
      let (status,device) := Device.setAppConfigs count.toNat (request.payload.drop 5) x.device i
      (rcOf status, { x with device := device }.respond gidSessionConfig request.oid [status,0])

def handleSessionGetAppConfig (x : Exchange) (request : Packet) : Rc × Exchange :=
  if request.payload.length < 5 then x.fail request statusInvalidMsgSize
  else match x.device.findSession (readU32Le request.payload 0) with
    | none => x.fail request statusInvalidParam
    | some i =>
      let count := byteAt request.payload 4
      let profile := x.device.profile
      let session := x.device.sessions i
      let (status,items,processed) :=
        if count = 0 then collectSupported session profile.supportedSessionAppConfigIds [] 0
        else collectConfigs
          (fun configId => if profile.supportsSessionAppConfig configId then
            session.getConfig configId else none)
          count.toNat (request.payload.drop 5) [] 0
      (rcOf status, x.respond gidSessionConfig request.oid
        ([status,UInt8.ofNat processed] ++ items))

def handleSessionConfig (x : Exchange) (request : Packet) : Rc × Exchange :=
  if !x.device.profile.supportsCommand request.gid request.oid then
    x.fail request statusUnknownOid
  else if request.oid = sessionInit then x.handleSessionInit request
  else if request.oid = sessionDeinit then x.handleSessionDeinit request
  else if request.oid = sessionSetAppConfig then x.handleSessionSetAppConfig request
  else if request.oid = sessionGetAppConfig then x.handleSessionGetAppConfig request
  else if request.oid = sessionGetCount then x.handleSessionGetCount
  else if request.oid = sessionQueryDataSizeInRanging then
    x.handleQueryDataSizeInRanging request
  else if request.oid = sessionGetState then x.handleSessionGetState request
  else if request.oid = sessionUpdateControllerMulticastList then
    x.handleSessionUpdateMulticastList request
  else if request.oid = sessionUpdateDtAnchorRangingRounds then
    x.handleSessionUpdateDtRounds request true
  else if request.oid = sessionUpdateDtTagRangingRounds then
    x.handleSessionUpdateDtRounds request false
  else if request.oid = sessionDataTransferPhaseConfig then
    x.handleSessionDataTransferPhaseConfig request
  else x.fail request statusUnknownOid

end Exchange

end UciSim
