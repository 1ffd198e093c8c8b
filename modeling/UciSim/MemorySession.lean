import UciSim.MemoryCore

/-!
# Session configuration over arrays

The parameter, multicast and round lists of a request are walked at an offset
and copied into the arrays of the session. The status a loop settles on is
written to the response once, when the loop is done.
-/

set_option autoImplicit false

namespace UciSim.Memory

open Arrays

def emitSessionStatusNtfWithReason (x : Exchange) (sessionId : UInt32) (state reason : UInt8) :
    Checked Exchange :=
  emit x (sessionStatusNotification sessionId state reason)

def emitSessionStatusNtf (x : Exchange) (sessionId : UInt32) (state : UInt8) :
    Checked Exchange :=
  emitSessionStatusNtfWithReason x sessionId state x.device.profile.sessionStatusReasonCode

def storeDefaults (session : Session) : List (UInt8 × List UInt8) → Checked Session
  | [] => .ok session
  | (configId,value)::rest => do
    let stored ← sessionStoreConfig session configId ⟨value,0,value.length⟩
    storeDefaults (stored.getD session) rest

def allocSession (device : Device) (sessionId : UInt32) :
    Checked (Option (Fin maxSessions × Device)) :=
  match device.freeSession with
  | none => .ok none
  | some i => do
    let session ← storeDefaults { device.sessions i with
      allocated := true
      sessionId := sessionId
      sessionType := device.profile.defaultSessionType
      state := device.profile.initialSessionState
      rangingCount := 0
      hasLastProximityState := false
      lastInProximityRange := false
      maxDataSize := device.profile.defaultSessionMaxDataSize }
      device.profile.defaultSessionAppConfigs
    return some (i,device.setSession i session)

def handleSessionInit (x : Exchange) (request : Packet) : Checked (Rc × Exchange) :=
  if request.payload.length < 5 then fail x request statusInvalidMsgSize
  else do
    let sessionId ← readU32Le request.payload 0
    let sessionType ← read request.payload 4
    if sessionType ≠ sessionTypeRanging then fail x request statusInvalidRange
    else do
      let found ← match x.device.findSession sessionId with
        | some i => .ok (some (i,x.device))
        | none => allocSession x.device sessionId
      match found with
      | none => fail x request statusRejected
      | some (i,device) =>
        let x ← respond { x with device := device } gidSessionConfig sessionInit
          (statusOk::writeU32Le sessionId)
        let x ← emitSessionStatusNtf x sessionId (device.sessions i).state
        return (.ok,x)

def handleSessionDeinit (x : Exchange) (request : Packet) : Checked (Rc × Exchange) :=
  if request.payload.length < 4 then fail x request statusInvalidMsgSize
  else do
    let sessionId ← readU32Le request.payload 0
    match x.device.findSession sessionId with
    | none => fail x request statusInvalidParam
    | some i =>
      let x ← respond x request.gid request.oid [statusOk]
      let x ← emitSessionStatusNtf x sessionId sessionStateDeinit
      return (.ok,x.setSession i Session.zero)

def handleSessionGetCount (x : Exchange) : Checked (Rc × Exchange) :=
  answer .ok x gidSessionConfig sessionGetCount [statusOk,UInt8.ofNat x.device.allocatedCount]

def handleQueryDataSizeInRanging (x : Exchange) (request : Packet) : Checked (Rc × Exchange) :=
  let failed := answer .err x gidSessionConfig sessionQueryDataSizeInRanging
    [statusInvalidParam,0x00,0x00]
  if request.payload.length < 4 then failed
  else do
    let sessionId ← readU32Le request.payload 0
    match x.device.findSession sessionId with
    | none => failed
    | some i =>
      answer .ok x gidSessionConfig sessionQueryDataSizeInRanging
        (statusOk::writeU16Le (x.device.sessions i).maxDataSize)

def handleSessionGetState (x : Exchange) (request : Packet) : Checked (Rc × Exchange) :=
  if request.payload.length < 4 then fail x request statusInvalidMsgSize
  else do
    let sessionId ← readU32Le request.payload 0
    match x.device.findSession sessionId with
    | none => fail x request statusInvalidParam
    | some i =>
      answer .ok x gidSessionConfig sessionGetState [statusOk,(x.device.sessions i).state]

/-- The key of an entry and the offset behind it; at the very end the key may be left out. -/
def multicastKey (action : UInt8) (request : List UInt8) (offset : ℕ) :
    Option (Span UInt8 × ℕ) :=
  let keyLen := Session.multicastKeyLen action
  if offset+keyLen ≤ request.length then some (⟨request,offset,keyLen⟩,offset+keyLen)
  else if offset ≠ request.length then none
  else some (⟨request,offset,0⟩,offset)

def updateMulticastList (request : List UInt8) (action : UInt8) :
    ℕ → ℕ → Session → Response → ℕ → UInt8 → Checked (UInt8 × Response × ℕ × Session)
  | 0, _, session, response, processed, overall => .ok (overall,response,processed,session)
  | remaining+1, offset, session, response, processed, overall =>
    if offset+6 > request.length ∨ response.cursor+7 > maxPayload then
      .ok (statusInvalidParam,response,processed,session)
    else do
      let shortAddress ← readU16Le request offset
      let subsessionId ← readU32Le request (offset+2)
      match multicastKey action request (offset+6) with
      | none => return (statusInvalidParam,response,processed,session)
      | some (key,offset) =>
        let (entryStatus,session) ←
          if action = multicastActionRemove then
            removeMulticastEntry session shortAddress subsessionId
          else addMulticastEntry session shortAddress subsessionId key
        let response ← response.pushAll (writeU16Le shortAddress)
        let response ← response.pushAll (writeU32Le subsessionId)
        let response ← response.push entryStatus
        updateMulticastList request action remaining offset session response (processed+1)
          (if entryStatus ≠ statusOk ∧ overall = statusOk then statusFailed else overall)

def handleSessionUpdateMulticastList (x : Exchange) (request : Packet) :
    Checked (Rc × Exchange) :=
  if request.payload.length < 6 then fail x request statusInvalidMsgSize
  else do
    let sessionId ← readU32Le request.payload 0
    let entryCount ← read request.payload 4
    let action ← read request.payload 5
    match x.device.findSession sessionId with
    | none => fail x request statusInvalidParam
    | some i =>
      if !supportsMulticastAction action then fail x request statusInvalidParam
      else do
        let (overall,response,processed,session) ← updateMulticastList request.payload action
          entryCount.toNat 6 (x.device.sessions i) (holding [statusOk,0]) 0 statusOk
        let overall := if processed ≠ entryCount.toNat ∧ overall = statusOk then
          statusInvalidParam else overall
        answerCollected (x.setSession i session) gidSessionConfig
          sessionUpdateControllerMulticastList overall response processed

/-- A list in an array of `size` cells: its bytes are copied and the cells behind are cleared. -/
def storeCounted (value : Span UInt8) (size : ℕ) : Checked (List UInt8) := do
  let bytes ← value.copyTo size
  touch value.length (size-value.length) size
  return bytes

def handleSessionDataTransferPhaseConfig (x : Exchange) (request : Packet) :
    Checked (Rc × Exchange) :=
  if request.payload.length < 7 then fail x request statusInvalidParam
  else do
    let sessionId ← readU32Le request.payload 0
    match x.device.findSession sessionId with
    | none => fail x request statusInvalidParam
    | some i =>
      let dtpSize ← read request.payload 6
      -- The source keeps the low byte of this length.
      let payloadLen := UInt8.ofNat (request.payload.length-7)
      if dtpSize.toNat > dtpPayloadSize ∨ payloadLen ≠ dtpSize then
        fail x request statusInvalidMsgSize
      else do
        let repetition ← read request.payload 4
        let control ← read request.payload 5
        let bytes ← storeCounted ⟨request.payload,7,payloadLen.toNat⟩ dtpPayloadSize
        let session := { x.device.sessions i with
          dtpRepetition := repetition
          dtpControl := control
          dtpSize := dtpSize
          dtpPayload := bytes }
        answer .ok (x.setSession i session) request.gid request.oid [statusOk]

def handleSessionUpdateDtRounds (x : Exchange) (request : Packet) (useAnchorRounds : Bool) :
    Checked (Rc × Exchange) :=
  if request.payload.length < 5 then fail x request statusInvalidParam
  else do
    let sessionId ← readU32Le request.payload 0
    let roundCount ← read request.payload 4
    if request.payload.length < 5+roundCount.toNat ∨ roundCount.toNat > maxDtRounds then
      fail x request statusInvalidParam
    else
      match x.device.findSession sessionId with
      | none => fail x request statusInvalidParam
      | some i => do
        let rounds ← storeCounted ⟨request.payload,5,roundCount.toNat⟩ maxDtRounds
        let session := x.device.sessions i
        let session := if useAnchorRounds then { session with dtAnchorRoundIndexes := rounds }
          else { session with dtTagRoundIndexes := rounds }
        touch 0 roundCount.toNat maxDtRounds
        answer .ok (x.setSession i session) gidSessionConfig request.oid
          ([statusOk,roundCount] ++ rounds)

/-- Only some parameters are validated when they are set. -/
def judgeAppConfig (profile : Profile) (session : Session) (configId : UInt8)
    (value : Span UInt8) : Checked Check :=
  if validatedAppConfigs.contains configId then
    (validateSessionAppConfig profile session configId value).run
  else .ok (.ok ())

def setAppConfig (device : Device) (i : Fin maxSessions) (configId : UInt8)
    (value : Span UInt8) : Checked (Option UInt8 × Device) :=
  let session := device.sessions i
  if !device.profile.supportsSessionAppConfig configId then
    .ok (some statusInvalidParam,device)
  else do
    let verdict ← judgeAppConfig device.profile session configId value
    let refusal := match verdict with
      | .ok () => none
      | .error invalid =>
        if invalid.surface = invalidConfigSurfaceImmediate then some invalid.status else none
    match refusal with
    | some status => return (some status,device)
    | none =>
      match ← sessionStoreConfig session configId value with
      | none => return (some statusRejected,device)
      | some session =>
        let session := session.forgetProximity configId
        let device := device.setSession i session
        if configId = appConfigRangingInterval ∧ session.state = sessionStateActive ∧
            session.rangingStreamRemaining > 0 then
          match ← rescheduleSessionEvent device .rangeData session.sessionId
              (session.getRangingIntervalMs device.profile) with
          | (.ok,device) => return (none,device)
          | (.err,device) => return (some statusRejected,device)
        else return (none,device)

def setAppConfigs (request : List UInt8) :
    ℕ → ℕ → Device → Fin maxSessions → Checked (UInt8 × Device)
  | 0, _, device, _ => .ok (statusOk,device)
  | remaining+1, offset, device, i =>
    if offset+2 > request.length then .ok (statusOk,device)
    else do
      let configId ← read request offset
      let valueLen ← read request (offset+1)
      let offset := offset+2
      if offset+valueLen.toNat > request.length then return (statusInvalidParam,device)
      else
        match ← setAppConfig device i configId ⟨request,offset,valueLen.toNat⟩ with
        | (some status,device) => return (status,device)
        | (none,device) => setAppConfigs request remaining (offset+valueLen.toNat) device i

def handleSessionSetAppConfig (x : Exchange) (request : Packet) : Checked (Rc × Exchange) :=
  if request.payload.length < 5 then fail x request statusInvalidMsgSize
  else do
    let sessionId ← readU32Le request.payload 0
    let count ← read request.payload 4
    match x.device.findSession sessionId with
    | none => fail x request statusInvalidParam
    | some i =>
      let (status,device) ← setAppConfigs request.payload count.toNat 5 x.device i
      answer (rcOf status) { x with device := device } gidSessionConfig request.oid [status,0]

def collectSupported (session : Session) :
    List UInt8 → Response → ℕ → Checked (UInt8 × Response × ℕ)
  | [], response, processed => .ok (statusOk,response,processed)
  | configId::rest, response, processed => do
    match ← sessionGetConfig session configId with
    | none => collectSupported session rest response processed
    | some value =>
      if response.cursor+2+value.length > maxPayload then
        return (statusInvalidParam,response,processed)
      else do
        let response ← response.pushAll [configId,UInt8.ofNat value.length]
        let response ← response.pushAll value
        collectSupported session rest response (processed+1)

def handleSessionGetAppConfig (x : Exchange) (request : Packet) : Checked (Rc × Exchange) :=
  if request.payload.length < 5 then fail x request statusInvalidMsgSize
  else do
    let sessionId ← readU32Le request.payload 0
    let count ← read request.payload 4
    match x.device.findSession sessionId with
    | none => fail x request statusInvalidParam
    | some i =>
      let profile := x.device.profile
      let session := x.device.sessions i
      let (status,response,processed) ←
        if count = 0 then
          collectSupported session profile.supportedSessionAppConfigIds (holding [statusOk,0]) 0
        else
          collectConfigs
            (fun configId => if profile.supportsSessionAppConfig configId then
              sessionGetConfig session configId else .ok none)
            request.payload count.toNat 5 (holding [statusOk,0]) 0
      answerCollected x gidSessionConfig request.oid status response processed

def handleSessionConfig (x : Exchange) (request : Packet) : Checked (Rc × Exchange) :=
  if !x.device.profile.supportsCommand request.gid request.oid then
    fail x request statusUnknownOid
  else if request.oid = sessionInit then handleSessionInit x request
  else if request.oid = sessionDeinit then handleSessionDeinit x request
  else if request.oid = sessionSetAppConfig then handleSessionSetAppConfig x request
  else if request.oid = sessionGetAppConfig then handleSessionGetAppConfig x request
  else if request.oid = sessionGetCount then handleSessionGetCount x
  else if request.oid = sessionQueryDataSizeInRanging then handleQueryDataSizeInRanging x request
  else if request.oid = sessionGetState then handleSessionGetState x request
  else if request.oid = sessionUpdateControllerMulticastList then
    handleSessionUpdateMulticastList x request
  else if request.oid = sessionUpdateDtAnchorRangingRounds then
    handleSessionUpdateDtRounds x request true
  else if request.oid = sessionUpdateDtTagRangingRounds then
    handleSessionUpdateDtRounds x request false
  else if request.oid = sessionDataTransferPhaseConfig then
    handleSessionDataTransferPhaseConfig x request
  else fail x request statusUnknownOid

end UciSim.Memory
