import UciSim.HandlersSession

/-!
# Session control, data messages and dispatch

Starting and stopping a session goes through the profile's transition table.
A data message is answered by notifications only.
-/

set_option autoImplicit false

namespace UciSim

def SessionTransition.allows (transition : SessionTransition) (state : UInt8) : Bool :=
  transition.allowedStatesMask.toUInt32 &&& (1 <<< state.toUInt32) != 0

namespace Session

def startStream (session : Session) (burstCount : UInt8) : Session :=
  { session with rangingStreamRemaining := burstCount }

def stopStream (session : Session) : Session :=
  { session with
    rangingStreamRemaining := 0
    dataTransferInProgress := false
    dataTransferRepetitionsRemaining := 0
    dataTransferTxCount := 0 }

def rememberData (session : Session) (sequenceNumber declaredLength : UInt16) : Session :=
  { session with
    lastDataSequence := sequenceNumber
    lastDataLength := declaredLength
    hasLastDataMessage := true }

def beginTransfer (session : Session) (dataRepetitionCount : UInt8)
    (sequenceNumber : UInt16) : Session :=
  { session with
    dataTransferInProgress := true
    dataTransferRepetitionsRemaining := dataRepetitionCount
    dataTransferTxCount := 0
    dataTransferSequence := sequenceNumber }

def abandonTransfer (session : Session) : Session :=
  { session with
    dataTransferInProgress := false
    dataTransferRepetitionsRemaining := 0
    dataTransferTxCount := 0 }

end Session

namespace Device

def onSessionStarted (device : Device) (i : Fin maxSessions) : Rc × Device :=
  if device.scenario ≠ .rangingStream then (.ok, device)
  else
    let session := (device.sessions i).startStream device.profile.rangingStreamBurstCount
    if session.rangingStreamRemaining = 0 then (.ok, device.setSession i session)
    else (device.setSession i session).scheduleEvent .rangeData session.sessionId
      (session.getRangingIntervalMs device.profile)

def onSessionStopped (device : Device) (i : Fin maxSessions) : Device :=
  let session := device.sessions i
  let device := device.setSession i session.stopStream
  device.cancelSessionEvents session.sessionId

/-- The slot as an admitted transition leaves it, before the scenario reacts. -/
def entering (device : Device) (oid : UInt8) (i : Fin maxSessions) (nextState : UInt8) :
    Session :=
  let session := device.sessions i
  let session := if oid = sessionStart ∨ oid = sessionStop then
    { session with hasLastProximityState := false, lastInProximityRange := false } else session
  { session with state := nextState }

def reactToTransition (device : Device) (oid : UInt8) (i : Fin maxSessions) : Device :=
  if oid = sessionStart then (device.onSessionStarted i).2
  else if oid = sessionStop then device.onSessionStopped i
  else device

end Device

namespace Exchange

def handleGetRangingCount (x : Exchange) (i : Fin maxSessions) : Rc × Exchange :=
  (.ok, x.respond gidSessionControl sessionGetRangingCount
    (statusOk::writeU32Le (x.device.sessions i).rangingCount))

def handleLogicalLinkCreate (x : Exchange) (request : Packet) (i : Fin maxSessions) :
    Rc × Exchange :=
  if request.payload.length < 5 then x.fail request statusInvalidMsgSize
  else
    let session := x.device.sessions i
    let requestedId := byteAt request.payload 4
    let mode := if request.payload.length ≥ 6 then byteAt request.payload 5 else 0
    let credit := if request.payload.length ≥ 7 then byteAt request.payload 6 else 1
    let refused := fun (status : UInt8) =>
      (Rc.err, x.respond gidSessionControl sessionLogicalLinkCreate [status,0xFF,0])
    if requestedId ≠ 0xFF ∧ (session.findLogicalLink requestedId).isSome then
      refused statusInvalidParam
    else if session.logicalLinks.length ≥ maxLogicalLinks then refused statusMulticastListFull
    else match session.allocateLogicalLink requestedId mode credit with
      | none => refused statusInvalidParam
      | some (assignedId,session) =>
        let x := (x.setSession i session).respond gidSessionControl sessionLogicalLinkCreate
          [statusOk,assignedId,credit]
        (.ok, x.emit (logicalLinkNotification (readU32Le request.payload 0)
          sessionLogicalLinkUwbsCreate assignedId credit))

def handleLogicalLinkClose (x : Exchange) (request : Packet) (i : Fin maxSessions) :
    Rc × Exchange :=
  if request.payload.length < 5 then x.fail request statusInvalidMsgSize
  else
    let linkId := byteAt request.payload 4
    match (x.device.sessions i).removeLogicalLink linkId with
    | none => (.err, x.respond gidSessionControl sessionLogicalLinkClose
        [statusInvalidParam,linkId])
    | some session =>
      let x := (x.setSession i session).respond gidSessionControl sessionLogicalLinkClose
        [statusOk,linkId]
      (.ok, x.emit (logicalLinkNotification (readU32Le request.payload 0)
        sessionLogicalLinkUwbsClose linkId 0x00))

def handleLogicalLinkGetParam (x : Exchange) (request : Packet) (i : Fin maxSessions) :
    Rc × Exchange :=
  if request.payload.length < 5 then x.fail request statusInvalidMsgSize
  else
    let linkId := byteAt request.payload 4
    match (x.device.sessions i).findLogicalLink linkId with
    | none => (.err, x.respond gidSessionControl sessionLogicalLinkGetParam
        [statusInvalidParam,linkId,0,0])
    | some link => (.ok, x.respond gidSessionControl sessionLogicalLinkGetParam
        [statusOk,linkId,link.mode,link.credit])

/-- The state change itself, once the request is admitted. -/
def enterState (x : Exchange) (request : Packet) (i : Fin maxSessions) (nextState : UInt8) :
    Exchange :=
  let x := x.setSession i (x.device.entering request.oid i nextState)
  let x := x.makeStatusResponse request statusOk
  let x := x.emitSessionStatusNtf (readU32Le request.payload 0) nextState
  { x with device := x.device.reactToTransition request.oid i }

def handleTransition (x : Exchange) (request : Packet) (i : Fin maxSessions) : Rc × Exchange :=
  match x.device.profile.getSessionTransition request.oid with
  | none => x.fail request statusUnknownOid
  | some transition =>
    let session := x.device.sessions i
    if !transition.allows session.state then x.fail request transition.invalidStatus
    else
      let verdict :=
        if request.oid = sessionStart then validateSessionStart x.device.profile session
        else .ok ()
      match verdict with
      | .error invalid =>
        if invalid.surface = invalidConfigSurfaceSessionStatus then
          let x := x.makeStatusResponse request statusOk
          (.ok, x.emitSessionStatusNtfWithReason (readU32Le request.payload 0) session.state
            invalid.reasonCode)
        else x.fail request invalid.status
      | .ok () => (.ok, x.enterState request i transition.nextState)

def handleSessionControl (x : Exchange) (request : Packet) : Rc × Exchange :=
  if !x.device.profile.supportsCommand request.gid request.oid then
    x.fail request statusUnknownOid
  else if request.payload.length < 4 then x.fail request statusInvalidMsgSize
  else match x.device.findSession (readU32Le request.payload 0) with
    | none => x.fail request statusInvalidParam
    | some i =>
      if request.oid = sessionGetRangingCount then x.handleGetRangingCount i
      else if request.oid = sessionLogicalLinkCreate then x.handleLogicalLinkCreate request i
      else if request.oid = sessionLogicalLinkClose then x.handleLogicalLinkClose request i
      else if request.oid = sessionLogicalLinkGetParam then
        x.handleLogicalLinkGetParam request i
      else x.handleTransition request i

/-- The two notifications that complete a message; the second is not tried when the first
finds no room. -/
def queueDataCompletion (x : Exchange) (sessionId : UInt32) (sequenceNumber : UInt16)
    (status : UInt8) : Rc × Exchange :=
  match x.queueDataCreditNotification sessionId 1 with
  | (.err,x) => (.err, x)
  | (.ok,x) => x.queueDataTransferStatusNotification sessionId sequenceNumber status 1

def beginDataTransfer (x : Exchange) (i : Fin maxSessions) (sessionId : UInt32)
    (sequenceNumber : UInt16) (dataRepetitionCount : UInt8) : Rc × Exchange :=
  let session := (x.device.sessions i).beginTransfer dataRepetitionCount sequenceNumber
  let x := x.setSession i session
  match x.device.scheduleEvent .dataTransfer sessionId
      (session.getRangingIntervalMs x.device.profile) with
  | (.ok,device) => (.ok, { x with device := device })
  | (.err,_) => (.err, x.setSession i session.abandonTransfer)

def handleDataMessageSend (x : Exchange) (request : Packet) : Rc × Exchange :=
  if request.gid ≠ dataPacketFormatSend ∨ request.oid ≠ 0x00 then (.err, x)
  else if request.payload.length < 16 then (.err, x)
  else
    let sessionId := readU32Le request.payload 0
    let sequenceNumber := readU16Le request.payload 12
    let declaredLength := readU16Le request.payload 14
    let refused := fun (status txCount : UInt8) =>
      (Rc.err, x.placeNotification
        (dataTransferStatusNotification sessionId sequenceNumber status txCount))
    if 16+declaredLength.toNat > request.payload.length then
      refused dataTransferStatusInvalidFormat 0
    else match x.device.findSession sessionId with
      | none => refused dataTransferStatusErrorRejected 0
      | some i =>
        let session := x.device.sessions i
        if session.state ≠ sessionStateActive then refused dataTransferStatusErrorRejected 0
        else if session.dataTransferInProgress then
          refused dataTransferStatusErrorDataTransferIsOngoing session.dataTransferTxCount
        else if session.hasLastDataMessage ∧ session.lastDataSequence = sequenceNumber ∧
            session.lastDataLength = declaredLength then
          x.queueDataCompletion sessionId sequenceNumber dataTransferStatusRepetitionOk
        else
          let x := x.setSession i (session.rememberData sequenceNumber declaredLength)
          if session.getDataRepetitionCount = 0 then
            x.queueDataCompletion sessionId sequenceNumber dataTransferStatusOk
          else x.beginDataTransfer i sessionId sequenceNumber session.getDataRepetitionCount

def dispatchCommand (x : Exchange) (request : Packet) : Rc × Exchange :=
  if request.gid = gidCore then x.handleCore request
  else if request.gid = gidSessionConfig then x.handleSessionConfig request
  else if request.gid = gidSessionControl then x.handleSessionControl request
  else if request.gid = gidQorvoExt2 then x.handleQorvoExt2 request
  else if request.gid = gidQorvoMac then x.handleQorvoMac request
  else x.fail request statusUnknownGid

/-- A refused command also reports the first byte of its response as a generic error. -/
def reportError (outcome : Rc × Exchange) : Exchange :=
  match outcome with
  | (.ok,x) => x
  | (.err,x) =>
    match x.result.response with
    | some response =>
      match response.payload with
      | status::_ => x.emit (coreGenericErrorNotification status)
      | [] => x
    | none => x

end Exchange

def Device.handlePacket (device : Device) (request : Packet) : Rc × Exchange :=
  let x := Exchange.start device
  let pendingCountBefore := device.pendingNotifications.length
  if request.mt = mtData then
    let (rc,x) := x.handleDataMessageSend request
    (rc, x.finalizeResult pendingCountBefore)
  else if request.mt ≠ mtCommand then (.err, x)
  else
    let outcome := x.dispatchCommand request
    (outcome.1, (Exchange.reportError outcome).finalizeResult pendingCountBefore)

end UciSim
