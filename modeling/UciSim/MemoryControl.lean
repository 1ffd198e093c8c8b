import UciSim.HandlersControl
import UciSim.MemorySession

/-!
# Session control, data messages and dispatch over arrays

The handlers of a running session and the call that picks one of them. A
notification is written to a packet first and handed to the queue or to the
result as a whole.
-/

set_option autoImplicit false

namespace UciSim.Memory

open Arrays

/-- A byte behind the end of the request has a default. -/
def readOptional (payload : List UInt8) (i : ℕ) (absent : UInt8) : Checked UInt8 :=
  if payload.length ≥ i+1 then read payload i else .ok absent

/-- Only a named link is looked for. -/
def takenLink (session : Session) (requestedId : UInt8) : Checked (Option LogicalLink) :=
  if requestedId ≠ 0xFF then findLogicalLink session requestedId else .ok none

def handleLogicalLinkCreate (x : Exchange) (request : Packet) (sessionId : UInt32)
    (i : Fin maxSessions) : Checked (Rc × Exchange) := do
  let requestedId ← readOptional request.payload 4 0xFF
  let mode ← readOptional request.payload 5 0
  let credit ← readOptional request.payload 6 1
  if request.payload.length < 5 then fail x request statusInvalidMsgSize
  else
    let session := x.device.sessions i
    let refused := fun (status : UInt8) =>
      answer .err x gidSessionControl sessionLogicalLinkCreate [status,0xFF,0]
    let taken ← takenLink session requestedId
    if taken.isSome then refused statusInvalidParam
    else if session.logicalLinks.length ≥ maxLogicalLinks then refused statusMulticastListFull
    else
      match ← allocateLogicalLink session requestedId mode credit with
      | none => refused statusInvalidParam
      | some (assignedId,session) =>
        let x ← respond (x.setSession i session) gidSessionControl sessionLogicalLinkCreate
          [statusOk,assignedId,credit]
        let x ← emit x (logicalLinkNotification sessionId sessionLogicalLinkUwbsCreate
          assignedId credit)
        return (.ok,x)

def handleLogicalLinkClose (x : Exchange) (request : Packet) (sessionId : UInt32)
    (i : Fin maxSessions) : Checked (Rc × Exchange) :=
  if request.payload.length < 5 then fail x request statusInvalidMsgSize
  else do
    let linkId ← read request.payload 4
    match ← removeLogicalLink (x.device.sessions i) linkId with
    | none => answer .err x gidSessionControl sessionLogicalLinkClose [statusInvalidParam,linkId]
    | some session =>
      let x ← respond (x.setSession i session) gidSessionControl sessionLogicalLinkClose
        [statusOk,linkId]
      let x ← emit x (logicalLinkNotification sessionId sessionLogicalLinkUwbsClose linkId 0x00)
      return (.ok,x)

def handleLogicalLinkGetParam (x : Exchange) (request : Packet) (i : Fin maxSessions) :
    Checked (Rc × Exchange) :=
  if request.payload.length < 5 then fail x request statusInvalidMsgSize
  else do
    let linkId ← read request.payload 4
    match ← findLogicalLink (x.device.sessions i) linkId with
    | none =>
      answer .err x gidSessionControl sessionLogicalLinkGetParam [statusInvalidParam,linkId,0,0]
    | some link =>
      answer .ok x gidSessionControl sessionLogicalLinkGetParam
        [statusOk,linkId,link.mode,link.credit]

def onSessionStarted (device : Device) (i : Fin maxSessions) : Checked (Rc × Device) :=
  if device.scenario ≠ .rangingStream then .ok (.ok,device)
  else
    let session := (device.sessions i).startStream device.profile.rangingStreamBurstCount
    if session.rangingStreamRemaining = 0 then .ok (.ok,device.setSession i session)
    else scheduleEvent (device.setSession i session) .rangeData session.sessionId
      (session.getRangingIntervalMs device.profile)

def onSessionStopped (device : Device) (i : Fin maxSessions) : Checked Device :=
  let session := device.sessions i
  cancelSessionEvents (device.setSession i session.stopStream) session.sessionId

def reactToTransition (device : Device) (oid : UInt8) (i : Fin maxSessions) : Checked Device :=
  if oid = sessionStart then do
    let (_,device) ← onSessionStarted device i
    return device
  else if oid = sessionStop then onSessionStopped device i
  else .ok device

def enterState (x : Exchange) (request : Packet) (sessionId : UInt32) (i : Fin maxSessions)
    (nextState : UInt8) : Checked Exchange := do
  let x ← respond (x.setSession i (x.device.entering request.oid i nextState)) request.gid
    request.oid [statusOk]
  let x ← emitSessionStatusNtf x sessionId nextState
  let device ← reactToTransition x.device request.oid i
  return { x with device := device }

/-- The validation before a start reads the session through the typed readers only. -/
def handleTransition (x : Exchange) (request : Packet) (sessionId : UInt32)
    (i : Fin maxSessions) : Checked (Rc × Exchange) :=
  match x.device.profile.getSessionTransition request.oid with
  | none => fail x request statusUnknownOid
  | some transition =>
    let session := x.device.sessions i
    if !transition.allows session.state then fail x request transition.invalidStatus
    else
      let verdict :=
        if request.oid = sessionStart then validateSessionStart x.device.profile session
        else .ok ()
      match verdict with
      | .error invalid =>
        if invalid.surface = invalidConfigSurfaceSessionStatus then do
          let x ← respond x request.gid request.oid [statusOk]
          let x ← emitSessionStatusNtfWithReason x sessionId session.state invalid.reasonCode
          return (.ok,x)
        else fail x request invalid.status
      | .ok () => do
        let x ← enterState x request sessionId i transition.nextState
        return (.ok,x)

def handleSessionControl (x : Exchange) (request : Packet) : Checked (Rc × Exchange) :=
  if !x.device.profile.supportsCommand request.gid request.oid then
    fail x request statusUnknownOid
  else if request.payload.length < 4 then fail x request statusInvalidMsgSize
  else do
    let sessionId ← readU32Le request.payload 0
    match x.device.findSession sessionId with
    | none => fail x request statusInvalidParam
    | some i =>
      if request.oid = sessionGetRangingCount then
        answer .ok x gidSessionControl sessionGetRangingCount
          (statusOk::writeU32Le (x.device.sessions i).rangingCount)
      else if request.oid = sessionLogicalLinkCreate then
        handleLogicalLinkCreate x request sessionId i
      else if request.oid = sessionLogicalLinkClose then
        handleLogicalLinkClose x request sessionId i
      else if request.oid = sessionLogicalLinkGetParam then handleLogicalLinkGetParam x request i
      else handleTransition x request sessionId i

def queueData (x : Exchange) (notification : Packet) : Checked (Rc × Exchange) := do
  touch 0 notification.payload.length maxPayload
  queueNotification x notification

def queueDataCompletion (x : Exchange) (sessionId : UInt32) (sequenceNumber : UInt16)
    (status : UInt8) : Checked (Rc × Exchange) := do
  match ← queueData x (dataCreditNotification sessionId 1) with
  | (.err,x) => return (.err,x)
  | (.ok,x) => queueData x (dataTransferStatusNotification sessionId sequenceNumber status 1)

def beginDataTransfer (x : Exchange) (i : Fin maxSessions) (sessionId : UInt32)
    (sequenceNumber : UInt16) (dataRepetitionCount : UInt8) : Checked (Rc × Exchange) := do
  let session := (x.device.sessions i).beginTransfer dataRepetitionCount sequenceNumber
  let x := x.setSession i session
  match ← scheduleEvent x.device .dataTransfer sessionId
      (session.getRangingIntervalMs x.device.profile) with
  | (.ok,device) => return (.ok,{ x with device := device })
  | (.err,_) => return (.err,x.setSession i session.abandonTransfer)

/-- A refusal is written to the notification of the result. -/
def refuseData (x : Exchange) (notification : Packet) : Checked (Rc × Exchange) := do
  touch 0 notification.payload.length maxPayload
  return (.err,x.placeNotification notification)

def handleDataMessageSend (x : Exchange) (request : Packet) : Checked (Rc × Exchange) :=
  if request.gid ≠ dataPacketFormatSend ∨ request.oid ≠ 0x00 then .ok (.err,x)
  else if request.payload.length < 16 then .ok (.err,x)
  else do
    let sessionId ← readU32Le request.payload 0
    let sequenceNumber ← readU16Le request.payload 12
    let declaredLength ← readU16Le request.payload 14
    let refused := fun (status txCount : UInt8) => refuseData x
      (dataTransferStatusNotification sessionId sequenceNumber status txCount)
    if 16+declaredLength.toNat > request.payload.length then
      refused dataTransferStatusInvalidFormat 0
    else
      match x.device.findSession sessionId with
      | none => refused dataTransferStatusErrorRejected 0
      | some i =>
        let session := x.device.sessions i
        if session.state ≠ sessionStateActive then refused dataTransferStatusErrorRejected 0
        else if session.dataTransferInProgress then
          refused dataTransferStatusErrorDataTransferIsOngoing session.dataTransferTxCount
        else if session.hasLastDataMessage ∧ session.lastDataSequence = sequenceNumber ∧
            session.lastDataLength = declaredLength then
          queueDataCompletion x sessionId sequenceNumber dataTransferStatusRepetitionOk
        else
          let x := x.setSession i (session.rememberData sequenceNumber declaredLength)
          if session.getDataRepetitionCount = 0 then
            queueDataCompletion x sessionId sequenceNumber dataTransferStatusOk
          else beginDataTransfer x i sessionId sequenceNumber session.getDataRepetitionCount

def dispatchCommand (x : Exchange) (request : Packet) : Checked (Rc × Exchange) :=
  if request.gid = gidCore then handleCore x request
  else if request.gid = gidSessionConfig then handleSessionConfig x request
  else if request.gid = gidSessionControl then handleSessionControl x request
  else if request.gid = gidQorvoExt2 then handleQorvoExt2 x request
  else if request.gid = gidQorvoMac then handleQorvoMac x request
  else fail x request statusUnknownGid

def reportError (outcome : Rc × Exchange) : Checked Exchange :=
  match outcome with
  | (.ok,x) => .ok x
  | (.err,x) =>
    match x.result.response with
    | none => .ok x
    | some response =>
      if response.payload.length ≥ 1 then do
        let status ← read response.payload 0
        emit x (coreGenericErrorNotification status)
      else .ok x

/-- The call as the accesses to its arrays allow it: any access outside ends it with a fault. -/
def handlePacket (device : Device) (request : Packet) : Checked (Rc × Exchange) :=
  let x := Exchange.start device
  let pendingCountBefore := device.pendingNotifications.length
  if request.mt = mtData then do
    let (rc,x) ← handleDataMessageSend x request
    let x ← finalizeResult x pendingCountBefore
    return (rc,x)
  else if request.mt ≠ mtCommand then .ok (.err,x)
  else do
    let outcome ← dispatchCommand x request
    let x ← reportError outcome
    let x ← finalizeResult x pendingCountBefore
    return (outcome.1,x)

end UciSim.Memory
