import UciSim.MemoryValidation

/-!
# Core and vendor commands over arrays

The handlers as they walk the request and fill the response: the request is read
at an index, the response is an array with a cursor, and both cursors move on
their own. A handler returns what the model's own handler does.
-/

set_option autoImplicit false

namespace UciSim.Memory

open Arrays

abbrev Response := Buffer UInt8

/-- The response array with its first bytes; `memset` cleared the others. -/
abbrev holding (items : List UInt8) : Response := Buffer.holding maxPayload 0 items

def readU16Le (payload : List UInt8) (i : ℕ) : Checked UInt16 := do
  let bytes ← slice payload i 2
  return UciSim.readU16Le bytes 0

def readU32Le (payload : List UInt8) (i : ℕ) : Checked UInt32 := do
  let bytes ← slice payload i 4
  return UciSim.readU32Le bytes 0

def respond (x : Exchange) (gid oid : UInt8) (payload : List UInt8) : Checked Exchange := do
  touch 0 payload.length maxPayload
  return x.respond gid oid payload

def answer (rc : Rc) (x : Exchange) (gid oid : UInt8) (payload : List UInt8) :
    Checked (Rc × Exchange) := do
  let x ← respond x gid oid payload
  return (rc,x)

def fail (x : Exchange) (request : Packet) (status : UInt8) : Checked (Rc × Exchange) :=
  answer .err x request.gid request.oid [status]

def emit (x : Exchange) (notification : Packet) : Checked Exchange := do
  touch 0 notification.payload.length maxPayload
  let (_,x) ← deliverNotification x notification
  return x

def handleQorvoExt2 (x : Exchange) (request : Packet) : Checked (Rc × Exchange) :=
  if request.oid = oidQorvoCoreGetDeviceStats then
    answer .ok x gidQorvoExt2 oidQorvoCoreGetDeviceStats
      (statusOk::writeU16Le x.device.deviceStatsTemperature.toUInt16)
  else fail x request statusUnknownOid

/-- `none` is a malformed request, else the response, the entries in it and the offset behind
the last key. -/
def calibrationEntries (request : List UInt8) :
    ℕ → ℕ → Response → ℕ → Checked (Option (Response × ℕ × ℕ))
  | 0, offset, response, numReturned => .ok (some (response,numReturned,offset))
  | remaining+1, offset, response, numReturned =>
    if offset ≥ request.length then .ok none
    else do
      let keyLen ← read request offset
      let offset := offset+1
      if offset+keyLen.toNat > request.length then .ok none
      else if response.cursor+1+keyLen.toNat+1+1+1 > controlPayloadLimit then
        calibrationEntries request remaining (offset+keyLen.toNat) response numReturned
      else do
        let response ← response.push keyLen
        let key ← slice request offset keyLen.toNat
        let response ← response.pushAll key
        let response ← response.pushAll [0,1,0xFF]
        calibrationEntries request remaining (offset+keyLen.toNat) response (numReturned+1)

def handleQorvoMac (x : Exchange) (request : Packet) : Checked (Rc × Exchange) :=
  if request.oid = oidQorvoMacGetCalibrations then
    let malformed := answer .err x gidQorvoMac oidQorvoMacGetCalibrations
      [statusInvalidMsgSize,0x00,0x00]
    if request.payload.length < 2 then malformed
    else do
      let numKeys ← readU16Le request.payload 0
      match ← calibrationEntries request.payload numKeys.toNat 2 (holding [statusOk,0,0]) 0 with
      | none => malformed
      | some (response,numReturned,offset) =>
        if offset ≠ request.payload.length then malformed
        else do
          let response ← response.put 1 (UInt16.ofNat numReturned &&& 0xFF).toUInt8
          let response ← response.put 2 ((UInt16.ofNat numReturned >>> 8) &&& 0xFF).toUInt8
          return (.ok,x.respond gidQorvoMac oidQorvoMacGetCalibrations response.filled)
  else if request.oid = oidQorvoMacSetCalibrations then
    answer .ok x request.gid request.oid [statusOk]
  else fail x request statusUnknownOid

/-- The device, the response, the entries processed and whether one of them failed. -/
def coreSetConfigs (request : List UInt8) :
    ℕ → ℕ → Device → Response → ℕ → Bool → Checked (Device × Response × ℕ × Bool)
  | 0, _, device, response, processed, anyFailed => .ok (device,response,processed,anyFailed)
  | remaining+1, offset, device, response, processed, anyFailed =>
    if offset+2 > request.length then .ok (device,response,processed,anyFailed)
    else do
      let configId ← read request offset
      let valueLen ← read request (offset+1)
      let offset := offset+2
      if offset+valueLen.toNat > request.length ∨ response.cursor+2 > maxPayload then
        return (device,response,processed,anyFailed)
      else
        let next := offset+valueLen.toNat
        if configId = deviceConfigDeviceState then do
          let response ← response.pushAll [configId,statusInvalidParam]
          coreSetConfigs request remaining next device response (processed+1) true
        else if !device.profile.supportsCoreConfig configId then do
          let response ← response.pushAll [configId,statusInvalidParam]
          coreSetConfigs request remaining next device response (processed+1) true
        else do
          match ← deviceStoreConfig device configId ⟨request,offset,valueLen.toNat⟩ with
          | none =>
            let response ← response.pushAll [configId,statusFailed]
            coreSetConfigs request remaining next device response (processed+1) true
          | some device =>
            let response ← response.pushAll [configId,statusOk]
            coreSetConfigs request remaining next device response (processed+1) anyFailed

def handleCoreSetConfig (x : Exchange) (request : Packet) : Checked (Rc × Exchange) :=
  if request.payload.length < 1 then fail x request statusInvalidParam
  else do
    let count ← read request.payload 0
    let (device,response,processed,anyFailed) ←
      coreSetConfigs request.payload count.toNat 1 x.device (holding [statusOk,0]) 0 false
    let status :=
      if anyFailed = true ∨ processed ≠ count.toNat then statusInvalidParam else statusOk
    let response ← response.put 0 status
    let response ← response.put 1 (UInt8.ofNat processed)
    return (rcOf status,{ x with device := device }.respond gidCore request.oid
      (response.cells.take (2+processed*2)))

/-- The values asked for are copied behind one another while the response has room. -/
def collectConfigs (lookup : UInt8 → Checked (Option (List UInt8))) (request : List UInt8) :
    ℕ → ℕ → Response → ℕ → Checked (UInt8 × Response × ℕ)
  | 0, _, response, processed => .ok (statusOk,response,processed)
  | remaining+1, offset, response, processed =>
    if offset ≥ request.length then .ok (statusOk,response,processed)
    else do
      let configId ← read request offset
      match ← lookup configId with
      | none => return (statusInvalidParam,response,processed)
      | some value =>
        if response.cursor+2+value.length > maxPayload then
          return (statusInvalidParam,response,processed)
        else do
          let response ← response.pushAll [configId,UInt8.ofNat value.length]
          let response ← response.pushAll value
          collectConfigs lookup request remaining (offset+1) response (processed+1)

/-- The first two bytes of the response are its status and the number of its entries. -/
def answerCollected (x : Exchange) (gid oid status : UInt8) (response : Response)
    (processed : ℕ) : Checked (Rc × Exchange) := do
  let response ← response.put 0 status
  let response ← response.put 1 (UInt8.ofNat processed)
  return (rcOf status,x.respond gid oid response.filled)

def handleCoreGetConfig (x : Exchange) (request : Packet) : Checked (Rc × Exchange) :=
  if request.payload.length < 1 then fail x request statusInvalidParam
  else do
    let count ← read request.payload 0
    let lookup := fun configId =>
      if x.device.profile.supportsCoreConfig configId then deviceGetConfig x.device configId
      else .ok none
    let (status,response,processed) ←
      collectConfigs lookup request.payload count.toNat 1 (holding [statusOk,0]) 0
    let status := if processed = 0 then statusInvalidParam else status
    answerCollected x gidCore request.oid status response processed

def handleDeviceReset (x : Exchange) (request : Packet) : Checked (Rc × Exchange) :=
  if request.payload.length ≠ 1 then fail x request statusInvalidMsgSize
  else do
    let value ← read request.payload 0
    if value ≠ coreDeviceResetConfigValid then fail x request statusInvalidParam
    else do
      let x := { x with device := x.device.resetRuntimeState }
      let x ← respond x request.gid request.oid [statusOk]
      let x ← emit x (deviceStatusNotification x.device.deviceState)
      return (.ok,x)

def handleDeviceInfo (x : Exchange) : Checked (Rc × Exchange) :=
  let vendor := x.device.profile.vendorSpecificData.take (controlPayloadLimit-deviceInfoFixedLen)
  answer .ok x gidCore coreDeviceInfo
    (statusOk::(writeU16Le x.device.uciVersion ++ writeU16Le x.device.macVersion ++
      writeU16Le x.device.phyVersion ++ writeU16Le x.device.testVersion ++
      [UInt8.ofNat vendor.length] ++ vendor))

def handleQueryUwbsTimestamp (x : Exchange) (request : Packet) : Checked (Rc × Exchange) :=
  if request.payload.length ≠ 0 then fail x request statusInvalidMsgSize
  else do
    let device := x.device
    let x ← respond x gidCore coreQueryUwbsTimestamp
      (statusOk::writeU64Le device.nextUwbsTimestamp)
    return (.ok,{ x with device := { device with
      nextUwbsTimestamp := device.nextUwbsTimestamp+device.profile.uwbsTimestampIncrement } })

def handleCore (x : Exchange) (request : Packet) : Checked (Rc × Exchange) :=
  if !x.device.profile.supportsCommand request.gid request.oid then
    fail x request statusUnknownOid
  else if request.oid = coreDeviceReset then handleDeviceReset x request
  else if request.oid = coreDeviceInfo then handleDeviceInfo x
  else if request.oid = coreGetCapsInfo then
    if x.device.profile.coreCapsPayload.length = 0 then fail x request statusFailed
    else answer .ok x gidCore coreGetCapsInfo x.device.profile.coreCapsPayload
  else if request.oid = coreSetConfig then handleCoreSetConfig x request
  else if request.oid = coreGetConfig then handleCoreGetConfig x request
  else if request.oid = coreQueryUwbsTimestamp then handleQueryUwbsTimestamp x request
  else fail x request statusUnknownOid

end UciSim.Memory
