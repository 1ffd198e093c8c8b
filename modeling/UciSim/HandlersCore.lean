import UciSim.Measurement
import UciSim.Validation

/-!
# Core and vendor commands

A handler fills the response of the exchange and returns the source's code.
A response is the list of the bytes up to its length.
-/

set_option autoImplicit false

namespace UciSim

abbrev controlPayloadLimit : ℕ := 255
abbrev deviceInfoFixedLen : ℕ := 10
abbrev coreDeviceResetConfigValid : UInt8 := 1

def deviceStatusNotification (state : UInt8) : Packet :=
  .notification gidCore coreDeviceStatusNtf [state]

def coreGenericErrorNotification (status : UInt8) : Packet :=
  .notification gidCore coreGenericError [status]

def logicalLinkNotification (sessionId : UInt32) (oid linkId reasonOrCredit : UInt8) : Packet :=
  .notification gidSessionControl oid (writeU32Le sessionId ++ [linkId,reasonOrCredit])

/-- The identifiers of a get request are answered in order until one is refused. -/
def collectConfigs (lookup : UInt8 → Option (List UInt8)) :
    ℕ → List UInt8 → List UInt8 → ℕ → UInt8 × List UInt8 × ℕ
  | 0, _, items, processed => (statusOk,items,processed)
  | _+1, [], items, processed => (statusOk,items,processed)
  | remaining+1, configId::rest, items, processed =>
    match lookup configId with
    | none => (statusInvalidParam,items,processed)
    | some value =>
      if 2+items.length+2+value.length > maxPayload then (statusInvalidParam,items,processed)
      else collectConfigs lookup remaining rest
        (items ++ [configId,UInt8.ofNat value.length] ++ value) (processed+1)

def coreSetConfigs : ℕ → List UInt8 → Device → List UInt8 → Bool → Device × List UInt8 × Bool
  | remaining+1, configId::valueLen::rest, device, items, anyFailed =>
    let value := rest.take valueLen.toNat
    if rest.length < valueLen.toNat ∨ 2+items.length+2 > maxPayload then
      (device,items,anyFailed)
    else if configId = deviceConfigDeviceState then
      coreSetConfigs remaining (rest.drop valueLen.toNat) device
        (items ++ [configId,statusInvalidParam]) true
    else if !device.profile.supportsCoreConfig configId then
      coreSetConfigs remaining (rest.drop valueLen.toNat) device
        (items ++ [configId,statusInvalidParam]) true
    else match device.storeConfig configId value with
      | none => coreSetConfigs remaining (rest.drop valueLen.toNat) device
          (items ++ [configId,statusFailed]) true
      | some device => coreSetConfigs remaining (rest.drop valueLen.toNat) device
          (items ++ [configId,statusOk]) anyFailed
  | _, _, device, items, anyFailed => (device,items,anyFailed)

/-- `none` is a malformed request, else the entries, their number and the bytes left over. -/
def calibrationEntries : ℕ → List UInt8 → List UInt8 → ℕ → Option (List UInt8 × ℕ × List UInt8)
  | 0, rest, entries, numReturned => some (entries,numReturned,rest)
  | _+1, [], _, _ => none
  | remaining+1, keyLen::rest, entries, numReturned =>
    if rest.length < keyLen.toNat then none
    else if 3+entries.length+1+keyLen.toNat+1+1+1 > controlPayloadLimit then
      calibrationEntries remaining (rest.drop keyLen.toNat) entries numReturned
    else calibrationEntries remaining (rest.drop keyLen.toNat)
      (entries ++ [keyLen] ++ rest.take keyLen.toNat ++ [0,1,0xFF]) (numReturned+1)

def rcOf (status : UInt8) : Rc := if status = statusOk then .ok else .err

namespace Exchange

def respond (x : Exchange) (gid oid : UInt8) (payload : List UInt8) : Exchange :=
  { x with result := { x.result with
    response := some ⟨mtResponse,pbfComplete,gid,oid,payload⟩ } }

def makeStatusResponse (x : Exchange) (request : Packet) (status : UInt8) : Exchange :=
  x.respond request.gid request.oid [status]

def fail (x : Exchange) (request : Packet) (status : UInt8) : Rc × Exchange :=
  (.err, x.makeStatusResponse request status)

/-- The notification is dropped when its queue is full. -/
def emit (x : Exchange) (notification : Packet) : Exchange :=
  (x.deliverNotification notification).2

def handleQorvoExt2 (x : Exchange) (request : Packet) : Rc × Exchange :=
  if request.oid = oidQorvoCoreGetDeviceStats then
    let temperature := x.device.deviceStatsTemperature.toUInt16
    (.ok, x.respond gidQorvoExt2 oidQorvoCoreGetDeviceStats (statusOk::writeU16Le temperature))
  else x.fail request statusUnknownOid

def handleQorvoMac (x : Exchange) (request : Packet) : Rc × Exchange :=
  if request.oid = oidQorvoMacGetCalibrations then
    let malformed := x.respond gidQorvoMac oidQorvoMacGetCalibrations
      [statusInvalidMsgSize,0x00,0x00]
    if request.payload.length < 2 then (.err, malformed)
    else
      let numKeys := readU16Le request.payload 0
      match calibrationEntries numKeys.toNat (request.payload.drop 2) [] 0 with
      | some (entries,numReturned,[]) =>
        (.ok, x.respond gidQorvoMac oidQorvoMacGetCalibrations
          (statusOk::writeU16Le (UInt16.ofNat numReturned) ++ entries))
      | _ => (.err, malformed)
  else if request.oid = oidQorvoMacSetCalibrations then
    (.ok, x.makeStatusResponse request statusOk)
  else x.fail request statusUnknownOid

def handleCoreSetConfig (x : Exchange) (request : Packet) : Rc × Exchange :=
  match request.payload with
  | [] => x.fail request statusInvalidParam
  | count::rest =>
    let (device,items,anyFailed) := coreSetConfigs count.toNat rest x.device [] false
    let processed := items.length/2
    let status :=
      if anyFailed = true ∨ processed ≠ count.toNat then statusInvalidParam else statusOk
    (rcOf status, { x with device := device }.respond gidCore request.oid
      ([status,UInt8.ofNat processed] ++ items))

def handleCoreGetConfig (x : Exchange) (request : Packet) : Rc × Exchange :=
  match request.payload with
  | [] => x.fail request statusInvalidParam
  | count::rest =>
    let lookup := fun configId =>
      if x.device.profile.supportsCoreConfig configId then x.device.getConfig configId else none
    let (status,items,processed) := collectConfigs lookup count.toNat rest [] 0
    let status := if processed = 0 then statusInvalidParam else status
    (rcOf status, x.respond gidCore request.oid ([status,UInt8.ofNat processed] ++ items))

def handleDeviceReset (x : Exchange) (request : Packet) : Rc × Exchange :=
  if request.payload.length ≠ 1 then x.fail request statusInvalidMsgSize
  else if byteAt request.payload 0 ≠ coreDeviceResetConfigValid then
    x.fail request statusInvalidParam
  else
    let x := { x with device := x.device.resetRuntimeState }
    let x := x.makeStatusResponse request statusOk
    (.ok, x.emit (deviceStatusNotification x.device.deviceState))

def handleDeviceInfo (x : Exchange) : Rc × Exchange :=
  let vendor := x.device.profile.vendorSpecificData.take (controlPayloadLimit-deviceInfoFixedLen)
  (.ok, x.respond gidCore coreDeviceInfo
    (statusOk::(writeU16Le x.device.uciVersion ++ writeU16Le x.device.macVersion ++
      writeU16Le x.device.phyVersion ++ writeU16Le x.device.testVersion ++
      [UInt8.ofNat vendor.length] ++ vendor)))

def handleQueryUwbsTimestamp (x : Exchange) (request : Packet) : Rc × Exchange :=
  if request.payload.length ≠ 0 then x.fail request statusInvalidMsgSize
  else
    let device := x.device
    let x := x.respond gidCore coreQueryUwbsTimestamp
      (statusOk::writeU64Le device.nextUwbsTimestamp)
    (.ok, { x with device := { device with
      nextUwbsTimestamp := device.nextUwbsTimestamp+device.profile.uwbsTimestampIncrement } })

def handleCore (x : Exchange) (request : Packet) : Rc × Exchange :=
  if !x.device.profile.supportsCommand request.gid request.oid then
    x.fail request statusUnknownOid
  else if request.oid = coreDeviceReset then x.handleDeviceReset request
  else if request.oid = coreDeviceInfo then x.handleDeviceInfo
  else if request.oid = coreGetCapsInfo then
    if x.device.profile.coreCapsPayload.length = 0 then x.fail request statusFailed
    else (.ok, x.respond gidCore coreGetCapsInfo x.device.profile.coreCapsPayload)
  else if request.oid = coreSetConfig then x.handleCoreSetConfig request
  else if request.oid = coreGetConfig then x.handleCoreGetConfig request
  else if request.oid = coreQueryUwbsTimestamp then x.handleQueryUwbsTimestamp request
  else x.fail request statusUnknownOid

end Exchange

end UciSim
