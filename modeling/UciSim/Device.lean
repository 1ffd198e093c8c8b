import UciSim.Session
import Mathlib.Data.Fintype.Basic
import Mathlib.Logic.Function.Basic

/-!
# The device

Eight session slots, a queue of timed events and a queue of notifications that
wait for the transport. An exchange is one call in progress: the device, the
result slots of the call, and the history of the notifications accepted so far.
No function reads the history.
-/

set_option autoImplicit false

namespace UciSim

inductive Scenario where
  | default
  | delayedNotifications
  | rangingStream
  deriving DecidableEq, Repr

def Scenario.shouldDeferNotification (scenario : Scenario) : Bool :=
  scenario == .delayedNotifications

def Scenario.shouldAutoDeliverPending (scenario : Scenario) (pendingCountBefore : ℕ) : Bool :=
  !(scenario == .delayedNotifications && pendingCountBefore == 0)

inductive EventType where
  | none
  | rangeData
  | dataTransfer
  deriving DecidableEq, Repr

structure ScheduledEvent where
  type : EventType
  sessionId : UInt32
  delayMs : UInt32
  deriving DecidableEq, Repr

structure Device where
  uciVersion : UInt16
  macVersion : UInt16
  phyVersion : UInt16
  testVersion : UInt16
  deviceStatsTemperature : Int16
  deviceState : UInt8
  nextUwbsTimestamp : UInt64
  profile : Profile
  deviceConfigs : List (UInt8 × List UInt8)
  scenario : Scenario
  nextRangingSequence : UInt32
  sessions : Fin maxSessions → Session
  scheduledEvents : List ScheduledEvent
  pendingNotifications : List Packet

structure Result where
  response : Option Packet
  notification : Option Packet
  deriving DecidableEq, Repr

structure Exchange where
  device : Device
  result : Result
  accepted : List Packet

namespace Device

def applyProfileDefaults (device : Device) (profile : Profile) : Device :=
  { device with
    profile := profile
    uciVersion := profile.uciVersion
    macVersion := profile.macVersion
    phyVersion := profile.phyVersion
    testVersion := profile.testVersion
    deviceStatsTemperature := profile.deviceStatsTemperature
    deviceState := profile.defaultDeviceState
    nextUwbsTimestamp := profile.initialUwbsTimestamp
    deviceConfigs := [
      (deviceConfigDeviceState, [profile.defaultDeviceState]),
      (deviceConfigLowPowerMode, [profile.defaultLowPowerMode]),
      (deviceConfigDevicePanId, [profile.defaultDevicePanId.1, profile.defaultDevicePanId.2])] }

def zero (profile : Profile) (scenario : Scenario) : Device where
  uciVersion := 0
  macVersion := 0
  phyVersion := 0
  testVersion := 0
  deviceStatsTemperature := 0
  deviceState := 0
  nextUwbsTimestamp := 0
  profile := profile
  deviceConfigs := []
  scenario := scenario
  nextRangingSequence := 0
  sessions := fun _ => Session.zero
  scheduledEvents := []
  pendingNotifications := []

def initWithProfile (profile : Profile) (scenario : Scenario) : Device :=
  { applyProfileDefaults (zero profile scenario) profile with
    scenario := scenario
    nextRangingSequence := 1 }

def resetRuntimeState (device : Device) : Device :=
  { applyProfileDefaults { device with
      sessions := fun _ => Session.zero
      scheduledEvents := []
      pendingNotifications := []
      nextRangingSequence := 1 } device.profile with
    scenario := device.scenario }

def dequeueNotification (device : Device) : Option (Packet × Device) :=
  match device.pendingNotifications with
  | [] => none
  | packet::rest => some (packet, { device with pendingNotifications := rest })

def scheduleEvent (device : Device) (type : EventType) (sessionId delayMs : UInt32) :
    Rc × Device :=
  if type = .none then (.err, device)
  else if device.scheduledEvents.length ≥ maxScenarioEvents then (.err, device)
  else (.ok, { device with
    scheduledEvents := device.scheduledEvents ++ [⟨type,sessionId,delayMs⟩] })

def rescheduleSessionEvent (device : Device) (type : EventType) (sessionId delayMs : UInt32) :
    Rc × Device :=
  if type = .none then (.err, device)
  else
    let kept := device.scheduledEvents.filter
      (fun event => !(event.type == type && event.sessionId == sessionId))
    scheduleEvent { device with scheduledEvents := kept } type sessionId delayMs

def cancelSessionEvents (device : Device) (sessionId : UInt32) : Device :=
  { device with
    scheduledEvents := device.scheduledEvents.filter (fun event => event.sessionId != sessionId) }

def tickEvents (device : Device) (elapsedMs : UInt32) : Device :=
  { device with
    scheduledEvents := device.scheduledEvents.map (fun event =>
      { event with
        delayMs := if event.delayMs > elapsedMs then event.delayMs-elapsedMs else 0 }) }

def dequeueReadyEvent (device : Device) : Option (ScheduledEvent × Device) :=
  match device.scheduledEvents.find? (fun event => event.delayMs == 0) with
  | none => none
  | some event => some (event, { device with
      scheduledEvents := device.scheduledEvents.eraseP (fun event => event.delayMs == 0) })

def storeConfig (device : Device) (configId : UInt8) (value : List UInt8) : Option Device :=
  if value.length > maxConfigValue then none
  else if configId = deviceConfigDeviceState then none
  else (Table.store maxDeviceConfigs device.deviceConfigs configId value).map
    (fun configs => { device with deviceConfigs := configs })

def getConfig (device : Device) (configId : UInt8) : Option (List UInt8) :=
  if configId = deviceConfigDeviceState then some [device.deviceState]
  else Table.lookup configId device.deviceConfigs

def findSession (device : Device) (sessionId : UInt32) : Option (Fin maxSessions) :=
  (List.finRange maxSessions).find? (fun i =>
    (device.sessions i).allocated && (device.sessions i).sessionId == sessionId)

def freeSession (device : Device) : Option (Fin maxSessions) :=
  (List.finRange maxSessions).find? (fun i => !(device.sessions i).allocated)

def setSession (device : Device) (i : Fin maxSessions) (session : Session) : Device :=
  { device with sessions := Function.update device.sessions i session }

def allocatedCount (device : Device) : ℕ :=
  (List.finRange maxSessions).countP (fun i => (device.sessions i).allocated)

end Device

def Packet.notification (gid oid : UInt8) (payload : List UInt8) : Packet :=
  ⟨mtNotification,pbfComplete,gid,oid,payload⟩

def dataCreditNotification (sessionId : UInt32) (availability : UInt8) : Packet :=
  .notification gidSessionControl sessionDataCreditNtf (writeU32Le sessionId ++ [availability])

def dataTransferStatusNotification (sessionId : UInt32) (sequenceNumber : UInt16)
    (status txCount : UInt8) : Packet :=
  .notification gidSessionControl sessionDataTransferStatusNtf
    (writeU32Le sessionId ++ writeU16Le sequenceNumber ++ [status,txCount])

def sessionStatusNotification (sessionId : UInt32) (state reason : UInt8) : Packet :=
  .notification gidSessionConfig sessionStatusNtf (writeU32Le sessionId ++ [state,reason])

namespace Exchange

def start (device : Device) : Exchange := ⟨device,⟨none,none⟩,[]⟩

def queueNotification (x : Exchange) (notification : Packet) : Rc × Exchange :=
  if x.device.pendingNotifications.length ≥ maxPendingNotifications then (.err, x)
  else (.ok, { x with
    device := { x.device with
      pendingNotifications := x.device.pendingNotifications ++ [notification] }
    accepted := x.accepted ++ [notification] })

def placeNotification (x : Exchange) (notification : Packet) : Exchange :=
  { x with
    result := { x.result with notification := some notification }
    accepted := x.accepted ++ [notification] }

def deliverNotification (x : Exchange) (notification : Packet) : Rc × Exchange :=
  if x.device.scenario.shouldDeferNotification then x.queueNotification notification
  else if x.result.notification.isNone then (.ok, x.placeNotification notification)
  else x.queueNotification notification

def finalizeResult (x : Exchange) (pendingCountBefore : ℕ) : Exchange :=
  if x.result.notification.isSome then x
  else if !x.device.scenario.shouldAutoDeliverPending pendingCountBefore then x
  else match x.device.dequeueNotification with
    | none => x
    | some (packet,device) =>
      { x with device := device, result := { x.result with notification := some packet } }

def queueDataCreditNotification (x : Exchange) (sessionId : UInt32) (availability : UInt8) :
    Rc × Exchange :=
  x.queueNotification (dataCreditNotification sessionId availability)

def queueDataTransferStatusNotification (x : Exchange) (sessionId : UInt32)
    (sequenceNumber : UInt16) (status txCount : UInt8) : Rc × Exchange :=
  x.queueNotification (dataTransferStatusNotification sessionId sequenceNumber status txCount)

def queueSessionStatusNotification (x : Exchange) (sessionId : UInt32)
    (state reason : UInt8) : Rc × Exchange :=
  x.queueNotification (sessionStatusNotification sessionId state reason)

def setSession (x : Exchange) (i : Fin maxSessions) (session : Session) : Exchange :=
  { x with device := x.device.setSession i session }

end Exchange

end UciSim
