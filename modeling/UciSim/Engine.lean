import UciSim.HandlersControl

/-!
# The engine

The engine owns the device and the outbound queue. Every call returns the
source's code and the history of the call: the response made and the
notifications accepted while it ran, in order.
-/

set_option autoImplicit false

namespace UciSim

structure Engine where
  device : Device
  outboundPackets : List Packet

structure Outcome where
  rc : Rc
  engine : Engine
  produced : List Packet

namespace Engine

def initWithProfile (profile : Profile) (scenario : Scenario) : Engine :=
  ⟨Device.initWithProfile profile scenario,[]⟩

def queueOutboundPacket (engine : Engine) (packet : Packet) : Rc × Engine :=
  if engine.outboundPackets.length ≥ maxOutboundPackets then (.err, engine)
  else (.ok, { engine with outboundPackets := engine.outboundPackets ++ [packet] })

/-- One turn of the loop for each pending notification, as long as it is queued. -/
def flushLoop : ℕ → Engine → Engine
  | 0, engine => engine
  | turns+1, engine =>
    match engine.device.dequeueNotification with
    | none => engine
    | some (packet,device) =>
      match queueOutboundPacket { engine with device := device } packet with
      | (.ok,engine) => flushLoop turns engine
      | (.err,engine) => engine

def flushDeviceNotifications (engine : Engine) : Engine :=
  if engine.device.scenario.shouldDeferNotification then engine
  else flushLoop (engine.device.pendingNotifications.length+1) engine

/-- The next event of a session that goes on. -/
def scheduleNext (engine : Engine) (produced : List Packet) (type : EventType)
    (i : Fin maxSessions) : Outcome :=
  let session := engine.device.sessions i
  let (rc,device) := engine.device.scheduleEvent type session.sessionId
    (session.getRangingIntervalMs engine.device.profile)
  ⟨rc,{ engine with device := device },produced⟩

def processRangeData (engine : Engine) (i : Fin maxSessions) : Outcome :=
  match (Exchange.start engine.device).emitRangingStream i with
  | (.err,x) => ⟨.err,{ engine with device := x.device },x.accepted⟩
  | (.ok,x) =>
    let engine := flushDeviceNotifications { engine with device := x.device }
    let session := engine.device.sessions i
    if session.rangingStreamRemaining > 0 ∧ session.state = sessionStateActive then
      engine.scheduleNext x.accepted .rangeData i
    else ⟨.ok,engine,x.accepted⟩

def processDataTransfer (engine : Engine) (i : Fin maxSessions) : Outcome :=
  let session := engine.device.sessions i
  if session.state ≠ sessionStateActive ∨ session.dataTransferInProgress = false then
    ⟨.ok,engine,[]⟩
  else match (Exchange.start engine.device).progressDataTransfer i with
    | (.err,x) => ⟨.err,{ engine with device := x.device },x.accepted⟩
    | (.ok,x) =>
      let engine := flushDeviceNotifications { engine with device := x.device }
      if (engine.device.sessions i).dataTransferInProgress then
        engine.scheduleNext x.accepted .dataTransfer i
      else ⟨.ok,engine,x.accepted⟩

def processReadyEvent (engine : Engine) (event : ScheduledEvent) : Outcome :=
  match event.type with
  | .none => ⟨.ok,engine,[]⟩
  | .rangeData =>
    match engine.device.findSession event.sessionId with
    | none => ⟨.ok,engine,[]⟩
    | some i => engine.processRangeData i
  | .dataTransfer =>
    match engine.device.findSession event.sessionId with
    | none => ⟨.ok,engine,[]⟩
    | some i => engine.processDataTransfer i

def tick (engine : Engine) (elapsedMs : UInt32) : Outcome :=
  let device := engine.device.tickEvents elapsedMs
  match device.dequeueReadyEvent with
  | none => ⟨.ok,{ engine with device := device },[]⟩
  | some (event,device) => processReadyEvent { engine with device := device } event

def queueOptional (engine : Engine) : Option Packet → Rc × Engine
  | none => (.ok, engine)
  | some packet => engine.queueOutboundPacket packet

def submitPacket (engine : Engine) (request : Packet) : Outcome :=
  let (rc,x) := engine.device.handlePacket request
  let engine := { engine with device := x.device }
  let produced := x.result.response.toList ++ x.accepted
  if rc = .err ∧ x.result.response = none ∧ x.result.notification = none then
    ⟨.err,engine,produced⟩
  else match engine.queueOptional x.result.response with
    | (.err,engine) => ⟨.err,engine,produced⟩
    | (.ok,engine) =>
      match engine.queueOptional x.result.notification with
      | (.err,engine) => ⟨.err,engine,produced⟩
      | (.ok,engine) =>
        let ticked := (flushDeviceNotifications engine).tick 0
        { ticked with produced := produced ++ ticked.produced }

def dequeueOutboundPacket (engine : Engine) : Option (Packet × Engine) :=
  match engine.outboundPackets with
  | [] => none
  | packet::rest => some (packet, { engine with outboundPackets := rest })

end Engine

end UciSim
