import UciSim.EventQueue

/-!
# What one packet can do

`Change` lists everything a command can do to the device together with the
notifications it emits, and `DataChange` does the same for a data message. The
notifications go to the mailbox only, so `handlePacket` is the change followed by
posting them. Every later result about commands is read off these lists.
-/

set_option autoImplicit false

namespace UciSim

def Packet.IsSessionStatus (n : Packet) : Prop :=
  n.mt = mtNotification ∧ n.gid = gidSessionConfig ∧ n.oid = sessionStatusNtf

def Packet.IsDeviceStatus (n : Packet) : Prop :=
  n.mt = mtNotification ∧ n.gid = gidCore ∧ n.oid = coreDeviceStatusNtf

instance (n : Packet) : Decidable n.IsSessionStatus :=
  inferInstanceAs (Decidable (_ ∧ _ ∧ _))

instance (n : Packet) : Decidable n.IsDeviceStatus :=
  inferInstanceAs (Decidable (_ ∧ _ ∧ _))

/-- A notification that tells nothing about the session table. -/
def Packet.Quiet (n : Packet) : Prop := ¬ n.IsSessionStatus ∧ ¬ n.IsDeviceStatus

theorem generic_error_quiet (status : UInt8) : (coreGenericErrorNotification status).Quiet := by
  simp [Packet.Quiet, Packet.IsSessionStatus, Packet.IsDeviceStatus,
    coreGenericErrorNotification, Packet.notification]
  decide

/-- The last message taken and the number of the one under way. -/
structure Session.SameMessages (s s' : Session) : Prop where
  taken : s'.hasLastDataMessage = s.hasLastDataMessage
  sequence : s'.lastDataSequence = s.lastDataSequence
  length : s'.lastDataLength = s.lastDataLength
  transfer : s'.dataTransferSequence = s.dataTransferSequence

/-- The measurements of a session and what the last one said about its range. -/
structure Session.SameMeasurements (s s' : Session) : Prop where
  count : s'.rangingCount = s.rangingCount
  known : s'.hasLastProximityState = s.hasLastProximityState
  inside : s'.lastInProximityRange = s.lastInProximityRange

/-- The fields the rest of the device follows a session by. -/
structure Session.SameLifecycle (s s' : Session) : Prop where
  allocated : s'.allocated = s.allocated
  sessionId : s'.sessionId = s.sessionId
  state : s'.state = s.state
  remaining : s'.rangingStreamRemaining = s.rangingStreamRemaining
  inProgress : s'.dataTransferInProgress = s.dataTransferInProgress
  messages : s.SameMessages s'
  repetitions : s'.dataTransferRepetitionsRemaining = s.dataTransferRepetitionsRemaining
  transmitted : s'.dataTransferTxCount = s.dataTransferTxCount
  measurements : s.SameMeasurements s'

/-- Only the core configuration or the clock moved. -/
structure Device.SameControl (d d' : Device) : Prop where
  profile : d'.profile = d.profile
  scenario : d'.scenario = d.scenario
  sessions : d'.sessions = d.sessions
  events : d'.scheduledEvents = d.scheduledEvents
  pending : d'.pendingNotifications = d.pendingNotifications
  sequence : d'.nextRangingSequence = d.nextRangingSequence

theorem Device.SameControl.refl (d : Device) : d.SameControl d := ⟨rfl,rfl,rfl,rfl,rfl,rfl⟩

/-- A set request stores parameters one by one and may move the ranging event. -/
inductive Reconfigured (i : Fin maxSessions) (d : Device) : Device → Prop where
  | same : Reconfigured i d d
  | stored (d' : Device) (configId : UInt8) (value : List UInt8) (session : Session)
      (before : Reconfigured i d d')
      (admitted : validatedAppConfigs.contains configId = true →
        ∀ invalid, validateSessionAppConfig d'.profile (d'.sessions i) configId value =
          .error invalid → invalid.surface ≠ invalidConfigSurfaceImmediate)
      (supported : d'.profile.supportsSessionAppConfig configId = true)
      (stored : (d'.sessions i).storeConfig configId value = some session) :
      Reconfigured i d (d'.setSession i (session.forgetProximity configId))
  | rescheduled (d' : Device) (delayMs : UInt32) (before : Reconfigured i d d')
      (active : (d'.sessions i).state = sessionStateActive)
      (streaming : (d'.sessions i).rangingStreamRemaining > 0) :
      Reconfigured i d
        (d'.rescheduleSessionEvent .rangeData (d'.sessions i).sessionId delayMs).2

namespace Device

/-- The slot as `allocSession` fills it. -/
def freshSession (d : Device) (i : Fin maxSessions) (sessionId : UInt32) : Session :=
  { d.sessions i with
    allocated := true
    sessionId := sessionId
    sessionType := d.profile.defaultSessionType
    state := d.profile.initialSessionState
    rangingCount := 0
    hasLastProximityState := false
    lastInProximityRange := false
    maxDataSize := d.profile.defaultSessionMaxDataSize }.storeDefaults
      d.profile.defaultSessionAppConfigs

/-- The device after a set request for slot `i`. -/
def reconfigured (d : Device) (request : Packet) (i : Fin maxSessions) : Device :=
  (setAppConfigs (byteAt request.payload 4).toNat (request.payload.drop 5) d i).2

def entered (d : Device) (oid : UInt8) (i : Fin maxSessions) (nextState : UInt8) : Device :=
  (d.setSession i (d.entering oid i nextState)).reactToTransition oid i

end Device

inductive Change (d : Device) (request : Packet) : List Packet → Device → Prop where
  | housekept (d' : Device) (same : d.SameControl d') : Change d request [] d'
  | edited (i : Fin maxSessions) (session : Session)
      (allocated : (d.sessions i).allocated = true)
      (lifecycle : (d.sessions i).SameLifecycle session)
      (configs : session.configs = (d.sessions i).configs) :
      Change d request [] (d.setSession i session)
  | linked (i : Fin maxSessions) (session : Session) (sessionId : UInt32)
      (oid linkId credit : UInt8) (allocated : (d.sessions i).allocated = true)
      (lifecycle : (d.sessions i).SameLifecycle session)
      (configs : session.configs = (d.sessions i).configs)
      (named : oid = sessionLogicalLinkUwbsCreate ∨ oid = sessionLogicalLinkUwbsClose) :
      Change d request [logicalLinkNotification sessionId oid linkId credit]
        (d.setSession i session)
  | configured (i : Fin maxSessions)
      (command : request.gid = gidSessionConfig ∧ request.oid = sessionSetAppConfig)
      (supported : d.profile.supportsCommand request.gid request.oid = true)
      (long : 5 ≤ request.payload.length)
      (found : d.findSession (readU32Le request.payload 0) = some i)
      (steps : Reconfigured i d (d.reconfigured request i)) :
      Change d request [] (d.reconfigured request i)
  | reported (sessionId : UInt32) (i : Fin maxSessions) (reason : UInt8)
      (found : d.findSession sessionId = some i) :
      Change d request
        [sessionStatusNotification sessionId (d.sessions i).state reason] d
  | opened (sessionId : UInt32) (i : Fin maxSessions) (reason : UInt8)
      (absent : d.findSession sessionId = none) (free : d.freeSession = some i) :
      Change d request
        [sessionStatusNotification sessionId d.profile.initialSessionState reason]
        (d.setSession i (d.freshSession i sessionId))
  | closed (i : Fin maxSessions) (reason : UInt8)
      (command : request.gid = gidSessionConfig ∧ request.oid = sessionDeinit)
      (supported : d.profile.supportsCommand request.gid request.oid = true)
      (long : 4 ≤ request.payload.length)
      (found : d.findSession (readU32Le request.payload 0) = some i) :
      Change d request
        [sessionStatusNotification (readU32Le request.payload 0) sessionStateDeinit reason]
        (d.setSession i Session.zero)
  | moved (i : Fin maxSessions) (reason : UInt8) (transition : SessionTransition)
      (command : request.gid = gidSessionControl)
      (supported : d.profile.supportsCommand request.gid request.oid = true)
      (long : 4 ≤ request.payload.length)
      (found : d.findSession (readU32Le request.payload 0) = some i)
      (listed : d.profile.getSessionTransition request.oid = some transition)
      (allowed : transition.allows (d.sessions i).state = true)
      (valid : request.oid = sessionStart →
        validateSessionStart d.profile (d.sessions i) = .ok ()) :
      Change d request
        [sessionStatusNotification (readU32Le request.payload 0) transition.nextState reason]
        (d.entered request.oid i transition.nextState)
  | reset (command : request.gid = gidCore ∧ request.oid = coreDeviceReset)
      (value : request.payload = [coreDeviceResetConfigValid]) :
      Change d request [deviceStatusNotification d.resetRuntimeState.deviceState]
        d.resetRuntimeState

inductive Posting where
  | delivered (ns : List Packet)
  | queued (ns : List Packet)
  | placed (n : Packet)

def Posting.packets : Posting → List Packet
  | .delivered ns => ns
  | .queued ns => ns
  | .placed n => [n]

/-- The completion of a message: its credit, then its status. -/
def dataCompletion (sessionId : UInt32) (sequenceNumber : UInt16) (status txCount : UInt8) :
    List Packet :=
  [dataCreditNotification sessionId 1,
    dataTransferStatusNotification sessionId sequenceNumber status txCount]

inductive DataChange (d : Device) (request : Packet) : Posting → Device → Prop where
  | ignored : DataChange d request (.queued []) d
  | refused (sessionId : UInt32) (sequenceNumber : UInt16) (status txCount : UInt8) :
      DataChange d request
        (.placed (dataTransferStatusNotification sessionId sequenceNumber status txCount)) d
  | repeated (i : Fin maxSessions) (sequenceNumber : UInt16)
      (found : d.findSession (readU32Le request.payload 0) = some i)
      (active : (d.sessions i).state = sessionStateActive) :
      DataChange d request
        (.queued (dataCompletion (readU32Le request.payload 0) sequenceNumber
          dataTransferStatusRepetitionOk 1)) d
  | completed (i : Fin maxSessions) (sequenceNumber declaredLength : UInt16)
      (found : d.findSession (readU32Le request.payload 0) = some i)
      (active : (d.sessions i).state = sessionStateActive)
      (idle : (d.sessions i).dataTransferInProgress = false) :
      DataChange d request
        (.queued (dataCompletion (readU32Le request.payload 0) sequenceNumber
          dataTransferStatusOk 1))
        (d.setSession i ((d.sessions i).rememberData sequenceNumber declaredLength))
  | begun (i : Fin maxSessions) (sequenceNumber declaredLength : UInt16) (delayMs : UInt32)
      (found : d.findSession (readU32Le request.payload 0) = some i)
      (active : (d.sessions i).state = sessionStateActive)
      (idle : (d.sessions i).dataTransferInProgress = false)
      (room : d.scheduledEvents.length < maxScenarioEvents) :
      DataChange d request (.queued [])
        ((d.setSession i
          (((d.sessions i).rememberData sequenceNumber declaredLength).beginTransfer
            (d.sessions i).getDataRepetitionCount sequenceNumber)).withEvents
          (d.scheduledEvents ++ [⟨.dataTransfer,readU32Le request.payload 0,delayMs⟩]))
  | unscheduled (i : Fin maxSessions) (sequenceNumber declaredLength : UInt16)
      (found : d.findSession (readU32Le request.payload 0) = some i)
      (active : (d.sessions i).state = sessionStateActive)
      (idle : (d.sessions i).dataTransferInProgress = false)
      (full : maxScenarioEvents ≤ d.scheduledEvents.length) :
      DataChange d request (.queued [])
        (d.setSession i
          (((d.sessions i).rememberData sequenceNumber declaredLength).beginTransfer
            (d.sessions i).getDataRepetitionCount sequenceNumber).abandonTransfer)

end UciSim
