import UciSim.Profile
import UciSim.General.Table

/-!
# Sessions

One slot of the session table. An array with a count is the list of its counted
bytes; a multicast slot that is not in use is `none`. Configurations fill their
slots in order and a slot is never freed singly, so the table is insertion ordered.
-/

set_option autoImplicit false

namespace UciSim

structure MulticastEntry where
  shortAddress : UInt16
  subsessionId : UInt32
  key : List UInt8
  deriving DecidableEq, Repr

structure LogicalLink where
  linkId : UInt8
  mode : UInt8
  credit : UInt8
  deriving DecidableEq, Repr

structure Session where
  sessionId : UInt32
  sessionType : UInt8
  state : UInt8
  rangingCount : UInt32
  maxDataSize : UInt16
  rangingStreamRemaining : UInt8
  dtAnchorRoundIndexes : List UInt8
  dtTagRoundIndexes : List UInt8
  dtpRepetition : UInt8
  dtpControl : UInt8
  dtpSize : UInt8
  dtpPayload : List UInt8
  lastDataSequence : UInt16
  lastDataLength : UInt16
  hasLastDataMessage : Bool
  dataTransferInProgress : Bool
  dataTransferRepetitionsRemaining : UInt8
  dataTransferTxCount : UInt8
  dataTransferSequence : UInt16
  hasLastProximityState : Bool
  lastInProximityRange : Bool
  allocated : Bool
  configs : List (UInt8 × List UInt8)
  multicastEntries : List (Option MulticastEntry)
  logicalLinks : List LogicalLink
  deriving DecidableEq, Repr

/-- A slot after `memset`. -/
def Session.zero : Session where
  sessionId := 0
  sessionType := 0
  state := 0
  rangingCount := 0
  maxDataSize := 0
  rangingStreamRemaining := 0
  dtAnchorRoundIndexes := []
  dtTagRoundIndexes := []
  dtpRepetition := 0
  dtpControl := 0
  dtpSize := 0
  dtpPayload := []
  lastDataSequence := 0
  lastDataLength := 0
  hasLastDataMessage := false
  dataTransferInProgress := false
  dataTransferRepetitionsRemaining := 0
  dataTransferTxCount := 0
  dataTransferSequence := 0
  hasLastProximityState := false
  lastInProximityRange := false
  allocated := false
  configs := []
  multicastEntries := List.replicate maxMulticastEntries none
  logicalLinks := []

/-- A read of one parameter into a local buffer of `size` bytes. -/
structure Reader where
  configId : UInt8
  size : ℕ
  deriving DecidableEq, Repr

namespace Session

def storeConfig (session : Session) (configId : UInt8) (value : List UInt8) :
    Option Session :=
  if value.length > maxConfigValue then none
  else (Table.store maxSessionConfigs session.configs configId value).map
    (fun configs => { session with configs := configs })

def getConfig (session : Session) (configId : UInt8) : Option (List UInt8) :=
  Table.lookup configId session.configs

/-- The bytes the copy writes at the reader's buffer, of the stored length. -/
def read (session : Session) (reader : Reader) : Option (List UInt8) :=
  session.getConfig reader.configId

def readU8 (session : Session) (reader : Reader) (fallback : UInt8) : UInt8 :=
  match session.read reader with
  | some [value] => value
  | _ => fallback

def readU16 (session : Session) (reader : Reader) (fallback : UInt16) : UInt16 :=
  match session.read reader with
  | some [b0,b1] => readU16Le [b0,b1] 0
  | _ => fallback

abbrev sessionInfoNtfConfigReader : Reader := ⟨appConfigSessionInfoNtfConfig,1⟩
abbrev proximityNearReader : Reader := ⟨appConfigRngDataNtfProximityNear,2⟩
abbrev proximityFarReader : Reader := ⟨appConfigRngDataNtfProximityFar,2⟩
abbrev rangingRoundUsageReader : Reader := ⟨appConfigRangingRoundUsage,1⟩
abbrev dataRepetitionCountReader : Reader := ⟨appConfigDataRepetitionCount,1⟩
abbrev maxNumberOfMeasurementsReader : Reader := ⟨appConfigMaxNumberOfMeasurements,2⟩
abbrev rangingIntervalReader : Reader := ⟨appConfigRangingInterval,4⟩
abbrev responderSlotIndexReader : Reader := ⟨appConfigResponderSlotIndex,1⟩
abbrev aoaResultReqReader : Reader := ⟨appConfigAoaResultReq,1⟩
abbrev rssiReportingReader : Reader := ⟨appConfigRssiReporting,1⟩
abbrev resultReportConfigReader : Reader := ⟨appConfigResultReportConfig,1⟩

def getRangeDataNtfConfig (session : Session) : UInt8 :=
  session.readU8 sessionInfoNtfConfigReader 0x01

def getRangeDataNtfProximityNear (session : Session) : UInt16 :=
  session.readU16 proximityNearReader 0

def getRangeDataNtfProximityFar (session : Session) : UInt16 :=
  session.readU16 proximityFarReader 0xFFFF

def getRangingRoundUsage (session : Session) : UInt8 :=
  session.readU8 rangingRoundUsageReader 0x01

def getDataRepetitionCount (session : Session) : UInt8 :=
  session.readU8 dataRepetitionCountReader 0x00

def getMaxNumberOfMeasurements (session : Session) : UInt16 :=
  session.readU16 maxNumberOfMeasurementsReader 0

def getRangingIntervalMs (session : Session) (profile : Profile) : UInt32 :=
  match session.read rangingIntervalReader with
  | some [b0,b1,b2,b3] => readU32Le [b0,b1,b2,b3] 0
  | _ => profile.rangingIntervalMs

def getResponderSlotIndex (session : Session) : UInt8 :=
  session.readU8 responderSlotIndexReader 0x00

def getAoaResultReq (session : Session) : UInt8 := session.readU8 aoaResultReqReader 0x00

def getRssiReporting (session : Session) : UInt8 := session.readU8 rssiReportingReader 0x00

def getResultReportConfig (session : Session) : UInt8 :=
  session.readU8 resultReportConfigReader 0x01

def matchesMulticast (shortAddress : UInt16) (subsessionId : UInt32) :
    Option MulticastEntry → Bool
  | none => false
  | some entry => entry.shortAddress == shortAddress && entry.subsessionId == subsessionId

/-- The status byte the caller reports; `-1` is `0xFF` there. -/
def addMulticastEntry (session : Session) (shortAddress : UInt16) (subsessionId : UInt32)
    (key : List UInt8) : UInt8 × Session :=
  if key.length > 32 then (0xFF, session)
  else if session.multicastEntries.any (matchesMulticast shortAddress subsessionId) then
    (statusAddressAlreadyPresent, session)
  else match session.multicastEntries.findIdx? Option.isNone with
    | some i => (statusOk, { session with
        multicastEntries := session.multicastEntries.set i
          (some ⟨shortAddress,subsessionId,key⟩) })
    | none => (statusMulticastListFull, session)

def removeMulticastEntry (session : Session) (shortAddress : UInt16)
    (subsessionId : UInt32) : UInt8 × Session :=
  match session.multicastEntries.findIdx? (matchesMulticast shortAddress subsessionId) with
  | some i => (statusOk, { session with
      multicastEntries := session.multicastEntries.set i none })
  | none => (statusAddressNotFound, session)

def findLogicalLink (session : Session) (linkId : UInt8) : Option LogicalLink :=
  session.logicalLinks.find? (fun link => link.linkId == linkId)

/-- The identifier search of an automatic allocation runs over `0, …, 255`. -/
def freeLinkId (session : Session) : Option UInt8 :=
  ((List.range 256).map UInt8.ofNat).find? (fun id => (session.findLogicalLink id).isNone)

/-- The caller fills in the new link's mode and credit. -/
def allocateLogicalLink (session : Session) (requestedId mode credit : UInt8) :
    Option (UInt8 × Session) :=
  if session.logicalLinks.length ≥ maxLogicalLinks then none
  else
    match if requestedId = 0xFF then session.freeLinkId else some requestedId with
    | none => none
    | some id => some (id, { session with
        logicalLinks := session.logicalLinks ++ [⟨id,mode,credit⟩] })

def removeLogicalLink (session : Session) (linkId : UInt8) : Option Session :=
  if (session.findLogicalLink linkId).isSome then
    some { session with
      logicalLinks := session.logicalLinks.eraseP (fun link => link.linkId == linkId) }
  else none

end Session

end UciSim
