import UciSim.Device

/-!
# Requests of a host

The packets a host sends to open, configure, run and close a session.
-/

set_option autoImplicit false

namespace UciSim

def hostCommand (gid oid : UInt8) (payload : List UInt8) : Packet :=
  ⟨mtCommand,pbfComplete,gid,oid,payload⟩

def initRequest (sessionId : UInt32) : Packet :=
  hostCommand gidSessionConfig sessionInit (writeU32Le sessionId ++ [sessionTypeRanging])

def deinitRequest (sessionId : UInt32) : Packet :=
  hostCommand gidSessionConfig sessionDeinit (writeU32Le sessionId)

def setAppConfigRequest (sessionId : UInt32) (count : UInt8) (tlvs : List UInt8) : Packet :=
  hostCommand gidSessionConfig sessionSetAppConfig (writeU32Le sessionId ++ count::tlvs)

def getAppConfigRequest (sessionId : UInt32) (ids : List UInt8) : Packet :=
  hostCommand gidSessionConfig sessionGetAppConfig
    (writeU32Le sessionId ++ UInt8.ofNat ids.length::ids)

def getCountRequest : Packet := hostCommand gidSessionConfig sessionGetCount []

def startRequest (sessionId : UInt32) : Packet :=
  hostCommand gidSessionControl sessionStart (writeU32Le sessionId)

def stopRequest (sessionId : UInt32) : Packet :=
  hostCommand gidSessionControl sessionStop (writeU32Le sessionId)

/-- A data message without payload bytes of its own. -/
def dataMessage (sessionId : UInt32) (sequenceNumber : UInt16) : Packet :=
  ⟨mtData,pbfComplete,dataPacketFormatSend,0,
    writeU32Le sessionId ++ List.replicate 8 0 ++ writeU16Le sequenceNumber ++ [0,0]⟩

end UciSim
