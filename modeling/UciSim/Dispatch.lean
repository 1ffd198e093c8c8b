import UciSim.HandlersControl

/-!
# Dispatch

A command of a group goes to the handler of its opcode. Which one it is depends
on the request and the profile; a control command also needs its session.
-/

set_option autoImplicit false

namespace UciSim

open Exchange

/-- Two branches on one condition are related when the sides are. -/
theorem ite_related {α β : Type} {R : α → β → Prop} {c c' : Prop} [Decidable c] [Decidable c']
    {a b : α} {a' b' : β} (hc : c' ↔ c) (hpos : c → R a a') (hneg : ¬ c → R b b') :
    R (if c then a else b) (if c' then a' else b') := by
  by_cases h : c
  · rw [if_pos h, if_pos (hc.mpr h)]
    exact hpos h
  · rw [if_neg h, if_neg fun h' => h (hc.mp h')]
    exact hneg h

abbrev Handler := Exchange → Packet → Rc × Exchange

inductive CoreCommand (oid : UInt8) : Handler → Prop where
  | deviceReset (opcode : oid = coreDeviceReset) : CoreCommand oid handleDeviceReset
  | deviceInfo (opcode : oid = coreDeviceInfo) : CoreCommand oid fun x _ => x.handleDeviceInfo
  | getCaps (opcode : oid = coreGetCapsInfo) : CoreCommand oid fun x request =>
      if x.device.profile.coreCapsPayload.length = 0 then x.fail request statusFailed
      else (.ok, x.respond gidCore coreGetCapsInfo x.device.profile.coreCapsPayload)
  | setConfig (opcode : oid = coreSetConfig) : CoreCommand oid handleCoreSetConfig
  | getConfig (opcode : oid = coreGetConfig) : CoreCommand oid handleCoreGetConfig
  | queryTimestamp (opcode : oid = coreQueryUwbsTimestamp) :
      CoreCommand oid handleQueryUwbsTimestamp

inductive ConfigCommand (oid : UInt8) : Handler → Prop where
  | init (opcode : oid = sessionInit) : ConfigCommand oid handleSessionInit
  | deinit (opcode : oid = sessionDeinit) : ConfigCommand oid handleSessionDeinit
  | setAppConfig (opcode : oid = sessionSetAppConfig) :
      ConfigCommand oid handleSessionSetAppConfig
  | getAppConfig (opcode : oid = sessionGetAppConfig) :
      ConfigCommand oid handleSessionGetAppConfig
  | getCount (opcode : oid = sessionGetCount) : ConfigCommand oid fun x _ => x.handleSessionGetCount
  | queryDataSize (opcode : oid = sessionQueryDataSizeInRanging) :
      ConfigCommand oid handleQueryDataSizeInRanging
  | getState (opcode : oid = sessionGetState) : ConfigCommand oid handleSessionGetState
  | updateMulticastList (opcode : oid = sessionUpdateControllerMulticastList) :
      ConfigCommand oid handleSessionUpdateMulticastList
  | updateAnchorRounds (opcode : oid = sessionUpdateDtAnchorRangingRounds) :
      ConfigCommand oid fun x request => x.handleSessionUpdateDtRounds request true
  | updateTagRounds (opcode : oid = sessionUpdateDtTagRangingRounds) :
      ConfigCommand oid fun x request => x.handleSessionUpdateDtRounds request false
  | dataTransferPhaseConfig (opcode : oid = sessionDataTransferPhaseConfig) :
      ConfigCommand oid handleSessionDataTransferPhaseConfig

/-- What is no command of its own is looked up among the transitions. -/
inductive ControlCommand (oid : UInt8) : (Exchange → Packet → Fin maxSessions → Rc × Exchange) →
    Prop where
  | getRangingCount (opcode : oid = sessionGetRangingCount) :
      ControlCommand oid fun x _ i => x.handleGetRangingCount i
  | logicalLinkCreate (opcode : oid = sessionLogicalLinkCreate) :
      ControlCommand oid handleLogicalLinkCreate
  | logicalLinkClose (opcode : oid = sessionLogicalLinkClose) :
      ControlCommand oid handleLogicalLinkClose
  | logicalLinkGetParam (opcode : oid = sessionLogicalLinkGetParam) :
      ControlCommand oid handleLogicalLinkGetParam
  | transition (opcode : oid ∉ [sessionGetRangingCount,sessionLogicalLinkCreate,
      sessionLogicalLinkClose,sessionLogicalLinkGetParam]) : ControlCommand oid handleTransition

inductive GroupCommand (gid : UInt8) : Handler → Prop where
  | core (group : gid = gidCore) : GroupCommand gid handleCore
  | sessionConfig (group : gid = gidSessionConfig) : GroupCommand gid handleSessionConfig
  | sessionControl (group : gid = gidSessionControl) : GroupCommand gid handleSessionControl
  | qorvoExt2 (group : gid = gidQorvoExt2) : GroupCommand gid handleQorvoExt2
  | qorvoMac (group : gid = gidQorvoMac) : GroupCommand gid handleQorvoMac
  | unknown (group : gid ∉ [gidCore,gidSessionConfig,gidSessionControl,gidQorvoExt2,gidQorvoMac]) :
      GroupCommand gid fun x request => x.fail request statusUnknownGid

/-- A group refuses what it has no handler for; exchanges under one profile go the same way. -/
inductive Dispatched (profile : Profile) (request : Packet) (command : Handler → Prop)
    (dispatcher : Handler) : Prop where
  | refused
      (unlisted : ∀ handler, command handler →
        profile.supportsCommand request.gid request.oid = false)
      (fails : ∀ x : Exchange, x.device.profile = profile →
        dispatcher x request = x.fail request statusUnknownOid)
  | handled (handler : Handler) (listed : command handler)
      (supported : profile.supportsCommand request.gid request.oid = true)
      (runs : ∀ x : Exchange, x.device.profile = profile →
        dispatcher x request = handler x request)

inductive ControlDispatched (profile : Profile) (request : Packet)
    (found : Option (Fin maxSessions)) : Prop where
  | refused (status : UInt8) (failed : status ≠ statusOk)
      (cause : profile.supportsCommand request.gid request.oid = true →
        4 ≤ request.payload.length → found = none)
      (fails : ∀ x : Exchange, x.device.profile = profile →
        x.device.findSession (readU32Le request.payload 0) = found →
        x.handleSessionControl request = x.fail request status)
  | handled (handler : Exchange → Packet → Fin maxSessions → Rc × Exchange)
      (i : Fin maxSessions) (listed : ControlCommand request.oid handler)
      (supported : profile.supportsCommand request.gid request.oid = true)
      (long : 4 ≤ request.payload.length) (hfound : found = some i)
      (runs : ∀ x : Exchange, x.device.profile = profile →
        x.device.findSession (readU32Le request.payload 0) = found →
        x.handleSessionControl request = handler x request i)

namespace Dispatched

variable {profile : Profile} {request : Packet} {command : Handler → Prop} {dispatcher : Handler}
variable {x y : Exchange}

theorem outcome {P : Rc × Exchange → Prop} (h : Dispatched profile request command dispatcher)
    (hx : x.device.profile = profile) (fails : P (x.fail request statusUnknownOid))
    (runs : ∀ handler, command handler →
      profile.supportsCommand request.gid request.oid = true → P (handler x request)) :
    P (dispatcher x request) := by
  cases h with
  | refused _ hfails => exact hfails x hx ▸ fails
  | handled handler listed supported hruns => exact hruns x hx ▸ runs handler listed supported

theorem related {R : Rc × Exchange → Rc × Exchange → Prop}
    (h : Dispatched profile request command dispatcher)
    (hx : x.device.profile = profile) (hy : y.device.profile = profile)
    (fails : R (x.fail request statusUnknownOid) (y.fail request statusUnknownOid))
    (runs : ∀ handler, command handler →
      profile.supportsCommand request.gid request.oid = true →
        R (handler x request) (handler y request)) :
    R (dispatcher x request) (dispatcher y request) := by
  cases h with
  | refused _ hfails =>
    rw [hfails x hx, hfails y hy]
    exact fails
  | handled handler listed supported hruns =>
    rw [hruns x hx, hruns y hy]
    exact runs handler listed supported

end Dispatched

section

variable {x : Exchange} {request : Packet}

theorem handle_core_of {handler : Handler} (h : CoreCommand request.oid handler)
    (hs : x.device.profile.supportsCommand request.gid request.oid = true) :
    x.handleCore request = handler x request := by
  unfold handleCore
  rw [if_neg (by simp [hs])]
  cases h with
  | _ opcode =>
    rw [opcode]
    rfl

theorem handle_session_config_of {handler : Handler} (h : ConfigCommand request.oid handler)
    (hs : x.device.profile.supportsCommand request.gid request.oid = true) :
    x.handleSessionConfig request = handler x request := by
  unfold handleSessionConfig
  rw [if_neg (by simp [hs])]
  cases h with
  | _ opcode =>
    rw [opcode]
    rfl

theorem handle_session_control_of
    {handler : Exchange → Packet → Fin maxSessions → Rc × Exchange} {i : Fin maxSessions}
    (h : ControlCommand request.oid handler)
    (hs : x.device.profile.supportsCommand request.gid request.oid = true)
    (hlen : 4 ≤ request.payload.length)
    (hfound : x.device.findSession (readU32Le request.payload 0) = some i) :
    x.handleSessionControl request = handler x request i := by
  unfold handleSessionControl
  rw [if_neg (by simp [hs]), if_neg (Nat.not_lt.mpr hlen), hfound]
  cases h with
  | transition opcode =>
    simp only [List.mem_cons, List.not_mem_nil, or_false, not_or] at opcode
    dsimp only
    rw [if_neg opcode.1, if_neg opcode.2.1, if_neg opcode.2.2.1, if_neg opcode.2.2.2]
  | _ opcode =>
    rw [opcode]
    rfl

theorem core_unlisted (h : ∀ handler, ¬ CoreCommand request.oid handler) :
    x.handleCore request = x.fail request statusUnknownOid := by
  unfold handleCore
  rw [if_neg fun opcode => h _ (.deviceReset opcode), if_neg fun opcode => h _ (.deviceInfo opcode),
    if_neg fun opcode => h _ (.getCaps opcode), if_neg fun opcode => h _ (.setConfig opcode),
    if_neg fun opcode => h _ (.getConfig opcode),
    if_neg fun opcode => h _ (.queryTimestamp opcode), ite_self]

theorem config_unlisted (h : ∀ handler, ¬ ConfigCommand request.oid handler) :
    x.handleSessionConfig request = x.fail request statusUnknownOid := by
  unfold handleSessionConfig
  rw [if_neg fun opcode => h _ (.init opcode), if_neg fun opcode => h _ (.deinit opcode),
    if_neg fun opcode => h _ (.setAppConfig opcode),
    if_neg fun opcode => h _ (.getAppConfig opcode), if_neg fun opcode => h _ (.getCount opcode),
    if_neg fun opcode => h _ (.queryDataSize opcode), if_neg fun opcode => h _ (.getState opcode),
    if_neg fun opcode => h _ (.updateMulticastList opcode),
    if_neg fun opcode => h _ (.updateAnchorRounds opcode),
    if_neg fun opcode => h _ (.updateTagRounds opcode),
    if_neg fun opcode => h _ (.dataTransferPhaseConfig opcode), ite_self]

end

theorem core_dispatch (profile : Profile) (request : Packet) :
    Dispatched profile request (CoreCommand request.oid) handleCore := by
  by_cases hs : profile.supportsCommand request.gid request.oid = true
  · by_cases hlisted : ∃ handler, CoreCommand request.oid handler
    · rcases hlisted with ⟨handler,hlisted⟩
      exact .handled handler hlisted hs fun x hx => handle_core_of hlisted (hx ▸ hs)
    · have hnone := not_exists.mp hlisted
      exact .refused (fun handler h => absurd h (hnone handler)) fun x _ => core_unlisted hnone
  · refine .refused (fun _ _ => by simpa using hs) fun x hx => ?_
    unfold handleCore
    rw [if_pos (by simpa [hx] using hs)]

theorem config_dispatch (profile : Profile) (request : Packet) :
    Dispatched profile request (ConfigCommand request.oid) handleSessionConfig := by
  by_cases hs : profile.supportsCommand request.gid request.oid = true
  · by_cases hlisted : ∃ handler, ConfigCommand request.oid handler
    · rcases hlisted with ⟨handler,hlisted⟩
      exact .handled handler hlisted hs fun x hx => handle_session_config_of hlisted (hx ▸ hs)
    · have hnone := not_exists.mp hlisted
      exact .refused (fun handler h => absurd h (hnone handler)) fun x _ => config_unlisted hnone
  · refine .refused (fun _ _ => by simpa using hs) fun x hx => ?_
    unfold handleSessionConfig
    rw [if_pos (by simpa [hx] using hs)]

theorem control_listed (oid : UInt8) : ∃ handler, ControlCommand oid handler := by
  by_cases hcount : oid = sessionGetRangingCount
  · exact ⟨_,.getRangingCount hcount⟩
  by_cases hcreate : oid = sessionLogicalLinkCreate
  · exact ⟨_,.logicalLinkCreate hcreate⟩
  by_cases hclose : oid = sessionLogicalLinkClose
  · exact ⟨_,.logicalLinkClose hclose⟩
  by_cases hparam : oid = sessionLogicalLinkGetParam
  · exact ⟨_,.logicalLinkGetParam hparam⟩
  · exact ⟨_,.transition (by simp [hcount, hcreate, hclose, hparam])⟩

theorem control_dispatch (profile : Profile) (request : Packet)
    (found : Option (Fin maxSessions)) : ControlDispatched profile request found := by
  by_cases hs : profile.supportsCommand request.gid request.oid = true
  swap
  · refine .refused statusUnknownOid (by decide) (fun h => absurd h hs) fun x hx _ => ?_
    unfold handleSessionControl
    rw [if_pos (by simpa [hx] using hs)]
  by_cases hlen : 4 ≤ request.payload.length
  swap
  · refine .refused statusInvalidMsgSize (by decide) (fun _ h => absurd h hlen) fun x hx _ => ?_
    unfold handleSessionControl
    rw [if_neg (by simp [hx, hs]), if_pos (Nat.lt_of_not_le hlen)]
  cases found with
  | none =>
    refine .refused statusInvalidParam (by decide) (fun _ _ => rfl) fun x hx hnone => ?_
    unfold handleSessionControl
    rw [if_neg (by simp [hx, hs]), if_neg (Nat.not_lt.mpr hlen), hnone]
  | some i =>
    rcases control_listed request.oid with ⟨handler,hlisted⟩
    exact .handled handler i hlisted hs hlen rfl fun x hx hfound =>
      handle_session_control_of hlisted (hx ▸ hs) hlen hfound

theorem dispatch_core {x : Exchange} {request : Packet} (hgid : request.gid = gidCore) :
    x.dispatchCommand request = x.handleCore request := by
  unfold dispatchCommand
  rw [if_pos hgid]

theorem dispatch_config {x : Exchange} {request : Packet}
    (hgid : request.gid = gidSessionConfig) :
    x.dispatchCommand request = x.handleSessionConfig request := by
  unfold dispatchCommand
  rw [if_neg (by rw [hgid]; decide), if_pos hgid]

theorem dispatch_control {x : Exchange} {request : Packet}
    (hgid : request.gid = gidSessionControl) :
    x.dispatchCommand request = x.handleSessionControl request := by
  unfold dispatchCommand
  rw [if_neg (by rw [hgid]; decide), if_neg (by rw [hgid]; decide), if_pos hgid]

theorem dispatch_qorvo_mac {x : Exchange} {request : Packet} (hgid : request.gid = gidQorvoMac) :
    x.dispatchCommand request = x.handleQorvoMac request := by
  unfold dispatchCommand
  rw [hgid]
  rfl

theorem dispatch_core_of {x : Exchange} {request : Packet} {handler : Handler}
    (h : CoreCommand request.oid handler) (hgid : request.gid = gidCore)
    (hs : x.device.profile.supportsCommand request.gid request.oid = true) :
    x.dispatchCommand request = handler x request :=
  (dispatch_core hgid).trans (handle_core_of h hs)

theorem dispatch_config_of {x : Exchange} {request : Packet} {handler : Handler}
    (h : ConfigCommand request.oid handler) (hgid : request.gid = gidSessionConfig)
    (hs : x.device.profile.supportsCommand request.gid request.oid = true) :
    x.dispatchCommand request = handler x request :=
  (dispatch_config hgid).trans (handle_session_config_of h hs)

theorem dispatch_control_of {x : Exchange} {request : Packet} {i : Fin maxSessions}
    {handler : Exchange → Packet → Fin maxSessions → Rc × Exchange}
    (h : ControlCommand request.oid handler) (hgid : request.gid = gidSessionControl)
    (hs : x.device.profile.supportsCommand request.gid request.oid = true)
    (hlen : 4 ≤ request.payload.length)
    (hfound : x.device.findSession (readU32Le request.payload 0) = some i) :
    x.dispatchCommand request = handler x request i :=
  (dispatch_control hgid).trans (handle_session_control_of h hs hlen hfound)

theorem group_dispatch (request : Packet) : ∃ handler, GroupCommand request.gid handler ∧
    ∀ x : Exchange, x.dispatchCommand request = handler x request := by
  unfold dispatchCommand
  by_cases hcore : request.gid = gidCore
  · exact ⟨_,.core hcore,fun x => if_pos hcore⟩
  by_cases hconfig : request.gid = gidSessionConfig
  · exact ⟨_,.sessionConfig hconfig,fun x => by rw [if_neg hcore, if_pos hconfig]⟩
  by_cases hcontrol : request.gid = gidSessionControl
  · exact ⟨_,.sessionControl hcontrol,fun x => by
      rw [if_neg hcore, if_neg hconfig, if_pos hcontrol]⟩
  by_cases hext2 : request.gid = gidQorvoExt2
  · exact ⟨_,.qorvoExt2 hext2,fun x => by
      rw [if_neg hcore, if_neg hconfig, if_neg hcontrol, if_pos hext2]⟩
  by_cases hmac : request.gid = gidQorvoMac
  · exact ⟨_,.qorvoMac hmac,fun x => by
      rw [if_neg hcore, if_neg hconfig, if_neg hcontrol, if_neg hext2, if_pos hmac]⟩
  · exact ⟨_,.unknown (by simp [hcore, hconfig, hcontrol, hext2, hmac]),fun x => by
      rw [if_neg hcore, if_neg hconfig, if_neg hcontrol, if_neg hext2, if_neg hmac]⟩

end UciSim
