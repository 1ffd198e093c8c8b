import UciSim.CommandReplies
import UciSim.SessionSlots
import UciSim.SetRequestStatus

/-!
# The session table as a finite map

The table is a map from identifiers to sessions with room for eight. Creating a
session adds one that depends on its identifier and the profile alone, removing
one takes away its identifier, and the count is the size of the map.
-/

set_option autoImplicit false

namespace UciSim

open Exchange

abbrev SessionMap := UInt32 → Option Session

def Device.sessionMap (d : Device) : SessionMap := Slots.map Session.layout d.sessions

/-- The identifier a session command or a data message is addressed to. -/
abbrev Packet.target (request : Packet) : UInt32 := readU32Le request.payload 0

/-- The session a creation makes. -/
def newSession (profile : Profile) (sessionId : UInt32) : Session :=
  { Session.zero with
    allocated := true
    sessionId := sessionId
    sessionType := profile.defaultSessionType
    state := profile.initialSessionState
    maxDataSize := profile.defaultSessionMaxDataSize }.storeDefaults
      profile.defaultSessionAppConfigs

namespace Device

/-- The packet is the supported command `oid` of the session table. -/
def Asks (d : Device) (request : Packet) (oid : UInt8) : Prop :=
  request.mt = mtCommand ∧ request.gid = gidSessionConfig ∧ request.oid = oid ∧
    d.profile.supportsCommand gidSessionConfig oid = true

structure Inits (d : Device) (request : Packet) : Prop where
  asks : d.Asks request sessionInit
  long : 5 ≤ request.payload.length
  ranging : byteAt request.payload 4 = sessionTypeRanging

structure Deinits (d : Device) (request : Packet) : Prop where
  asks : d.Asks request sessionDeinit
  long : 4 ≤ request.payload.length

/-- The device after a packet, the waiting notifications apart. -/
def LeavesAlone (d : Device) (request : Packet) : Prop :=
  ∃ pending, (d.handlePacket request).2.device = d.withPending pending

/-- What the creation of a session does to the map. -/
structure InitRefines (d : Device) (request : Packet) : Prop where
  known : d.sessionMap request.target ≠ none → Acknowledged d request ∧ d.LeavesAlone request
  accepted : d.sessionMap request.target = none →
    (Acknowledged d request ↔ Slots.size d.sessionMap < maxSessions)
  created : d.sessionMap request.target = none → Acknowledged d request →
    (d.handlePacket request).2.device.sessionMap = Function.update d.sessionMap request.target
      (some (newSession d.profile request.target))
  refused : ¬ Acknowledged d request → d.LeavesAlone request

structure DeinitRefines (d : Device) (request : Packet) : Prop where
  accepted : Acknowledged d request ↔ d.sessionMap request.target ≠ none
  removed : Acknowledged d request →
    (d.handlePacket request).2.device.sessionMap = Function.update d.sessionMap request.target none
  refused : ¬ Acknowledged d request → d.LeavesAlone request

/-- The answer to a count request. -/
structure CountRefines (d : Device) (request : Packet) : Prop where
  response : (d.handlePacket request).2.result.response = some ⟨mtResponse,pbfComplete,
    gidSessionConfig,sessionGetCount,[statusOk,UInt8.ofNat (Slots.size d.sessionMap)]⟩
  unchanged : d.LeavesAlone request

end Device

section

variable {d : Device} {request : Packet}

theorem config_command {oid : UInt8} {handler : Handler} (h : d.Asks request oid)
    (hlisted : ConfigCommand oid handler) :
    (start d).dispatchCommand request = handler (start d) request := by
  rcases h with ⟨-,hgid,rfl,hs⟩
  refine dispatch_config_of hlisted hgid ?_
  rw [hgid]
  exact hs

theorem init_command (h : d.Asks request sessionInit) :
    (start d).dispatchCommand request = (start d).handleSessionInit request :=
  config_command h (.init rfl)

theorem deinit_command (h : d.Asks request sessionDeinit) :
    (start d).dispatchCommand request = (start d).handleSessionDeinit request :=
  config_command h (.deinit rfl)

theorem get_app_config_command (h : d.Asks request sessionGetAppConfig) :
    (start d).dispatchCommand request = (start d).handleSessionGetAppConfig request :=
  config_command h (.getAppConfig rfl)

theorem count_command (h : d.Asks request sessionGetCount) :
    (start d).dispatchCommand request = (start d).handleSessionGetCount :=
  config_command h (.getCount rfl)

theorem command_outcome {rc : Rc} {x : Exchange} {response : Packet} {d' : Device}
    (hmt : request.mt = mtCommand) (hdispatch : (start d).dispatchCommand request = (rc,x))
    (hresponse : x.result.response = some response)
    (hdevice : ∃ pending, x.device = d'.withPending pending) :
    (Acknowledged d request ↔ byteAt response.payload 0 = statusOk) ∧
      ∃ pending, (d.handlePacket request).2.device = d'.withPending pending := by
  have hfinal := handle_command_response d request hmt
  rw [hdispatch, hresponse] at hfinal
  rcases handle_command_device d request hmt with ⟨p,hp⟩
  rw [hdispatch] at hp
  rcases hdevice with ⟨q,hq⟩
  refine ⟨by simp [Acknowledged, hfinal],p,?_⟩
  rw [hp, hq, Device.withPending_withPending]

theorem emitted_outcome {rc : Rc} {response n : Packet} {d' : Device}
    (hmt : request.mt = mtCommand)
    (hdispatch : (start d).dispatchCommand request =
      (rc,Exchange.emit ⟨d',⟨some response,none⟩,[]⟩ n)) :
    (Acknowledged d request ↔ byteAt response.payload 0 = statusOk) ∧
      ∃ pending, (d.handlePacket request).2.device = d'.withPending pending :=
  command_outcome hmt hdispatch (emit_response _ n) (emit_device _ n)

theorem failed_outcome {status : UInt8} (hmt : request.mt = mtCommand) (hs : status ≠ statusOk)
    (hdispatch : (start d).dispatchCommand request = (start d).fail request status) :
    ¬ Acknowledged d request ∧ d.LeavesAlone request := by
  have hsame : ∃ pending, ((start d).fail request status).2.device = d.withPending pending :=
    ⟨_,rfl⟩
  rcases command_outcome hmt hdispatch rfl hsame with ⟨hack,hdevice⟩
  exact ⟨fun h => hs (hack.mp h),hdevice⟩

theorem init_known {i : Fin maxSessions} (h : d.Inits request)
    (hfound : d.findSession request.target = some i) :
    Acknowledged d request ∧ d.LeavesAlone request := by
  have hhandler : (start d).handleSessionInit request = (.ok,
      Exchange.emit ⟨d,⟨some ⟨mtResponse,pbfComplete,gidSessionConfig,sessionInit,
        statusOk::writeU32Le request.target⟩,none⟩,[]⟩
        (sessionStatusNotification request.target (d.sessions i).state
          d.profile.sessionStatusReasonCode)) := by
    unfold handleSessionInit
    rw [if_neg (Nat.not_lt_of_le h.long)]
    dsimp only
    rw [if_neg (not_not.mpr h.ranging), show (start d).device = d from rfl, hfound]
    rfl
  rcases emitted_outcome h.asks.1 ((init_command h.asks).trans hhandler) with ⟨hack,hdevice⟩
  exact ⟨hack.mpr rfl,hdevice⟩

theorem init_created {i : Fin maxSessions} (h : d.Inits request)
    (habsent : d.findSession request.target = none) (hfree : d.freeSession = some i) :
    Acknowledged d request ∧ ∃ pending, (d.handlePacket request).2.device =
      (d.setSession i (d.freshSession i request.target)).withPending pending := by
  have halloc : d.allocSession request.target =
      some (i,d.setSession i (d.freshSession i request.target)) := by
    unfold Device.allocSession
    rw [hfree]
    rfl
  have hhandler : ∃ n, (start d).handleSessionInit request = (.ok,
      Exchange.emit ⟨d.setSession i (d.freshSession i request.target),
        ⟨some ⟨mtResponse,pbfComplete,gidSessionConfig,sessionInit,
          statusOk::writeU32Le request.target⟩,none⟩,[]⟩ n) := by
    unfold handleSessionInit
    rw [if_neg (Nat.not_lt_of_le h.long)]
    dsimp only
    rw [if_neg (not_not.mpr h.ranging), show (start d).device = d from rfl, habsent]
    dsimp only
    rw [halloc]
    exact ⟨_,rfl⟩
  rcases hhandler with ⟨n,hhandler⟩
  rcases emitted_outcome h.asks.1 ((init_command h.asks).trans hhandler) with ⟨hack,hdevice⟩
  exact ⟨hack.mpr rfl,hdevice⟩

theorem init_full (h : d.Inits request) (habsent : d.findSession request.target = none)
    (hfree : d.freeSession = none) : ¬ Acknowledged d request ∧ d.LeavesAlone request := by
  have halloc : d.allocSession request.target = none := by
    unfold Device.allocSession
    rw [hfree]
  have hhandler : (start d).handleSessionInit request = (start d).fail request statusRejected := by
    unfold handleSessionInit
    rw [if_neg (Nat.not_lt_of_le h.long)]
    dsimp only
    rw [if_neg (not_not.mpr h.ranging), show (start d).device = d from rfl, habsent]
    dsimp only
    rw [halloc]
  exact failed_outcome h.asks.1 (by decide) ((init_command h.asks).trans hhandler)

theorem fresh_new (hkept : d.SlotsKept) {i : Fin maxSessions} (hfree : d.freeSession = some i)
    (sessionId : UInt32) : d.freshSession i sessionId = newSession d.profile sessionId := by
  unfold Device.freshSession
  rw [show d.sessions i = Session.zero from hkept.blank i (Device.free_session_some hfree)]
  rfl

theorem session_map_absent {sessionId : UInt32} :
    d.sessionMap sessionId = none ↔ d.findSession sessionId = none := Slots.map_none_iff

theorem free_session_iff (hkept : d.SlotsKept) :
    d.freeSession.isSome = true ↔ Slots.size d.sessionMap < maxSessions := by
  rw [Device.sessionMap, ← Slots.Kept.count_eq_size hkept]
  exact Slots.free_isSome_iff (L := Session.layout) d.sessions

theorem init_refines (hkept : d.SlotsKept) (h : d.Inits request) : d.InitRefines request := by
  have hcases : (∃ i, d.findSession request.target = some i) ∨
      (d.findSession request.target = none ∧ ∃ i, d.freeSession = some i) ∨
        (d.findSession request.target = none ∧ d.freeSession = none) := by
    cases d.findSession request.target <;> cases d.freeSession <;> simp
  have hroom := free_session_iff hkept
  rcases hcases with ⟨i,hfound⟩ | ⟨habsent,i,hfree⟩ | ⟨habsent,hfree⟩
  · have hpresent : d.sessionMap request.target ≠ none := by
      rw [ne_eq, session_map_absent, hfound]
      exact Option.some_ne_none i
    have hknown := init_known h hfound
    exact ⟨fun _ => hknown,fun hnone => absurd hnone hpresent,fun hnone => absurd hnone hpresent,
      fun hack => absurd hknown.1 hack⟩
  · have hnone := session_map_absent.mpr habsent
    rcases init_created h habsent hfree with ⟨hack,p,hdevice⟩
    rw [hfree] at hroom
    refine ⟨fun hsome => absurd hnone hsome,fun _ => iff_of_true hack (hroom.mp rfl),
      fun _ _ => ?_,fun hrefused => absurd hack hrefused⟩
    rw [hdevice, fresh_new hkept hfree]
    have hnew := fresh_session_eq d i request.target
    rw [fresh_new hkept hfree] at hnew
    exact Slots.map_insert hfree habsent (by rw [hnew]; rfl) (by rw [hnew]; rfl)
  · have hnone := session_map_absent.mpr habsent
    rcases init_full h habsent hfree with ⟨hack,hdevice⟩
    rw [hfree] at hroom
    exact ⟨fun hsome => absurd hnone hsome,
      fun _ => iff_of_false hack fun hsize => absurd (hroom.mpr hsize) (by decide),
      fun _ haccepted => absurd haccepted hack,fun _ => hdevice⟩

theorem deinit_refines (hkept : d.SlotsKept) (h : d.Deinits request) :
    d.DeinitRefines request := by
  cases hfind : d.findSession request.target with
  | none =>
    have hhandler : (start d).handleSessionDeinit request =
        (start d).fail request statusInvalidParam := by
      unfold handleSessionDeinit
      rw [if_neg (Nat.not_lt_of_le h.long)]
      dsimp only
      rw [show (start d).device = d from rfl, hfind]
    rcases failed_outcome h.asks.1 (by decide) ((deinit_command h.asks).trans hhandler)
      with ⟨hack,hdevice⟩
    have hnone := session_map_absent.mpr hfind
    exact ⟨iff_of_false hack fun hsome => hsome hnone,fun haccepted => absurd haccepted hack,
      fun _ => hdevice⟩
  | some i =>
    have hhandler : ∃ x, (start d).handleSessionDeinit request = (.ok,x) ∧
        x.result.response = some ⟨mtResponse,pbfComplete,request.gid,request.oid,[statusOk]⟩ ∧
        ∃ pending, x.device = (d.setSession i Session.zero).withPending pending := by
      unfold handleSessionDeinit
      rw [if_neg (Nat.not_lt_of_le h.long)]
      dsimp only
      rw [show (start d).device = d from rfl, hfind]
      rcases emit_device ((start d).makeStatusResponse request statusOk)
        (sessionStatusNotification request.target sessionStateDeinit
          d.profile.sessionStatusReasonCode) with ⟨p,hp⟩
      refine ⟨_,rfl,emit_response _ _,p,?_⟩
      exact congrArg (fun d : Device => d.setSession i Session.zero) hp
    rcases hhandler with ⟨x,hhandler,hresponse,hdevice⟩
    rcases command_outcome h.asks.1 ((deinit_command h.asks).trans hhandler) hresponse hdevice
      with ⟨hack,p,hp⟩
    have hsome : d.sessionMap request.target ≠ none := by
      rw [ne_eq, session_map_absent, hfind]
      exact Option.some_ne_none i
    refine ⟨iff_of_true (hack.mpr rfl) hsome,fun _ => ?_,
      fun hrefused => absurd (hack.mpr rfl) hrefused⟩
    rw [hp]
    exact Slots.map_erase hkept hfind

theorem count_refines (hkept : d.SlotsKept) (h : d.Asks request sessionGetCount) :
    d.CountRefines request := by
  have hcount : d.allocatedCount = Slots.size d.sessionMap := Slots.Kept.count_eq_size hkept
  have hresponse := handle_command_response d request h.1
  rw [count_command h] at hresponse
  refine ⟨?_,?_⟩
  · rw [hresponse, ← hcount]
    rfl
  · rcases handle_command_device d request h.1 with ⟨p,hp⟩
    rw [count_command h] at hp
    exact ⟨p,hp⟩

theorem size_bounded (hkept : d.SlotsKept) : Slots.size d.sessionMap ≤ maxSessions := by
  rw [Device.sessionMap, ← Slots.Kept.count_eq_size hkept]
  exact Slots.count_le d.sessions

end

/-- In every reachable state the session table is a map with at most eight entries: no identifier
has two slots, free slots are zero, and creation, removal and count act on the map. -/
theorem session_table_refines_map (profile : Profile) (scenario : Scenario) (ops : List Op) :
    let d := (Run.reached profile scenario ops).engine.device
    (∀ i j, (d.sessions i).allocated = true → (d.sessions j).allocated = true →
      (d.sessions i).sessionId = (d.sessions j).sessionId → i = j) ∧
    (∀ i, (d.sessions i).allocated = false → d.sessions i = Session.zero) ∧
    Slots.size d.sessionMap ≤ maxSessions ∧
    ∀ request, (d.Inits request → d.InitRefines request) ∧
      (d.Deinits request → d.DeinitRefines request) ∧
      (d.Asks request sessionGetCount → d.CountRefines request) := by
  intro d
  have hkept : d.SlotsKept := .reached profile scenario ops
  exact ⟨hkept.distinct,hkept.blank,size_bounded hkept,fun request =>
    ⟨init_refines hkept,deinit_refines hkept,count_refines hkept⟩⟩

/-- Beside two sessions a third one is created, one of the two removed, and both are counted. -/
theorem two_sessions_refine_map :
    let d := (Run.reached defaultProfile .default [.submit (initRequest 1),
      .submit (initRequest 2)]).engine.device
    d.InitRefines (initRequest 3) ∧ d.DeinitRefines (deinitRequest 1) ∧
      d.CountRefines (hostCommand gidSessionConfig sessionGetCount []) := by
  intro d
  have hrefines := (session_table_refines_map defaultProfile .default [.submit (initRequest 1),
    .submit (initRequest 2)]).2.2.2
  refine ⟨(hrefines _).1 ?_,(hrefines _).2.1 ?_,(hrefines _).2.2 ?_⟩
  · exact ⟨⟨rfl,rfl,rfl,by decide +kernel⟩,by decide,by decide⟩
  · exact ⟨⟨rfl,rfl,rfl,by decide +kernel⟩,by decide⟩
  · exact ⟨rfl,rfl,rfl,by decide +kernel⟩

end UciSim
