import UciSim.DeferredDelivery
import UciSim.SessionIsolation
import UciSim.SessionLists

/-!
# What packets do to the lists of a session

A session's multicast entries and logical links are changed by the three commands
on them, and cleared when the session ends or the device is reset. What those
commands keep holds in every run.
-/

set_option autoImplicit false

namespace UciSim

open Exchange

/-- The request is for the session at slot `i`, and the profile has its command. -/
structure Device.Commands (d : Device) (request : Packet) (gid oid : UInt8)
    (i : Fin maxSessions) : Prop where
  mt : request.mt = mtCommand
  group : request.gid = gid
  named : request.oid = oid
  supported : d.profile.supportsCommand gid oid = true
  found : d.findSession request.target = some i

namespace Packet

/-- The identifier, the mode and the credit of a link command, as far as it has them. -/
def linkId (request : Packet) : UInt8 := byteAt request.payload 4

def linkMode (request : Packet) : UInt8 :=
  if request.payload.length ≥ 6 then byteAt request.payload 5 else 0

def linkCredit (request : Packet) : UInt8 :=
  if request.payload.length ≥ 7 then byteAt request.payload 6 else 1

end Packet

/-- What one packet does to the lists of the slot `i`. -/
inductive ListsMove (d : Device) (request : Packet) (i : Fin maxSessions) : Session → Prop where
  | kept (session : Session) (same : (d.sessions i).SameLists session) :
      ListsMove d request i session
  | closed (command : d.Commands request gidSessionConfig sessionDeinit i)
      (long : 4 ≤ request.payload.length) : ListsMove d request i Session.zero
  | reset (accepted : d.AcceptsReset request) : ListsMove d request i Session.zero
  | updated (command : d.Commands request gidSessionConfig
        sessionUpdateControllerMulticastList i) :
      ListsMove d request i ((d.sessions i).updateMulticastList (byteAt request.payload 5)
        (byteAt request.payload 4).toNat (request.payload.drop 6) [] statusOk).2.2
  | linked (linkId : UInt8) (session : Session)
      (command : d.Commands request gidSessionControl sessionLogicalLinkCreate i)
      (long : 5 ≤ request.payload.length)
      (unused : request.linkId ≠ 0xFF → (d.sessions i).findLogicalLink request.linkId = none)
      (allocated : (d.sessions i).allocateLogicalLink request.linkId request.linkMode
        request.linkCredit = some (linkId,session)) : ListsMove d request i session
  | unlinked (session : Session)
      (command : d.Commands request gidSessionControl sessionLogicalLinkClose i)
      (long : 5 ≤ request.payload.length)
      (removed : (d.sessions i).removeLogicalLink request.linkId = some session) :
      ListsMove d request i session

/-- What a handler leaves of the lists of every slot. -/
def MovesLists (d : Device) (request : Packet) (outcome : Rc × Exchange) : Prop :=
  ∀ i, ListsMove d request i (outcome.2.device.sessions i)

section

variable {d : Device} {request : Packet}

theorem moves_same {outcome : Rc × Exchange} (h : outcome.2.device.sessions = d.sessions) :
    MovesLists d request outcome := by
  intro i
  rw [h]
  exact .kept _ (.refl _)

theorem moves_set {d' : Device} {i : Fin maxSessions} {session : Session}
    (h : d'.sessions = (d.setSession i session).sessions) (hmove : ListsMove d request i session)
    (j : Fin maxSessions) : ListsMove d request j (d'.sessions j) := by
  rw [h]
  by_cases hj : j = i
  · subst hj
    rwa [Device.setSession_same]
  · rw [Device.setSession_other d session hj]
    exact .kept _ (.refl _)

theorem moves_emit {rc : Rc} {x : Exchange}
    (h : ∀ i, ListsMove d request i (x.device.sessions i)) (n : Packet) :
    MovesLists d request (rc,x.emit n) := by
  rcases emit_device x n with ⟨pending,hp⟩
  intro i
  show ListsMove d request i ((x.emit n).device.sessions i)
  rw [hp]
  exact h i

theorem session_init_moves : MovesLists d request ((start d).handleSessionInit request) := by
  unfold handleSessionInit
  split
  · exact moves_same rfl
  dsimp only
  split
  · exact moves_same rfl
  split
  · exact moves_same rfl
  rename_i i d' hfound
  rw [show (start d).device = d from rfl] at hfound
  apply moves_emit
  cases hf : d.findSession request.target with
  | some j =>
    rw [hf] at hfound
    cases hfound
    have hsame : MovesLists d request (.ok,start d) := moves_same rfl
    exact hsame
  | none =>
    rw [hf] at hfound
    rcases alloc_session_some hfound with ⟨hfree,rfl⟩
    have hblank := Device.free_session_some hfree
    refine moves_set rfl (.kept _ ⟨?_,?_,?_⟩)
    · exact (Session.SameLists.storeDefaults _ _).lists
    · intro ha
      exact absurd (hblank.symm.trans ha) (by decide)
    · intro ha
      exact absurd (hblank.symm.trans ha) (by decide)

theorem session_deinit_moves
    (h : d.Asks request sessionDeinit) :
    MovesLists d request ((start d).handleSessionDeinit request) := by
  unfold handleSessionDeinit
  split
  · exact moves_same rfl
  rename_i hlong
  dsimp only
  split
  · exact moves_same rfl
  rename_i i hfound
  have hmoved := emit_mapDevice (fun d => d.setSession i Session.zero)
    ((start d).makeStatusResponse request statusOk)
    (sessionStatusNotification request.target sessionStateDeinit
      d.profile.sessionStatusReasonCode) rfl rfl (fun _ => rfl)
  refine (congrArg (MovesLists d request ⟨.ok,·⟩) hmoved).mpr (moves_emit ?_ _)
  exact moves_set rfl (.closed ⟨h.1,h.2.1,h.2.2.1,h.2.2.2,hfound⟩ (Nat.le_of_not_lt hlong))

theorem update_multicast_list_moves
    (h : d.Asks request sessionUpdateControllerMulticastList) :
    MovesLists d request ((start d).handleSessionUpdateMulticastList request) := by
  unfold handleSessionUpdateMulticastList
  split
  · exact moves_same rfl
  dsimp only
  split
  · exact moves_same rfl
  rename_i i hfound
  split
  · exact moves_same rfl
  · exact moves_set rfl (.updated ⟨h.1,h.2.1,h.2.2.1,h.2.2.2,hfound⟩)

theorem data_transfer_phase_config_moves :
    MovesLists d request ((start d).handleSessionDataTransferPhaseConfig request) := by
  unfold handleSessionDataTransferPhaseConfig
  split
  · exact moves_same rfl
  split
  · exact moves_same rfl
  dsimp only
  split
  · exact moves_same rfl
  · exact moves_set rfl (.kept _ (.of_same rfl rfl rfl))

theorem update_dt_rounds_moves (useAnchorRounds : Bool) :
    MovesLists d request ((start d).handleSessionUpdateDtRounds request useAnchorRounds) := by
  unfold handleSessionUpdateDtRounds
  split
  · exact moves_same rfl
  dsimp only
  split
  · exact moves_same rfl
  split
  · exact moves_same rfl
  refine moves_set rfl (.kept _ ?_)
  split <;> exact .of_same rfl rfl rfl

theorem reconfigured_lists {i : Fin maxSessions} {d' : Device} (h : Reconfigured i d d')
    (j : Fin maxSessions) : (d.sessions j).SameLists (d'.sessions j) := by
  induction h with
  | same => exact .refl _
  | stored d' configId value session before admitted supported stored ih =>
    by_cases hj : j = i
    · subst hj
      rw [Device.setSession_same]
      exact (ih.trans (.storeConfig stored)).trans (.forgetProximity _ _)
    · rw [Device.setSession_other d' _ hj]
      exact ih
  | rescheduled d' delayMs before active streaming ih =>
    rw [Device.reschedule_session_event_snd _ .rangeData _ _ (by decide)]
    exact ih

theorem set_app_config_moves :
    MovesLists d request ((start d).handleSessionSetAppConfig request) := by
  unfold handleSessionSetAppConfig
  split
  · exact moves_same rfl
  split
  · exact moves_same rfl
  intro j
  exact .kept _ (reconfigured_lists (set_app_configs_steps _ _ d d _ .same) j)

theorem session_reads_move :
    MovesLists d request ((start d).handleSessionGetAppConfig request) ∧
      MovesLists d request ((start d).handleQueryDataSizeInRanging request) ∧
      MovesLists d request ((start d).handleSessionGetState request) := by
  unfold handleSessionGetAppConfig handleQueryDataSizeInRanging handleSessionGetState
  dsimp only
  refine ⟨?_,?_,?_⟩
  · split
    · exact moves_same rfl
    · split <;> exact moves_same rfl
  · split
    · exact moves_same rfl
    · split <;> exact moves_same rfl
  · split
    · exact moves_same rfl
    · split <;> exact moves_same rfl

theorem session_config_moves (hmt : request.mt = mtCommand)
    (hgid : request.gid = gidSessionConfig) :
    MovesLists d request ((start d).handleSessionConfig request) := by
  refine (config_dispatch d.profile request).outcome (x := start d) rfl (moves_same rfl) ?_
  intro handler listed hs
  have hasks : ∀ oid, request.oid = oid → d.Asks request oid := by
    rintro oid rfl
    exact ⟨hmt,hgid,rfl,hgid ▸ hs⟩
  cases listed with
  | init => exact session_init_moves
  | deinit opcode => exact session_deinit_moves (hasks _ opcode)
  | setAppConfig => exact set_app_config_moves
  | getAppConfig => exact session_reads_move.1
  | getCount => exact moves_same rfl
  | queryDataSize => exact session_reads_move.2.1
  | getState => exact session_reads_move.2.2
  | updateMulticastList opcode => exact update_multicast_list_moves (hasks _ opcode)
  | updateAnchorRounds => exact update_dt_rounds_moves true
  | updateTagRounds => exact update_dt_rounds_moves false
  | dataTransferPhaseConfig => exact data_transfer_phase_config_moves

variable {i : Fin maxSessions}

theorem logical_link_create_moves
    (h : d.Commands request gidSessionControl sessionLogicalLinkCreate i) :
    MovesLists d request ((start d).handleLogicalLinkCreate request i) := by
  unfold handleLogicalLinkCreate
  by_cases hshort : request.payload.length < 5
  · rw [if_pos hshort]
    exact moves_same rfl
  rw [if_neg hshort]
  dsimp only
  split
  · exact moves_same rfl
  rename_i hused
  split
  · exact moves_same rfl
  split
  · exact moves_same rfl
  · rename_i hallocated
    have hunused : request.linkId ≠ 0xFF →
        (d.sessions i).findLogicalLink request.linkId = none := by
      intro hid
      by_contra hsome
      exact hused ⟨hid,Option.isSome_iff_ne_none.mpr hsome⟩
    exact moves_emit
      (moves_set rfl (.linked _ _ h (Nat.le_of_not_lt hshort) hunused hallocated)) _

theorem logical_link_close_moves
    (h : d.Commands request gidSessionControl sessionLogicalLinkClose i) :
    MovesLists d request ((start d).handleLogicalLinkClose request i) := by
  unfold handleLogicalLinkClose
  by_cases hshort : request.payload.length < 5
  · rw [if_pos hshort]
    exact moves_same rfl
  rw [if_neg hshort]
  dsimp only
  split
  · exact moves_same rfl
  · rename_i hremoved
    exact moves_emit (moves_set rfl (.unlinked _ h (Nat.le_of_not_lt hshort) hremoved)) _

theorem logical_link_get_param_moves :
    MovesLists d request ((start d).handleLogicalLinkGetParam request i) := by
  unfold handleLogicalLinkGetParam
  split
  · exact moves_same rfl
  · dsimp only
    split <;> exact moves_same rfl

theorem enter_state_moves (nextState : UInt8) :
    MovesLists d request (.ok,(start d).enterState request i nextState) := by
  rw [enter_state_eq]
  exact moves_emit (fun j => .kept _ (Device.SameLists.entered d request.oid i nextState j)) _

theorem transition_moves : MovesLists d request ((start d).handleTransition request i) := by
  unfold handleTransition
  split
  · exact moves_same rfl
  dsimp only
  split
  · exact moves_same rfl
  split
  · split
    · exact moves_emit (d := d) (x := (start d).makeStatusResponse request statusOk)
        (fun j => .kept _ (.refl _)) _
    · exact moves_same rfl
  · exact enter_state_moves _

theorem session_control_moves (hmt : request.mt = mtCommand)
    (hgid : request.gid = gidSessionControl) :
    MovesLists d request ((start d).handleSessionControl request) := by
  cases control_dispatch d.profile request (d.findSession (readU32Le request.payload 0)) with
  | refused _ _ _ fails =>
    rw [fails (start d) rfl rfl]
    exact moves_same rfl
  | handled handler i listed hs _ hfound runs =>
    rw [runs (start d) rfl rfl]
    have hcommands : ∀ oid, request.oid = oid → d.Commands request gidSessionControl oid i := by
      rintro oid rfl
      exact ⟨hmt,hgid,rfl,hgid ▸ hs,hfound⟩
    cases listed with
    | getRangingCount => exact moves_same rfl
    | logicalLinkCreate opcode => exact logical_link_create_moves (hcommands _ opcode)
    | logicalLinkClose opcode => exact logical_link_close_moves (hcommands _ opcode)
    | logicalLinkGetParam => exact logical_link_get_param_moves
    | transition => exact transition_moves

theorem device_reset_moves (hmt : request.mt = mtCommand) (hgid : request.gid = gidCore)
    (hoid : request.oid = coreDeviceReset)
    (hs : d.profile.supportsCommand gidCore coreDeviceReset = true) :
    MovesLists d request ((start d).handleDeviceReset request) := by
  unfold handleDeviceReset
  split
  · exact moves_same rfl
  rename_i hlength
  split
  · exact moves_same rfl
  rename_i hvalue
  have hp : request.payload = [coreDeviceResetConfigValid] := by
    rcases List.length_eq_one_iff.mp (not_not.mp hlength) with ⟨b,hb⟩
    rw [hb]
    simpa [byteAt, hb] using hvalue
  exact moves_emit (fun j => .reset ⟨⟨hmt,hgid,hoid,hp⟩,hs⟩) _

theorem core_set_config_moves : MovesLists d request ((start d).handleCoreSetConfig request) := by
  unfold handleCoreSetConfig
  split
  · exact moves_same rfl
  · exact moves_same (core_set_configs_same_control _ _ d _ _).sessions

theorem core_moves (hmt : request.mt = mtCommand) (hgid : request.gid = gidCore) :
    MovesLists d request ((start d).handleCore request) := by
  refine (core_dispatch d.profile request).outcome (x := start d) rfl (moves_same rfl) ?_
  intro handler listed hs
  cases listed with
  | deviceReset opcode =>
    rw [hgid, opcode] at hs
    exact device_reset_moves hmt hgid opcode hs
  | deviceInfo => exact moves_same rfl
  | getCaps => exact iteInduction (fun _ => moves_same rfl) fun _ => moves_same rfl
  | setConfig => exact core_set_config_moves
  | getConfig =>
    unfold handleCoreGetConfig
    split <;> exact moves_same rfl
  | queryTimestamp =>
    unfold handleQueryUwbsTimestamp
    split <;> exact moves_same rfl

theorem qorvo_moves : MovesLists d request ((start d).handleQorvoExt2 request) ∧
    MovesLists d request ((start d).handleQorvoMac request) := by
  constructor
  · unfold handleQorvoExt2
    split <;> exact moves_same rfl
  · unfold handleQorvoMac
    split
    · split
      · exact moves_same rfl
      · dsimp only
        split <;> exact moves_same rfl
    · split <;> exact moves_same rfl

theorem dispatched_moves (hmt : request.mt = mtCommand) :
    MovesLists d request ((start d).dispatchCommand request) := by
  rcases group_dispatch request with ⟨handler,listed,runs⟩
  rw [runs]
  cases listed with
  | core group => exact core_moves hmt group
  | sessionConfig group => exact session_config_moves hmt group
  | sessionControl group => exact session_control_moves hmt group
  | qorvoExt2 => exact qorvo_moves.1
  | qorvoMac => exact qorvo_moves.2
  | unknown => exact moves_same rfl

theorem data_lists {posting : Posting} {d' : Device} (h : DataChange d request posting d') :
    d.SameLists d' := by
  cases h with
  | completed i => exact .setSession d i _ (.of_same rfl rfl rfl)
  | begun i => exact .setSession d i _ (.of_same rfl rfl rfl)
  | unscheduled i => exact .setSession d i _ (.of_same rfl rfl rfl)
  | _ => exact .of_sessions rfl

end

/-- Of every device and every packet: the lists of a slot are as the packet's own command leaves
them, if it has one for them, and as they were otherwise. -/
theorem handled_lists (d : Device) (request : Packet) (i : Fin maxSessions) :
    ListsMove d request i ((d.handlePacket request).2.device.sessions i) := by
  by_cases hmt : request.mt = mtCommand
  · rcases handle_command_device d request hmt with ⟨pending,hdevice⟩
    rw [hdevice]
    exact dispatched_moves hmt i
  by_cases hdata : request.mt = mtData
  · rcases handle_packet_served d request (Or.inl hdata) with ⟨rc,response,posting,d',hs,hx⟩
    cases hs with
    | command _ _ _ _ mt => exact absurd mt hmt
    | data _ _ _ change =>
      rw [hx, posted_finalized]
      exact .kept _ (data_lists change i)
  · rw [handle_packet_other d request hdata hmt]
    exact .kept _ (.refl _)

/-- A property of a session's lists that the blank slot has and the three commands keep. -/
structure ListLaw (Q : Session → Prop) : Prop where
  congr : ∀ session session', session'.lists = session.lists → Q session → Q session'
  zero : Q .zero
  updated : ∀ (session : Session) (action : UInt8) (count : ℕ) (rest : List UInt8), Q session →
    Q (session.updateMulticastList action count rest [] statusOk).2.2
  linked : ∀ (session session' : Session) (requestedId mode credit linkId : UInt8),
    (requestedId ≠ 0xFF → session.findLogicalLink requestedId = none) →
      session.allocateLogicalLink requestedId mode credit = some (linkId,session') →
        Q session → Q session'
  unlinked : ∀ (session session' : Session) (linkId : UInt8),
    session.removeLogicalLink linkId = some session' → Q session → Q session'

namespace ListLaw

variable {Q : Session → Prop}

theorem moved (law : ListLaw Q) {d : Device} {request : Packet} {i : Fin maxSessions}
    {session : Session} (h : ListsMove d request i session) (hq : Q (d.sessions i)) :
    Q session := by
  cases h with
  | kept _ same => exact law.congr _ _ same.lists hq
  | closed => exact law.zero
  | reset => exact law.zero
  | updated => exact law.updated _ _ _ _ hq
  | linked linkId _ _ _ unused allocated => exact law.linked _ _ _ _ _ _ unused allocated hq
  | unlinked _ _ _ removed => exact law.unlinked _ _ _ removed hq

theorem step (law : ListLaw Q) (r : Run) (op : Op) (h : ∀ i, Q (r.engine.device.sessions i)) :
    ∀ i, Q ((r.step op).engine.device.sessions i) := by
  refine r.step_handled (P := fun d => ∀ i, Q (d.sessions i)) (fun _ _ hd => hd)
    (fun _ _ _ _ _ hd hticked i =>
      law.congr _ _ (Device.SameLists.ticked hticked i).lists (hd i)) op ?_
  cases op with
  | dequeue => exact h
  | tick elapsedMs => exact h
  | submit request => exact fun i => law.moved (handled_lists _ request i) (h i)

/-- Every slot of a reached device has the property. -/
theorem reached (law : ListLaw Q) (profile : Profile) (scenario : Scenario) (ops : List Op)
    (i : Fin maxSessions) : Q ((Run.reached profile scenario ops).engine.device.sessions i) :=
  Runs.invariant_of_all_steps (I := fun r : Run => ∀ i, Q (r.engine.device.sessions i))
    law.step (Run.init profile scenario) ops (fun _ => law.zero) i

end ListLaw

end UciSim
