import UciSim.AnswerOrder
import UciSim.PacketScripts
import UciSim.Unqueued

/-!
# Commands that only ask

A command that asks for something leaves the device as it is. A host may ask at any
time: the session reports, the measurements and the answers to its other commands
stay what they would be without the question.
-/

set_option autoImplicit false

namespace UciSim

open Exchange

/-- No command with these identifiers changes the device. -/
def ReadOnly (gid oid : UInt8) : Prop :=
  (gid = gidCore → oid ∉ [coreDeviceReset,coreSetConfig,coreQueryUwbsTimestamp]) ∧
  (gid = gidSessionConfig → oid ∉ [sessionInit,sessionDeinit,sessionSetAppConfig,
    sessionUpdateControllerMulticastList,sessionUpdateDtAnchorRangingRounds,
    sessionUpdateDtTagRangingRounds,sessionDataTransferPhaseConfig]) ∧
  (gid = gidSessionControl → oid ∈ [sessionGetRangingCount,sessionLogicalLinkGetParam])

instance (gid oid : UInt8) : Decidable (ReadOnly gid oid) :=
  inferInstanceAs (Decidable (_ ∧ _))

def Packet.Queries (request : Packet) : Prop :=
  request.mt = mtCommand ∧ ReadOnly request.gid request.oid

instance (request : Packet) : Decidable request.Queries := inferInstanceAs (Decidable (_ ∧ _))

/-- The outcome is a response and nothing else. -/
def OnlyAnswers (d : Device) (outcome : Rc × Exchange) : Prop :=
  ∃ rc gid oid payload, outcome = (rc,(start d).respond gid oid payload)

section

variable {d : Device} {request : Packet}

theorem only_fails (status : UInt8) : OnlyAnswers d ((start d).fail request status) :=
  ⟨_,_,_,_,rfl⟩

theorem core_get_config_only : OnlyAnswers d ((start d).handleCoreGetConfig request) := by
  unfold handleCoreGetConfig
  split
  · exact only_fails _
  · exact ⟨_,_,_,_,rfl⟩

theorem core_only (h : request.oid ∉ [coreDeviceReset,coreSetConfig,coreQueryUwbsTimestamp]) :
    OnlyAnswers d ((start d).handleCore request) := by
  simp only [List.mem_cons, List.not_mem_nil, or_false, not_or] at h
  refine (core_dispatch d.profile request).outcome (x := start d) rfl (only_fails _) ?_
  intro handler listed _
  cases listed with
  | deviceInfo => exact ⟨_,_,_,_,rfl⟩
  | getCaps => exact iteInduction (fun _ => only_fails _) fun _ => ⟨_,_,_,_,rfl⟩
  | getConfig => exact core_get_config_only
  | deviceReset opcode => exact absurd opcode h.1
  | setConfig opcode => exact absurd opcode h.2.1
  | queryTimestamp opcode => exact absurd opcode h.2.2

theorem get_app_config_only : OnlyAnswers d ((start d).handleSessionGetAppConfig request) := by
  unfold handleSessionGetAppConfig
  refine iteInduction (fun _ => only_fails _) fun _ => ?_
  split
  · exact only_fails _
  · exact ⟨_,_,_,_,rfl⟩

theorem query_data_size_only :
    OnlyAnswers d ((start d).handleQueryDataSizeInRanging request) := by
  unfold handleQueryDataSizeInRanging
  refine iteInduction (fun _ => ⟨_,_,_,_,rfl⟩) fun _ => ?_
  split <;> exact ⟨_,_,_,_,rfl⟩

theorem get_state_only : OnlyAnswers d ((start d).handleSessionGetState request) := by
  unfold handleSessionGetState
  refine iteInduction (fun _ => only_fails _) fun _ => ?_
  split
  · exact only_fails _
  · exact ⟨_,_,_,_,rfl⟩

theorem session_config_only (h : request.oid ∉ [sessionInit,sessionDeinit,sessionSetAppConfig,
    sessionUpdateControllerMulticastList,sessionUpdateDtAnchorRangingRounds,
    sessionUpdateDtTagRangingRounds,sessionDataTransferPhaseConfig]) :
    OnlyAnswers d ((start d).handleSessionConfig request) := by
  refine (config_dispatch d.profile request).outcome (x := start d) rfl (only_fails _) ?_
  intro handler listed _
  cases listed with
  | getAppConfig => exact get_app_config_only
  | getCount => exact ⟨_,_,_,_,rfl⟩
  | queryDataSize => exact query_data_size_only
  | getState => exact get_state_only
  | _ opcode => exact absurd (by simp [opcode]) h

theorem link_get_param_only (i : Fin maxSessions) :
    OnlyAnswers d ((start d).handleLogicalLinkGetParam request i) := by
  unfold handleLogicalLinkGetParam
  refine iteInduction (fun _ => only_fails _) fun _ => ?_
  dsimp only
  split <;> exact ⟨_,_,_,_,rfl⟩

theorem session_control_only
    (h : request.oid ∈ [sessionGetRangingCount,sessionLogicalLinkGetParam]) :
    OnlyAnswers d ((start d).handleSessionControl request) := by
  cases control_dispatch d.profile request (d.findSession (readU32Le request.payload 0)) with
  | refused _ _ _ fails =>
    rw [fails (start d) rfl rfl]
    exact only_fails _
  | handled handler i listed _ _ _ runs =>
    rw [runs (start d) rfl rfl]
    cases listed with
    | getRangingCount => exact ⟨_,_,_,_,rfl⟩
    | logicalLinkGetParam => exact link_get_param_only i
    | logicalLinkCreate opcode =>
      rw [opcode] at h
      exact absurd h (by decide)
    | logicalLinkClose opcode =>
      rw [opcode] at h
      exact absurd h (by decide)
    | transition opcode =>
      refine absurd ?_ opcode
      rcases List.mem_pair.mp h with hoid | hoid <;> simp [hoid]

theorem qorvo_ext2_only : OnlyAnswers d ((start d).handleQorvoExt2 request) := by
  unfold handleQorvoExt2
  exact iteInduction (fun _ => ⟨_,_,_,_,rfl⟩) fun _ => only_fails _

theorem qorvo_mac_only : OnlyAnswers d ((start d).handleQorvoMac request) := by
  unfold handleQorvoMac
  refine iteInduction (fun _ => ?_) fun _ => ?_
  · refine iteInduction (fun _ => ⟨_,_,_,_,rfl⟩) fun _ => ?_
    dsimp only
    split <;> exact ⟨_,_,_,_,rfl⟩
  · exact iteInduction (fun _ => ⟨_,_,_,_,rfl⟩) fun _ => only_fails _

theorem query_dispatched (h : ReadOnly request.gid request.oid) :
    OnlyAnswers d ((start d).dispatchCommand request) := by
  rcases group_dispatch request with ⟨handler,listed,runs⟩
  rw [runs]
  cases listed with
  | core group => exact core_only (h.1 group)
  | sessionConfig group => exact session_config_only (h.2.1 group)
  | sessionControl group => exact session_control_only (h.2.2 group)
  | qorvoExt2 => exact qorvo_ext2_only
  | qorvoMac => exact qorvo_mac_only
  | unknown => exact only_fails _

end

/-- An answer to a query, or the generic error behind a refused command. -/
def Packet.Passing (n : Packet) : Prop :=
  (n.mt = mtResponse ∧ ReadOnly n.gid n.oid) ∨
    (n.mt = mtNotification ∧ n.gid = gidCore ∧ n.oid = coreGenericError)

instance (n : Packet) : Decidable n.Passing := inferInstanceAs (Decidable (_ ∨ _))

/-- What the host is sent apart from answers to queries and generic errors. -/
def lasting (packets : List Packet) : List Packet := packets.filter fun n => ¬ n.Passing

theorem lasting_append (ns ms : List Packet) :
    lasting (ns ++ ms) = lasting ns ++ lasting ms := List.filter_append _ _

theorem lasting_passing {ns : List Packet} (h : ∀ n ∈ ns, n.Passing) : lasting ns = [] :=
  List.filter_eq_nil_iff.mpr fun n hn => by simpa using h n hn

theorem errors_pass (rc : Rc) (response : Packet) :
    ∀ n ∈ errorNotifications rc response, n.Passing := by
  unfold errorNotifications
  split
  · intro n hn
    rw [List.mem_singleton.mp hn]
    exact Or.inr ⟨rfl,rfl,rfl⟩
  · exact List.forall_mem_nil _

section

variable {d : Device} {request : Packet}

theorem query_handled (hq : d.Quiet) (h : request.Queries) :
    ∃ rc response, ∃ m : Mail, d.handlePacket request =
        (rc,⟨d.withPending m.pending,⟨some response,m.slot⟩,m.accepted⟩) ∧
      response.Passing ∧ ∀ n ∈ m.accepted, n.Passing := by
  obtain ⟨hcommand,hreads⟩ := h
  obtain ⟨rc,gid,oid,payload,hdispatch⟩ := query_dispatched (d := d) hreads
  have hanswered : (start d).respond gid oid payload =
      answered d ⟨mtResponse,pbfComplete,gid,oid,payload⟩ [] := rfl
  obtain ⟨payload',hresponse⟩ := (dispatch_command_replied d request).response
  rw [hdispatch] at hresponse
  cases hresponse
  have hx := handle_command d request hcommand
  rw [hdispatch, hanswered, report_error_answered, List.nil_append] at hx
  generalize hr : Packet.mk mtResponse pbfComplete request.gid request.oid payload = response at hx
  have hposted := posted_finalized d (some response)
    (.delivered (errorNotifications rc response)) d.pendingNotifications.length
  obtain ⟨-,haccepted⟩ := settled_uncongested d (.delivered (errorNotifications rc response))
    d.pendingNotifications.length hq.prompt hq.idle ((errors_announce rc _).1.trans (by decide))
  refine ⟨rc,response,_,hx.trans (congrArg _ hposted),Or.inl ?_,?_⟩
  · rw [← hr]
    exact ⟨rfl,hreads⟩
  · rw [haccepted]
    exact errors_pass rc _

/-- A query is answered, and then the device is ticked by no time. -/
theorem query_call (hq : d.Quiet) (h : request.Queries) :
    (d.call (.submit request)).1 = (d.ticked 0).1 ∧
      ∃ answers, (d.call (.submit request)).2 = answers ++ (d.ticked 0).2 ∧
        ∀ n ∈ answers, n.Passing := by
  obtain ⟨rc,response,m,hx,hresponse,haccepted⟩ := query_handled hq h
  have hself : (d.withPending m.pending).withPending [] = d := idle_self hq.idle
  rw [Device.call, hx]
  dsimp only
  rw [if_neg (fun hsilent => Option.some_ne_none _ hsilent.2.1), hself]
  refine ⟨rfl,_,rfl,fun n hn => ?_⟩
  rcases List.mem_append.mp hn with hn | hn
  · rw [Option.mem_toList.mp hn |> Option.some.inj |>.symm]
    exact hresponse
  · exact haccepted n hn

end

/-- A tick of no time in the place of a query. -/
def Op.unasked : Op → Op
  | .submit request => if request.Queries then .tick 0 else .submit request
  | op => op

theorem query_unasked {request : Packet} (h : request.Queries) :
    (Op.submit request).unasked = .tick 0 := if_pos h

theorem unasked_other {op : Op} (h : ∀ request, op = .submit request → ¬ request.Queries) :
    op.unasked = op := by
  cases op with
  | submit request => exact if_neg (h request rfl)
  | tick | dequeue => rfl

theorem query_demand {d : Device} {request : Packet} (hq : d.Quiet) (h : request.Queries) :
    d.demand (.tick 0) ≤ d.demand (.submit request) := by
  obtain ⟨rc,response,m,hx,-,-⟩ := query_handled hq h
  have hself : (d.withPending m.pending).withPending [] = d := idle_self hq.idle
  rw [Device.demand, Device.demand, hx]
  dsimp only
  rw [if_neg (fun hsilent => Option.some_ne_none _ hsilent.2.1), hself]
  exact Nat.le_add_left _ _

/-- The second run is the first without its queries. -/
structure Run.Unasked (r f : Run) : Prop where
  device : f.engine.device = r.engine.device
  sent : lasting f.emitted = lasting r.emitted
  shorter : f.engine.outboundPackets.length ≤ r.engine.outboundPackets.length

namespace Run.Unasked

variable {r f : Run} {op : Op}

theorem room (h : r.Unasked f) {op' : Op} (hdemand : r.engine.device.demand op' ≤
    r.engine.device.demand op) (hroom : r.Fits op) (hop : op ≠ .dequeue) : f.Fits op' := by
  have hfits : r.engine.outboundPackets.length+r.engine.device.demand op ≤ maxOutboundPackets := by
    cases op with
    | dequeue => exact absurd rfl hop
    | submit | tick => exact hroom
  have hshorter := h.shorter
  cases op' with
  | dequeue => trivial
  | submit | tick =>
    simp only [Fits, h.device]
    omega

/-- Calls that send the same, passing answers apart. -/
theorem step_calls (h : r.Unasked f) (hq : r.engine.device.Quiet) {op' : Op}
    (hroom : r.Fits op) (hroom' : f.Fits op') (hop : op ≠ .dequeue) (hop' : op' ≠ .dequeue)
    {answers : List Packet} (hpass : ∀ n ∈ answers, n.Passing)
    (hdevice : (r.engine.device.call op).1 = (r.engine.device.call op').1)
    (hsent : (r.engine.device.call op).2 = answers ++ (r.engine.device.call op').2) :
    (r.step op).Unasked (f.step op') := by
  have hqf : f.engine.device.Quiet := h.device ▸ hq
  obtain ⟨hleft,hemitted⟩ := step_call hroom hq
  obtain ⟨hleftf,hemittedf⟩ := step_call hroom' hqf
  have hshorter := h.shorter
  constructor
  · rw [hleft, hleftf, hdevice, h.device]
  · rw [hemitted, hemittedf, lasting_append, lasting_append, h.sent, hsent, lasting_append,
      lasting_passing hpass, h.device]
    rfl
  · rw [outbound_grows r hop hemitted, outbound_grows f hop' hemittedf, hsent, h.device]
    simp only [List.length_append]
    omega

theorem step (h : r.Unasked f) (hq : r.engine.device.Quiet) (hroom : r.Fits op) :
    f.Fits op.unasked ∧ (r.step op).Unasked (f.step op.unasked) := by
  by_cases hquery : ∃ request, op = .submit request ∧ request.Queries
  · obtain ⟨request,rfl,hqueries⟩ := hquery
    obtain ⟨hdevice,answers,hsent,hpass⟩ := query_call hq hqueries
    have hroom' : f.Fits (.tick 0) := h.room (query_demand hq hqueries) hroom (by simp)
    rw [query_unasked hqueries]
    exact ⟨hroom',h.step_calls hq hroom hroom' (by simp) (by simp) hpass hdevice hsent⟩
  · rw [unasked_other fun request hop hqueries => hquery ⟨request,hop,hqueries⟩]
    by_cases hop : op = .dequeue
    · subst hop
      refine ⟨trivial,?_,?_,?_⟩
      · rw [step_dequeue_device, step_dequeue_device, h.device]
      · rw [step_dequeue_emitted, step_dequeue_emitted, h.sent]
      · rw [dequeue_shortens, dequeue_shortens]
        exact Nat.sub_le_sub_right h.shorter 1
    · have hroom' : f.Fits op := h.room (Nat.le_refl _) hroom hop
      exact ⟨hroom',h.step_calls hq hroom hroom' hop hop (List.forall_mem_nil _) rfl rfl⟩

theorem run {ops : List Op} (h : r.Unasked f) (hq : r.engine.device.Quiet)
    (hroom : Runs.Along Run.step Fits r ops) :
    Runs.Along Run.step Fits f (ops.map Op.unasked) ∧
      (Runs.run Run.step r ops).Unasked (Runs.run Run.step f (ops.map Op.unasked)) := by
  induction ops generalizing r f with
  | nil => exact ⟨trivial,h⟩
  | cons op ops ih =>
    obtain ⟨hfits,hstep⟩ := h.step hq hroom.1
    obtain ⟨halong,hrun⟩ := ih hstep (step_quiet hroom.1 hq) hroom.2
    exact ⟨⟨hfits,halong⟩,hrun⟩

end Run.Unasked

/-- As long as the outbound queue has room in a scenario that does not defer, the host may ask at
any time: without its queries the run still has room, ends in the same device, and sends the same
packets in the same order, the answers to the queries and the generic errors apart. -/
theorem queries_change_nothing (profile : Profile) (scenario : Scenario)
    (hs : scenario ≠ .delayedNotifications) (ops : List Op)
    (h : Run.Along profile scenario Run.Fits ops) :
    let asked := Run.reached profile scenario ops
    let unasked := Run.reached profile scenario (ops.map Op.unasked)
    Run.Along profile scenario Run.Fits (ops.map Op.unasked) ∧
      unasked.engine.device = asked.engine.device ∧
      lasting unasked.emitted = lasting asked.emitted := by
  intro asked unasked
  have hq : (Run.init profile scenario).engine.device.Quiet := ⟨hs,rfl⟩
  have hstart : (Run.init profile scenario).Unasked (Run.init profile scenario) :=
    ⟨rfl,rfl,Nat.le_refl _⟩
  obtain ⟨hroom,hrun⟩ := hstart.run hq h
  exact ⟨hroom,hrun.device,hrun.sent⟩

/-- A host that starts a session and counts the sessions while it ranges. -/
def countingRun : List Op := [.submit (initRequest 1), .submit (startRequest 1), .tick 2000,
  .submit getCountRequest, .dequeue, .tick 2000, .submit getCountRequest]

theorem queries_change_nothing_counting :
    let asked := Run.reached defaultProfile .rangingStream countingRun
    let unasked := Run.reached defaultProfile .rangingStream (countingRun.map Op.unasked)
    Run.Along defaultProfile .rangingStream Run.Fits (countingRun.map Op.unasked) ∧
      unasked.engine.device = asked.engine.device ∧
      lasting unasked.emitted = lasting asked.emitted :=
  queries_change_nothing defaultProfile .rangingStream (by decide) countingRun (by decide +kernel)

end UciSim
