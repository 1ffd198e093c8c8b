import UciSim.Conversations
import UciSim.HostView
import UciSim.SessionMap

/-!
# What the host can foretell

A host that has followed the notifications knows the answer to every command about
the session table before it sends it.
-/

set_option autoImplicit false

namespace UciSim

open Exchange

/-- The payload of the answer to a command about the session table, for a host that knows the
states of the sessions. -/
noncomputable def foretold (known : SessionStates) (request : Packet) : List UInt8 :=
  if request.oid = sessionInit then
    if known request.target ≠ none ∨ Slots.size known < maxSessions then
      statusOk::writeU32Le request.target
    else [statusRejected]
  else if request.oid = sessionDeinit then
    [if known request.target ≠ none then statusOk else statusInvalidParam]
  else if request.oid = sessionGetCount then [statusOk,UInt8.ofNat (Slots.size known)]
  else match known request.target with
    | some state => [statusOk,state]
    | none => [statusInvalidParam]

namespace Device

structure AsksState (d : Device) (request : Packet) : Prop where
  asks : d.Asks request sessionGetState
  long : 4 ≤ request.payload.length

/-- The command creates, removes, counts or looks up a session. -/
inductive Consults (d : Device) (request : Packet) : Prop where
  | inits (h : d.Inits request)
  | deinits (h : d.Deinits request)
  | counts (h : d.Asks request sessionGetCount)
  | looks (h : d.AsksState request)

theorem Consults.asks {d : Device} {request : Packet} (h : d.Consults request) :
    ∃ oid, d.Asks request oid := by
  cases h with
  | inits h => exact ⟨_,h.asks⟩
  | deinits h => exact ⟨_,h.asks⟩
  | counts h => exact ⟨_,h⟩
  | looks h => exact ⟨_,h.asks⟩

end Device

section

variable {d : Device} {request : Packet}

theorem states_found (sessionId : UInt32) :
    d.sessionStates sessionId ≠ none ↔ d.findSession sessionId ≠ none :=
  not_congr Option.map_eq_none_iff

theorem states_size : Slots.size d.sessionStates = Slots.size d.sessionMap := by
  unfold Slots.size
  congr 1
  ext sessionId
  exact (states_found sessionId).trans (not_congr session_map_absent.symm)

/-- The packet is answered with the payload foretold from the states of the sessions. -/
def Device.AnswersForetold (d : Device) (request : Packet) : Prop :=
  ((start d).dispatchCommand request).2.result.response = some ⟨mtResponse,pbfComplete,
    request.gid,request.oid,foretold d.sessionStates request⟩

theorem inits_foretold (hkept : d.SlotsKept) (h : d.Inits request) :
    d.AnswersForetold request := by
  have hoid := h.asks.2.2.1
  have haccepts : d.sessionStates request.target ≠ none ∨
      Slots.size d.sessionStates < maxSessions ↔
        d.findSession request.target ≠ none ∨ d.freeSession.isSome = true := by
    rw [states_size, free_session_iff hkept]
    exact or_congr_left (states_found _)
  rw [Device.AnswersForetold, init_command h.asks, handleSessionInit,
    if_neg (Nat.not_lt_of_le h.long), foretold, if_pos hoid, h.asks.2.1, hoid]
  dsimp only
  rw [if_neg (not_not.mpr h.ranging), show (start d).device = d from rfl]
  cases hfind : d.findSession request.target with
  | some i =>
    rw [hfind] at haccepts
    rw [if_pos (haccepts.mpr (Or.inl (Option.some_ne_none i)))]
    exact emit_response _ _
  | none =>
    rw [hfind] at haccepts
    dsimp only
    unfold Device.allocSession
    cases hfree : d.freeSession with
    | some i =>
      rw [hfree] at haccepts
      rw [if_pos (haccepts.mpr (Or.inr rfl))]
      exact emit_response _ _
    | none =>
      rw [hfree] at haccepts
      rw [if_neg (fun h => by simpa using haccepts.mp h), ← h.asks.2.1, ← hoid]
      rfl

theorem deinits_foretold (h : d.Deinits request) : d.AnswersForetold request := by
  have hoid := h.asks.2.2.1
  have hfound := states_found (d := d) request.target
  rw [Device.AnswersForetold, deinit_command h.asks, handleSessionDeinit,
    if_neg (Nat.not_lt_of_le h.long), foretold, if_neg (by rw [hoid]; decide), if_pos hoid]
  dsimp only
  rw [show (start d).device = d from rfl]
  cases hfind : d.findSession request.target with
  | none =>
    rw [hfind] at hfound
    rw [if_neg (fun h => hfound.mp h rfl)]
    rfl
  | some i =>
    rw [hfind] at hfound
    rw [if_pos (hfound.mpr (Option.some_ne_none i))]
    exact emit_response _ _

theorem counts_foretold (hkept : d.SlotsKept) (h : d.Asks request sessionGetCount) :
    d.AnswersForetold request := by
  have hcount : d.allocatedCount = Slots.size d.sessionMap := Slots.Kept.count_eq_size hkept
  have hoid := h.2.2.1
  rw [Device.AnswersForetold, count_command h, foretold, if_neg (by rw [hoid]; decide),
    if_neg (by rw [hoid]; decide), if_pos hoid, states_size, ← hcount, h.2.1, hoid]
  rfl

theorem state_command (h : d.Asks request sessionGetState) :
    (start d).dispatchCommand request = (start d).handleSessionGetState request :=
  config_command h (.getState rfl)

theorem looks_foretold (h : d.AsksState request) : d.AnswersForetold request := by
  have hoid := h.asks.2.2.1
  have hne : request.oid ≠ sessionInit ∧ request.oid ≠ sessionDeinit ∧
      request.oid ≠ sessionGetCount := by
    rw [hoid]
    decide
  rw [Device.AnswersForetold, state_command h.asks, handleSessionGetState,
    if_neg (Nat.not_lt_of_le h.long), foretold, if_neg hne.1, if_neg hne.2.1, if_neg hne.2.2,
    show (start d).device = d from rfl, Device.sessionStates]
  cases hfind : d.findSession request.target with
  | none => rfl
  | some i =>
    rw [h.asks.2.1, hoid]
    rfl

theorem consults_foretold (hkept : d.SlotsKept) (h : d.Consults request) :
    d.AnswersForetold request := by
  cases h with
  | inits h => exact inits_foretold hkept h
  | deinits h => exact deinits_foretold h
  | counts h => exact counts_foretold hkept h
  | looks h => exact looks_foretold h

end

namespace Run

/-- The next packet the host is sent answers the command, and only notifications follow it. -/
def Answers (r : Run) (request : Packet) (payload : List UInt8) : Prop :=
  ∃ notices : List Packet, (∀ n ∈ notices, n.mt = mtNotification) ∧
    (r.step (.submit request)).emitted = r.emitted ++
      ⟨mtResponse,pbfComplete,request.gid,request.oid,payload⟩ :: notices

theorem answers_of_response {r : Run} (h : r.Noticing) {request : Packet}
    (hroom : r.Uncongested (.submit request)) {payload : List UInt8}
    (hresponse : (r.engine.device.handlePacket request).2.result.response =
      some ⟨mtResponse,pbfComplete,request.gid,request.oid,payload⟩) :
    r.Answers request payload := by
  have hslot : ∀ n ∈ (r.engine.device.handlePacket request).2.result.notification.toList,
      n.mt = mtNotification := fun n hn =>
    handled_notifies request h.waiting n (List.mem_append_left _ hn)
  have hhanded : r.engine.handed request =
      ⟨mtResponse,pbfComplete,request.gid,request.oid,payload⟩ ::
        (r.engine.device.handlePacket request).2.result.notification.toList := by
    rw [Engine.handed, hresponse]
    rfl
  have hfew : (r.engine.handed request).length ≤ 2 := by
    rw [hhanded, List.length_cons]
    cases (r.engine.device.handlePacket request).2.result.notification <;> simp
  have hlight : r.engine.outboundPackets.length ≤ 8 := hroom
  obtain ⟨ns,hns,hout⟩ := submit_sends h
    (fun hsilent => absurd hsilent.2 (by rw [hhanded]; exact List.cons_ne_nil _ _))
    (show r.engine.outboundPackets.length+(r.engine.handed request).length ≤ maxOutboundPackets by
      simp only [maxOutboundPackets]
      omega)
  rw [hhanded] at hout
  refine ⟨(r.engine.device.handlePacket request).2.result.notification.toList ++ ns,?_,?_⟩
  · intro n hn
    rcases List.mem_append.mp hn with hn | hn
    · exact hslot n hn
    · exact hns n hn
  · rw [emitted, hout, emitted, List.append_assoc]
    rfl

/-- The host has foretold the next answer about the session table. -/
theorem Followed.foretells {r : Run} (h : r.Followed) (hkept : r.engine.device.SlotsKept)
    (hnotices : r.Noticing) {request : Packet} (hroom : r.Uncongested (.submit request))
    (hrequest : r.engine.device.Consults request) :
    r.Answers request (foretold (replay r.emitted) request) := by
  refine answers_of_response hnotices hroom ?_
  obtain ⟨oid,hasks⟩ := hrequest.asks
  rw [h.known, handle_command_response _ request hasks.1]
  exact consults_foretold hkept hrequest

theorem reached_noticing {profile : Profile} {scenario : Scenario} (ops : List Op) :
    (reached profile scenario ops).Noticing := by
  have hinit : (init profile scenario).Noticing := ⟨Nat.zero_le _,List.forall_mem_nil _⟩
  exact Runs.invariant_of_all_steps (fun _ op hr => hr.step op) _ ops hinit

end Run

/-- In every uncongested run that does not defer, the answer to a command about the session table
is the one that a host foretells from the status notifications it has been sent. -/
theorem host_foretells_answers (profile : Profile) (hp : profile.StartStop) (scenario : Scenario)
    (hs : scenario ≠ .delayedNotifications) (ops : List Op)
    (h : Run.Along profile scenario Run.Uncongested ops) (request : Packet)
    (hroom : (Run.reached profile scenario ops).Uncongested (.submit request))
    (hrequest : (Run.reached profile scenario ops).engine.device.Consults request) :
    (Run.reached profile scenario ops).Answers request
      (foretold (replay (Run.reached profile scenario ops).emitted) request) := by
  have hkept : (Run.reached profile scenario ops).engine.device.SlotsKept :=
    .reached profile scenario ops
  exact (Run.Followed.reached hp hs h).foretells hkept (Run.reached_noticing ops) hroom hrequest

def getStateRequest (sessionId : UInt32) : Packet :=
  hostCommand gidSessionConfig sessionGetState (writeU32Le sessionId)

def startedRun : List Op := [.submit (initRequest 1), .submit (startRequest 1)]

theorem host_foretells_started_session :
    (Run.reached defaultProfile .rangingStream startedRun).Answers (getStateRequest 1)
      (foretold (replay (Run.reached defaultProfile .rangingStream startedRun).emitted)
        (getStateRequest 1)) :=
  host_foretells_answers defaultProfile default_profile_start_stop .rangingStream (by decide)
    startedRun (by decide +kernel) (getStateRequest 1) (by decide +kernel)
    (.looks ⟨⟨rfl,rfl,rfl,by decide +kernel⟩,by decide⟩)

end UciSim
