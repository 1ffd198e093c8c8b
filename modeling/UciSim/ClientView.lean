import UciSim.HostAnswers
import UciSim.TcpConversation

/-!
# What a TCP client knows

A client that decodes the bytes it has read and replays their notifications holds the
device's own map from session to state. So it knows the payload of the next answer about the
session table before it is written.
-/

set_option autoImplicit false

namespace UciSim

/-- The message as a packet that is not a fragment. -/
def Message.packet (m : Message) : Packet := ⟨m.mt,pbfComplete,m.gid,m.oid,m.payload⟩

/-- The header shows a host what the packet signals. -/
def Packet.Legible (n : Packet) : Prop := n.message.packet.signal = n.signal

section

variable {d d' : Device} {request : Packet} {ns packets : List Packet}

theorem replay_messages (h : ∀ p ∈ packets, p.Legible) :
    replay ((packets.map Packet.message).map Message.packet) = replay packets := by
  unfold replay
  rw [List.map_map, List.filterMap_map]
  exact congrArg (fun signals => List.foldl observe _ signals) (List.filterMap_congr h)

theorem response_legible {n : Packet} (h : n.mt = mtResponse) : n.Legible := by
  have hmessage : n.message.packet.mt = mtResponse := by
    show n.mt &&& 0x03 = mtResponse
    rw [h]
    rfl
  exact (response_signal hmessage).trans (response_signal h).symm

theorem notification_legible {gid oid : UInt8} (hgid : gid &&& 0x0F = gid)
    (hoid : oid &&& 0x3F = oid) (payload : List UInt8) :
    (Packet.notification gid oid payload).Legible := by
  have hmt : mtNotification &&& 0x03 = mtNotification := by decide
  have hmessage : (Packet.notification gid oid payload).message.packet =
      .notification gid oid payload := by
    unfold Packet.message Message.packet Packet.notification
    rw [hgid, hoid, hmt]
  exact congrArg Packet.signal hmessage

theorem control_legible (oid : UInt8) (payload : List UInt8) :
    (Packet.notification gidSessionControl oid payload).Legible := by
  have hquiet : ∀ {n : Packet}, n.gid = gidSessionControl → n.signal = none := by
    intro n hgid
    refine Packet.signal_quiet ⟨fun hs => ?_,fun hd => ?_⟩
    · exact absurd (hgid.symm.trans hs.2.1) (by decide)
    · exact absurd (hgid.symm.trans hd.2.1) (by decide)
  have hmasked : gidSessionControl &&& 0x0F = gidSessionControl := by decide
  exact (hquiet hmasked).trans (hquiet rfl).symm

theorem change_legible (h : Change d request ns d') : ∀ n ∈ ns, n.Legible := by
  intro n hn
  cases h with
  | housekept | edited | configured => cases hn
  | linked =>
    rw [List.mem_singleton.mp hn]
    exact control_legible _ _
  | reported | opened | closed | moved | reset =>
    rw [List.mem_singleton.mp hn]
    exact notification_legible (by decide) (by decide) _

theorem data_change_legible {posting : Posting} (h : DataChange d request posting d') :
    ∀ n ∈ posting.packets, n.Legible := by
  intro n hn
  cases h with
  | ignored | begun | unscheduled => cases hn
  | refused =>
    rw [List.mem_singleton.mp hn]
    exact control_legible _ _
  | repeated | completed =>
    rcases List.mem_pair.mp hn with rfl | rfl
    · exact control_legible _ _
    · exact control_legible _ _

theorem served_legible {response : Option Packet} {posting : Posting}
    (h : Served d request response posting d') :
    ∀ n ∈ response.toList ++ posting.packets, n.Legible := by
  cases h with
  | data posting _ _ change => exact data_change_legible change
  | command response ns errors _ _ responds change error =>
    intro n hn
    rcases List.mem_cons.mp hn with rfl | hn
    · exact response_legible responds
    have hposted : n ∈ ns ++ errors := hn
    rcases List.mem_append.mp hposted with hn | hn
    · exact change_legible change n hn
    · rcases error with rfl | ⟨status,rfl⟩
      · cases hn
      · rw [List.mem_singleton.mp hn]
        exact notification_legible (by decide) (by decide) _

theorem events_post_legible (d : Device) : d.EventsPost Packet.Legible where
  range _ _ := control_legible _ _
  idle _ _ := notification_legible (by decide) (by decide) _
  credit _ := control_legible _ _
  status _ _ _ _ _ := control_legible _ _

theorem called_legible {op : Op} (h : Called d op ns d') : ∀ n ∈ ns, n.Legible := by
  intro n hn
  cases h with
  | refused | silent | dequeued => cases hn
  | answered _ response posting _ flushes ns _ p served handled ticks ticked =>
    rcases List.mem_append.mp hn with hn | hn
    · exact served_legible served n hn
    · exact (events_post_legible _).ticked ticked n hn
  | ticked elapsedMs flushes ns _ ticked => exact (events_post_legible _).ticked ticked n hn

end

namespace Run

variable {r : Run} {profile : Profile} {scenario : Scenario} {ops : List Op}

theorem sends_onward (hq : r.engine.device.Quiet) (h : Runs.Along step Uncongested r ops) :
    ∃ ns, (Runs.run step r ops).emitted = r.emitted ++ ns ∧ ∀ n ∈ ns, n.Legible := by
  refine (Runs.invariant_of_steps (I := fun r' : Run => r'.engine.device.Quiet ∧
    ∃ ns, r'.emitted = r.emitted ++ ns ∧ ∀ n ∈ ns, n.Legible) ?_ r ops
    ⟨hq,[],(List.append_nil _).symm,List.forall_mem_nil _⟩ h).2
  rintro r' op ⟨hquiet,sent,hsent,hlegible⟩ hop
  obtain ⟨ns,hcalled,hidle,hemitted,-⟩ := r'.step_called op (hop.fits hquiet) hquiet
  refine ⟨⟨(step_scenario r' op).symm ▸ hquiet.prompt,hidle⟩,sent ++ ns,?_,?_⟩
  · rw [hemitted, hsent, List.append_assoc]
  · exact List.forall_mem_append.mpr ⟨hlegible,called_legible hcalled⟩

theorem emitted_legible (hs : scenario ≠ .delayedNotifications)
    (h : Along profile scenario Uncongested ops) :
    ∀ n ∈ (reached profile scenario ops).emitted, n.Legible := by
  obtain ⟨ns,hemitted,hlegible⟩ := sends_onward ⟨hs,rfl⟩ h
  rw [reached, hemitted]
  exact hlegible

theorem Followed.goes_on {r : Run} {request : Packet} {rest : List Op} (h : r.Followed)
    (hkept : r.engine.device.SlotsKept) (hnotices : r.Noticing)
    (hrequest : r.engine.device.Consults request)
    (hops : Runs.Along Run.step Uncongested r (.submit request::rest)) :
    ∃ after, (Runs.run Run.step r (.submit request::rest)).emitted = r.emitted ++
      ⟨mtResponse,pbfComplete,request.gid,request.oid,
        foretold (replay r.emitted) request⟩::after := by
  obtain ⟨notices,-,hanswered⟩ := h.foretells hkept hnotices hops.1 hrequest
  obtain ⟨ns,hsent,-⟩ := sends_onward (h.step hops.1).settled.quiet hops.2
  refine ⟨notices ++ ns,?_⟩
  rw [Runs.run, hsent, hanswered, List.append_assoc, List.cons_append]

end Run

/-- In the scenarios that do not defer, the bytes a client of a running TCP loop has read tell it
the state of every session, and the answer to its next command about the session table: whenever
the loop runs later, and however, that answer comes first of all that is read from then on. -/
theorem tcp_client_foretells (arrivals takes : ℕ → ℕ) (profile : Profile) (hp : profile.StartStop)
    (scenario : Scenario) (hs : scenario ≠ .delayedNotifications) (incoming : List UInt8)
    (nowMs : UInt64) (turns : List Turn)
    (hrun : (TcpLoop.served arrivals takes profile scenario incoming nowMs turns).running = true) :
    let loop := TcpLoop.served arrivals takes profile scenario incoming nowMs turns
    let heard := hostDecode loop.server.connection.written
    let known := replay (heard.map Message.packet)
    known = loop.run.engine.device.sessionStates ∧
      ∀ (more : List Turn) (request : Packet) (rest : List Op),
        let later := Runs.run (TcpLoop.turn arrivals takes) loop more
        later.running = true →
        later.server.calls.made = loop.server.calls.made ++ .submit request::rest →
        loop.run.engine.device.Consults request →
          ∃ after, hostDecode later.server.connection.written = heard ++
            Packet.message ⟨mtResponse,pbfComplete,request.gid,request.oid,
              foretold known request⟩::after := by
  intro loop heard known
  have h : loop.Sound profile scenario incoming 0 :=
    TcpLoop.Sound.served arrivals takes profile scenario incoming nowMs turns
  have hfollowed : loop.run.Followed := h.reached ▸ Run.Followed.reached hp hs h.follows.along
  have hheard : heard = loop.run.emitted.map Packet.message := h.client_reads hrun
  have hreplayed : known = replay loop.run.emitted := by
    show replay (heard.map Message.packet) = _
    rw [hheard]
    refine replay_messages ?_
    rw [h.reached]
    exact Run.emitted_legible hs h.follows.along
  refine ⟨hreplayed.trans hfollowed.known,?_⟩
  intro more request rest later hlater hmade hrequest
  have hserved : later =
      TcpLoop.served arrivals takes profile scenario incoming nowMs (turns ++ more) :=
    (Runs.run_append _ _ _ _).symm
  have hsound : later.Sound profile scenario incoming 0 :=
    hserved ▸ TcpLoop.Sound.served arrivals takes profile scenario incoming nowMs (turns ++ more)
  have halong := hsound.follows.along
  have hlaterRun := hsound.reached
  rw [hmade] at halong hlaterRun
  rw [Run.reached, Runs.run_append] at hlaterRun
  have hops : Runs.Along Run.step Run.Uncongested loop.run (.submit request::rest) :=
    h.reached ▸ ((Runs.along_append _ _ _).mp halong).2
  have hkept : loop.run.engine.device.SlotsKept := h.reached ▸ .reached profile scenario _
  have hnotices : loop.run.Noticing := h.reached ▸ Run.reached_noticing _
  obtain ⟨after,hafter⟩ := hfollowed.goes_on hkept hnotices hrequest hops
  refine ⟨after.map Packet.message,?_⟩
  have hreached : Runs.run Run.step (Run.init profile scenario) loop.server.calls.made =
      loop.run := h.reached.symm
  rw [hsound.client_reads hlater, hlaterRun, hreached, hafter, hheard, List.map_append,
    List.map_cons, hreplayed]

/-- A client that opens a session, starts it and asks for its state. -/
def askingClient : List UInt8 :=
  [initRequest 1,startRequest 1,getStateRequest 1].flatMap fun p =>
    (packetSerialize p maxPacket).getD []

def readingTurn (nowMs : UInt64) : Turn := ⟨false,.ready true false,false,false,some nowMs⟩

def startedLoop : TcpLoop :=
  TcpLoop.served (fun _ => 3) (fun _ => 7) defaultProfile .default askingClient 0
    [readingTurn 20,readingTurn 300]

def askedLoop : TcpLoop :=
  Runs.run (TcpLoop.turn (fun _ => 3) (fun _ => 7)) startedLoop [readingTurn 350]

theorem tcp_client_foretells_state :
    let heard := hostDecode startedLoop.server.connection.written
    let known := replay (heard.map Message.packet)
    known = startedLoop.run.engine.device.sessionStates ∧
      ∃ after, hostDecode askedLoop.server.connection.written = heard ++
        Packet.message ⟨mtResponse,pbfComplete,(getStateRequest 1).gid,(getStateRequest 1).oid,
          foretold known (getStateRequest 1)⟩::after := by
  have hlooks : startedLoop.run.engine.device.Consults (getStateRequest 1) :=
    .looks ⟨⟨rfl,rfl,rfl,by decide +kernel⟩,by decide⟩
  unfold startedLoop at hlooks
  have hclient := tcp_client_foretells (fun _ => 3) (fun _ => 7) defaultProfile
    default_profile_start_stop .default (by decide) askingClient 0 [readingTurn 20,readingTurn 300]
    (by decide +kernel)
  have hasked := hclient.2 [readingTurn 350] (getStateRequest 1) [.tick 50,.dequeue]
    (by decide +kernel) (by decide +kernel) hlooks
  unfold askedLoop startedLoop
  intro heard known
  exact ⟨hclient.1,hasked⟩

end UciSim
