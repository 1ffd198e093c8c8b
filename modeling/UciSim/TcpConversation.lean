import UciSim.TcpRuns

/-!
# The conversation with a TCP client

While the event loop runs, the client reads every packet the engine has made for it,
in order, and one response to each command the loop has read.
-/

set_option autoImplicit false

namespace UciSim

open Framing

namespace TcpLoop

variable {profile : Profile} {scenario : Scenario} {incoming : List UInt8} {bound : ℕ}
  {loop : TcpLoop}

theorem Reads.in_front (h : loop.Reads incoming) :
    ∃ frames, frames <+: (cut tcpCutter incoming).1 ∧
      loop.server.calls.made.flatMap Op.submits = frames.map packetOf := by
  obtain ⟨frames,rest,hframes,hincoming,hmade,-⟩ := h
  refine ⟨frames,?_,hmade⟩
  rw [hincoming, cut_append, cut_flatten hframes]
  exact List.prefix_append _ _

theorem Sound.written_prefix (h : loop.Sound profile scenario incoming bound) :
    loop.server.connection.written <+: wires sendToClient loop.run.emitted := by
  refine h.writesPart.trans ?_
  rw [Run.emitted, wires_append]
  exact List.prefix_append _ _

theorem Sound.drained (h : loop.Sound profile scenario incoming 0) (hrun : loop.running = true) :
    loop.run.engine.outboundPackets = [] :=
  List.length_eq_zero_iff.mp (Nat.le_zero.mp (h.light hrun))

theorem Sound.delivered (h : loop.Sound profile scenario incoming 0) (hrun : loop.running = true) :
    loop.run.delivered = loop.run.emitted := by
  rw [Run.emitted, h.drained hrun, List.append_nil]

theorem Sound.emitted_whole (h : loop.Sound profile scenario incoming 0)
    (hrun : loop.running = true) : ∀ p ∈ loop.run.emitted, p.Whole := by
  rw [← h.delivered hrun, h.reached]
  exact reached_delivers_whole _

theorem Sound.client_reads (h : loop.Sound profile scenario incoming 0)
    (hrun : loop.running = true) :
    hostDecode loop.server.connection.written = loop.run.emitted.map Packet.message := by
  have hwhole := h.emitted_whole hrun
  rw [← h.delivered hrun] at hwhole ⊢
  exact (h.writes hrun).client_reads hwhole

theorem Sound.answered (h : loop.Sound profile scenario incoming bound) :
    answerIds loop.run.emitted = loop.server.calls.made.flatMap Op.asks :=
  Run.follows_answered h.follows

end TcpLoop

section

variable (arrivals takes : ℕ → ℕ)

/-- However the bytes of the client arrive, are written and are timed, and however the loop ends:
its calls are an uncongested run of the engine, it submits packets at the front of the stream in
turn, and what it has written is at the front of the bytes of what the engine made for the host. -/
theorem tcp_calls_uncongested (profile : Profile) (scenario : Scenario) (incoming : List UInt8)
    (nowMs : UInt64) (turns : List Turn) :
    let loop := TcpLoop.served arrivals takes profile scenario incoming nowMs turns
    loop.run = Run.reached profile scenario loop.server.calls.made ∧
      Run.Along profile scenario Run.Uncongested loop.server.calls.made ∧
      (∃ frames, frames <+: (cut tcpCutter incoming).1 ∧
        loop.server.calls.made.flatMap Op.submits = frames.map packetOf) ∧
      loop.server.connection.written <+: wires sendToClient loop.run.emitted := by
  intro loop
  have h : loop.Sound profile scenario incoming 0 :=
    TcpLoop.Sound.served arrivals takes profile scenario incoming nowMs turns
  exact ⟨h.reached,h.follows.along,h.reads.in_front,h.written_prefix⟩

/-- Between two turns of a loop that runs nothing is outbound; its client reads everything made for
it, in order, and for each command the loop has read one response with its identifiers, in the
order of the commands. -/
theorem tcp_conversation (profile : Profile) (scenario : Scenario) (incoming : List UInt8)
    (nowMs : UInt64) (turns : List Turn)
    (hrun : (TcpLoop.served arrivals takes profile scenario incoming nowMs turns).running = true) :
    let loop := TcpLoop.served arrivals takes profile scenario incoming nowMs turns
    let heard := hostDecode loop.server.connection.written
    loop.run.engine.outboundPackets = [] ∧
      heard = loop.run.emitted.map Packet.message ∧
      (scenario ≠ .delayedNotifications → loop.run.emitted = loop.run.produced) ∧
      ∃ frames, frames <+: (cut tcpCutter incoming).1 ∧
        loop.server.calls.made.flatMap Op.submits = frames.map packetOf ∧
        answeredIds heard = (frames.map packetOf).flatMap fun p => (Op.submit p).asks := by
  intro loop heard
  have h : loop.Sound profile scenario incoming 0 :=
    TcpLoop.Sound.served arrivals takes profile scenario incoming nowMs turns
  have hheard : heard = loop.run.emitted.map Packet.message := h.client_reads hrun
  refine ⟨h.drained hrun,hheard,?_,?_⟩
  · intro hs
    rw [h.reached]
    exact Run.uncongested_emitted hs h.follows.along
  · obtain ⟨frames,hfront,hmade⟩ := h.reads.in_front
    refine ⟨frames,hfront,hmade,?_⟩
    rw [hheard, answered_ids_messages (h.emitted_whole hrun), h.answered, asks_submitted, hmade,
      frames_ask_masked]

end

/-- A client that opens a session and starts it. -/
def clientBytes : List UInt8 :=
  [initRequest 1,startRequest 1].flatMap fun p => (packetSerialize p maxPacket).getD []

def clientTurns : List Turn :=
  [⟨false,.ready true false,false,false,some 20⟩,⟨false,.interrupted,false,false,none⟩,
    ⟨false,.ready true false,false,false,some 300⟩]

theorem tcp_conversation_start :
    let loop := TcpLoop.served (fun _ => 3) (fun _ => 7) defaultProfile .default clientBytes 0
      clientTurns
    let heard := hostDecode loop.server.connection.written
    loop.run.engine.outboundPackets = [] ∧
      heard = loop.run.emitted.map Packet.message ∧
      (Scenario.default ≠ .delayedNotifications → loop.run.emitted = loop.run.produced) ∧
      ∃ frames, frames <+: (cut tcpCutter clientBytes).1 ∧
        loop.server.calls.made.flatMap Op.submits = frames.map packetOf ∧
        answeredIds heard = (frames.map packetOf).flatMap fun p => (Op.submit p).asks :=
  tcp_conversation (fun _ => 3) (fun _ => 7) defaultProfile .default clientBytes 0 clientTurns
    (by decide +kernel)

end UciSim
