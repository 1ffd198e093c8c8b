import UciSim.TcpLoop

/-!
# Runs of the TCP event loop

Whatever the operating system answers, the calls of the event loop are an
uncongested run of the engine, the packets it submits are the packets at the front
of the stream the client sends, and what it writes are the packets it dequeues.
-/

set_option autoImplicit false

namespace UciSim

open Framing Recorder

namespace TcpLoop

/-- The packets submitted are those of the frames at the front of the stream, and the socket
goes on with the rest. -/
def Reads (incoming : List UInt8) (loop : TcpLoop) : Prop :=
  ∃ (frames : List (List UInt8)) (rest : List UInt8), (∀ f ∈ frames, Frame tcpCutter f) ∧
    incoming = frames.flatten ++ rest ∧
    loop.server.calls.made.flatMap Op.submits = frames.map packetOf ∧
    (loop.running = true → loop.socket.incoming = rest)

/-- What holds between the steps of a turn, with at most `bound` packets outbound. -/
structure Sound (profile : Profile) (scenario : Scenario) (incoming : List UInt8) (bound : ℕ)
    (loop : TcpLoop) : Prop where
  follows : Follows Run.step Run.Uncongested (Run.init profile scenario) loop.server.calls
  light : loop.running = true → loop.run.engine.outboundPackets.length ≤ bound
  writes : loop.running = true → loop.server.Writes sendToClient
  writesPart : loop.server.WritesPart sendToClient
  reads : loop.Reads incoming

namespace Sound

variable {profile : Profile} {scenario : Scenario} {incoming : List UInt8} {bound : ℕ}
  {loop : TcpLoop}

theorem reached (h : loop.Sound profile scenario incoming bound) :
    loop.run = Run.reached profile scenario loop.server.calls.made := h.follows.reached

theorem whole (h : loop.Sound profile scenario incoming bound) :
    ∀ p ∈ loop.run.engine.outboundPackets, p.Whole := by
  have hwhole : (Run.reached profile scenario loop.server.calls.made).engine.HoldsWhole :=
    reached_whole _
  rw [← h.reached] at hwhole
  exact fun p hp => hwhole p (List.mem_append_left _ hp)

theorem start (profile : Profile) (scenario : Scenario) (incoming : List UInt8)
    (nowMs : UInt64) :
    (start profile scenario incoming nowMs).Sound profile scenario incoming 0 where
  follows := .init
  light _ := Nat.le_refl 0
  writes _ := ⟨rfl,List.forall_mem_nil _⟩
  writesPart := List.prefix_rfl
  reads := ⟨[],incoming,List.forall_mem_nil _,rfl,rfl,fun _ => rfl⟩

theorem mono (h : loop.Sound profile scenario incoming bound) {bound' : ℕ}
    (hbound : bound ≤ bound') : loop.Sound profile scenario incoming bound' :=
  { h with light := fun hrun => (h.light hrun).trans hbound }

/-- The loop that has ended keeps what it has done. -/
theorem stop (h : loop.Sound profile scenario incoming bound) (bound' : ℕ) :
    loop.stop.Sound profile scenario incoming bound' where
  follows := h.follows
  light hrun := by cases hrun
  writes hrun := by cases hrun
  writesPart := h.writesPart
  reads := by
    obtain ⟨frames,rest,hframes,hincoming,hmade,-⟩ := h.reads
    exact ⟨frames,rest,hframes,hincoming,hmade,fun hrun => by cases hrun⟩

theorem with_socket (h : loop.Sound profile scenario incoming bound) (socket : Socket)
    (bound' : ℕ) :
    ({ loop with socket := socket }.stop).Sound profile scenario incoming bound' :=
  { h.stop bound' with
    reads := by
      obtain ⟨frames,rest,hframes,hincoming,hmade,-⟩ := h.reads
      exact ⟨frames,rest,hframes,hincoming,hmade,fun hrun => by cases hrun⟩ }

section Steps

variable (arrivals takes : ℕ → ℕ)

theorem receive (h : loop.Sound profile scenario incoming 0) (hrun : loop.running = true)
    (readFails : Bool) : (loop.receive arrivals readFails).Sound profile scenario incoming 5 := by
  rw [TcpLoop.receive]
  cases readFails with
  | true => exact h.stop 5
  | false =>
    rw [if_neg (by decide)]
    by_cases hfront : Uncut tcpCutter loop.socket.incoming
    · have hother := Socket.read_command_other arrivals hfront
      split
      · rename_i packet socket hread
        exact absurd (congrArg Prod.fst hread) (hother packet)
      · exact h.with_socket _ 5
      · exact h.with_socket _ 5
    · simp only [Uncut, not_forall, not_not] at hfront
      obtain ⟨n,hn⟩ := hfront
      obtain ⟨calls,hread⟩ := Socket.read_command_ready arrivals hn
      have hout : loop.run.engine.outboundPackets = [] :=
        List.length_eq_zero_iff.mp (Nat.le_zero.mp (h.light hrun))
      have huncongested : loop.run.Uncongested
          (.submit (packetOf (loop.socket.incoming.take n))) := by
        show loop.run.engine.outboundPackets.length ≤ 8
        rw [hout]
        exact Nat.zero_le _
      rw [hread]
      dsimp only
      constructor
      · exact h.follows.call huncongested
      · intro _
        have hlight := Run.submit_light h.follows.along
          (packetOf (loop.socket.incoming.take n)) (by rw [← h.reached]; exact hout)
        rwa [← h.reached] at hlight
      · exact fun hrun => (h.writes hrun).call (by simp)
      · exact h.writesPart.call (by simp)
      · obtain ⟨frames,rest,hframes,hincoming,hmade,hsocket⟩ := h.reads
        have hrest := hsocket hrun
        refine ⟨frames ++ [loop.socket.incoming.take n],rest.drop n,?_,?_,?_,?_⟩
        · intro f hf
          rcases List.mem_append.mp hf with hf | hf
          · exact hframes f hf
          · rw [List.mem_singleton.mp hf]
            exact front_frame hn
        · rw [hincoming, List.flatten_append, List.flatten_singleton, List.append_assoc, hrest,
            List.take_append_drop]
        · show (loop.server.calls.made ++ [_]).flatMap Op.submits = _
          rw [List.flatMap_append, hmade, List.map_append]
          rfl
        · intro _
          rw [← hrest]

theorem tick (h : loop.Sound profile scenario incoming 5) (hrun : loop.running = true)
    (elapsedMs : UInt32) (nowMs : UInt64) :
    ({ loop with server := loop.server.call (.tick elapsedMs), lastTickMs := nowMs }).Sound
      profile scenario incoming maxOutboundPackets := by
  have houtbound := h.light hrun
  have huncongested : loop.run.Uncongested (.tick elapsedMs) :=
    houtbound.trans (show 5 ≤ 8 by decide)
  constructor
  · exact h.follows.call huncongested
  · intro _
    have hstep : (loop.run.step (.tick elapsedMs)).engine.outboundPackets.length ≤
        maxOutboundPackets := Run.step_outbound (houtbound.trans (by decide))
    exact hstep
  · exact fun hrun => (h.writes hrun).call (by simp)
  · exact h.writesPart.call (by simp)
  · obtain ⟨frames,rest,hframes,hincoming,hmade,hsocket⟩ := h.reads
    refine ⟨frames,rest,hframes,hincoming,?_,hsocket⟩
    show (loop.server.calls.made ++ [_]).flatMap Op.submits = _
    rw [List.flatMap_append, hmade]
    exact List.append_nil _

theorem pass (h : loop.Sound profile scenario incoming 5) (hrun : loop.running = true)
    (nowMs : UInt64) :
    (loop.pass nowMs).Sound profile scenario incoming maxOutboundPackets := by
  rw [TcpLoop.pass]
  split
  · exact h.tick hrun _ nowMs
  · exact h.mono (by decide)

/-- A flush leaves nothing outbound, or the loop ends. -/
theorem flush (h : loop.Sound profile scenario incoming bound) (hrun : loop.running = true) :
    (loop.flush takes).Sound profile scenario incoming 0 := by
  have hflushed := Server.flush_to_client_flushed takes (h.writes hrun) h.whole
  rw [TcpLoop.flush]
  generalize loop.server.flushToClient takes = out at hflushed ⊢
  obtain ⟨rc,server⟩ := out
  have hsound : ∀ running, (rc = .ok ∨ running = false) →
      ({ loop with server := server, running := running }).Sound profile scenario incoming 0 := by
    intro running hcause
    have hcomplete : running = true → rc = .ok := fun hrunning =>
      hcause.resolve_right (by rw [hrunning]; decide)
    constructor
    · exact hflushed.drained.follows h.follows
    · intro hrunning
      show server.run.engine.outboundPackets.length ≤ 0
      rw [(hflushed.complete (hcomplete hrunning)).2]
      exact Nat.le_refl 0
    · exact fun hrunning => (hflushed.complete (hcomplete hrunning)).1
    · exact hflushed.writes_part
    · obtain ⟨frames,rest,hframes,hincoming,hmade,hsocket⟩ := h.reads
      exact ⟨frames,rest,hframes,hincoming,(hflushed.drained.made rfl).trans hmade,
        fun _ => hsocket hrun⟩
  cases rc with
  | ok => exact hsound loop.running (Or.inl rfl)
  | err => exact hsound false (Or.inr rfl)

theorem received (h : loop.Sound profile scenario incoming 0) {t : Turn} {received : TcpLoop}
    (hreceives : loop.Receives arrivals t received) :
    received.Sound profile scenario incoming 5 := by
  obtain ⟨hrun,rfl | rfl⟩ := hreceives
  · exact h.mono (Nat.zero_le _)
  · exact h.receive arrivals hrun t.readFails

theorem turn (h : loop.Sound profile scenario incoming 0) (t : Turn) :
    (loop.turn arrivals takes t).Sound profile scenario incoming 0 := by
  have hturned := loop.turn_turned arrivals takes t
  generalize loop.turn arrivals takes t = loop' at hturned ⊢
  cases hturned with
  | kept => exact h
  | stopped => exact h.stop 0
  | ended received hreceives => exact (h.received arrivals hreceives).stop 0
  | flushed received hreceives hrun nowMs =>
    exact ((h.received arrivals hreceives).pass hrun nowMs).flush takes
      ((received.pass_running nowMs).trans hrun)

theorem served (profile : Profile) (scenario : Scenario) (incoming : List UInt8)
    (nowMs : UInt64) (turns : List Turn) :
    (TcpLoop.served arrivals takes profile scenario incoming nowMs turns).Sound profile scenario
      incoming 0 :=
  Runs.invariant_of_all_steps (fun _ t hloop => hloop.turn arrivals takes t) _ turns
    (start profile scenario incoming nowMs)

end Steps

end Sound

end TcpLoop

end UciSim
