import UciSim.Connections
import UciSim.Deliveries
import UciSim.General.Recorder
import UciSim.Uncongested

/-!
# Flushing an engine to a connection

A transport calls the engine, records its calls and writes each packet it dequeues.
As long as no write fails, what is written are the packets dequeued, in order, and a
flush leaves nothing outbound.
-/

set_option autoImplicit false

namespace UciSim

open Recorder

structure Server where
  calls : Recorded Run Op
  connection : Connection

namespace Server

def run (server : Server) : Run := server.calls.machine

def call (server : Server) (op : Op) : Server :=
  { server with calls := Recorder.call Run.step server.calls op }

/-- The loop both transports flush with. -/
def flushLoop (send : Packet → Connection → Rc × Connection) : ℕ → Server → Rc × Server
  | 0, server => (.err,server)
  | turns+1, server =>
    match server.run.engine.dequeueOutboundPacket with
    | none => (.ok,server)
    | some (packet,_) =>
      match send packet server.connection with
      | (.err,conn) => (.err,⟨(server.call .dequeue).calls,conn⟩)
      | (.ok,conn) => flushLoop send turns ⟨(server.call .dequeue).calls,conn⟩

variable (takes : ℕ → ℕ)

def flushToClient (server : Server) : Rc × Server :=
  server.flushLoop (fun packet conn => conn.sendToClient takes packet)
    (server.run.engine.outboundPackets.length+1)

def masterFlush (server : Server) : Rc × Server :=
  server.flushLoop (fun packet conn => conn.sendPacket takes packet)
    (server.run.engine.outboundPackets.length+1)

end Server

/-- The second record goes on from the first by dequeues only. -/
inductive Drained : Recorded Run Op → Recorded Run Op → Prop where
  | done (r : Recorded Run Op) : Drained r r
  | next {r r' : Recorded Run Op} (h : Drained (call Run.step r .dequeue) r') : Drained r r'

theorem Drained.invariant {r r' : Recorded Run Op} (h : Drained r r')
    {I : Recorded Run Op → Prop} (hstep : ∀ r, I r → I (call Run.step r .dequeue)) (hr : I r) :
    I r' := by
  induction h with
  | done => exact hr
  | next _ ih => exact ih (hstep _ hr)

section Drained

variable {r r' : Recorded Run Op}

theorem Drained.follows (h : Drained r r') {start : Run}
    (hr : Follows Run.step Run.Uncongested start r) :
    Follows Run.step Run.Uncongested start r' :=
  h.invariant (fun _ hs => hs.call trivial) hr

theorem Drained.made (h : Drained r r') {β : Type} {f : Op → List β} (hf : f .dequeue = []) :
    r'.made.flatMap f = r.made.flatMap f := by
  refine h.invariant (I := fun s => s.made.flatMap f = r.made.flatMap f) ?_ rfl
  intro s hs
  rw [call, List.flatMap_append, List.flatMap_singleton, hf, List.append_nil, hs]

end Drained

/-- The bytes of the packets, those without any left out. -/
def wires (wire : Packet → Option (List UInt8)) (packets : List Packet) : List UInt8 :=
  (packets.map fun p => (wire p).getD []).flatten

theorem wires_append (wire : Packet → Option (List UInt8)) (ps qs : List Packet) :
    wires wire (ps ++ qs) = wires wire ps ++ wires wire qs := by
  rw [wires, List.map_append, List.flatten_append]
  rfl

theorem wires_singleton (wire : Packet → Option (List UInt8)) (p : Packet) :
    wires wire [p] = (wire p).getD [] := by
  rw [wires, List.map_singleton, List.flatten_cons, List.flatten_nil, List.append_nil]

/-- Sending a packet writes its bytes, and one without bytes fails before the first of them. -/
structure SendsAs (wire : Packet → Option (List UInt8))
    (send : Packet → Connection → Rc × Connection) : Prop where
  wrote : ∀ packet conn bytes, wire packet = some bytes → Wrote conn bytes (send packet conn)
  refused : ∀ packet conn, packet.Whole → wire packet = none → send packet conn = (.err,conn)

theorem tcp_sends (takes : ℕ → ℕ) :
    SendsAs sendToClient fun packet conn => conn.sendToClient takes packet where
  wrote _ conn _ h := conn.send_to_client_wrote takes h
  refused _ _ hwhole hnone := by
    obtain ⟨bytes,hsend,-⟩ := hwhole.send_delivers
    rw [hnone] at hsend
    cases hsend

theorem master_sends (takes : ℕ → ℕ) :
    SendsAs masterWrite fun packet conn => conn.sendPacket takes packet where
  wrote _ conn _ h := conn.send_packet_wrote takes h
  refused packet conn _ hnone := by
    rw [masterWrite] at hnone
    rw [Connection.sendPacket, hnone]

namespace Server

/-- Everything dequeued is written. -/
structure Writes (wire : Packet → Option (List UInt8)) (server : Server) : Prop where
  written : server.connection.written = wires wire server.run.delivered
  wired : ∀ p ∈ server.run.delivered, (wire p).isSome

/-- What is written is at the front of the bytes of the packets dequeued. -/
def WritesPart (wire : Packet → Option (List UInt8)) (server : Server) : Prop :=
  server.connection.written <+: wires wire server.run.delivered

theorem Writes.writes_part {wire : Packet → Option (List UInt8)} {server : Server}
    (h : server.Writes wire) : server.WritesPart wire := by
  rw [WritesPart, h.written]

/-- A flush that fails nowhere writes everything outbound, one that fails a part of it. -/
structure Flushed (wire : Packet → Option (List UInt8)) (server : Server) (out : Rc × Server) :
    Prop where
  drained : Drained server.calls out.2.calls
  complete : out.1 = .ok → out.2.Writes wire ∧ out.2.run.engine.outboundPackets = []
  writes_part : out.2.WritesPart wire

theorem flush_loop_flushed {wire : Packet → Option (List UInt8)}
    {send : Packet → Connection → Rc × Connection} (hsend : SendsAs wire send) (turns : ℕ)
    (server : Server) (hturns : server.run.engine.outboundPackets.length < turns)
    (hw : server.Writes wire) (hwhole : ∀ p ∈ server.run.engine.outboundPackets, p.Whole) :
    server.Flushed wire (server.flushLoop send turns) := by
  induction turns generalizing server with
  | zero => omega
  | succ turns ih =>
    rw [flushLoop, Engine.dequeueOutboundPacket]
    cases hout : server.run.engine.outboundPackets with
    | nil => exact ⟨.done _,fun _ => ⟨hw,hout⟩,hw.writes_part⟩
    | cons packet rest =>
      dsimp only
      have hnext : (call server .dequeue).run = ⟨⟨server.run.engine.device,rest⟩,
          server.run.produced,server.run.delivered ++ [packet]⟩ := Run.step_dequeue_cons hout
      have hwires : wires wire (call server .dequeue).run.delivered =
          server.connection.written ++ (wire packet).getD [] := by
        rw [hnext, wires_append, wires_singleton, ← hw.written]
      have hpacket : packet.Whole := hwhole packet (by rw [hout]; exact List.mem_cons_self)
      cases hwire : wire packet with
      | none =>
        rw [hsend.refused packet server.connection hpacket hwire]
        refine ⟨.next (.done _),fun herr => absurd herr (by simp),?_⟩
        show server.connection.written <+: wires wire (call server .dequeue).run.delivered
        rw [hwires]
        exact List.prefix_append _ _
      | some bytes =>
        have hwrote := hsend.wrote packet server.connection bytes hwire
        rw [hwire, Option.getD_some] at hwires
        generalize send packet server.connection = sent at hwrote ⊢
        rcases sent with ⟨rc,conn⟩
        cases rc with
        | err =>
          refine ⟨.next (.done _),fun herr => absurd herr (by simp),?_⟩
          show conn.written <+: wires wire (call server .dequeue).run.delivered
          rw [hwires]
          exact hwrote.written_prefix
        | ok =>
          have hgoes : Server.Writes wire ⟨(call server .dequeue).calls,conn⟩ := by
            refine ⟨hwrote.written.trans hwires.symm,fun p hp => ?_⟩
            rw [show Server.run ⟨(call server .dequeue).calls,conn⟩ = (call server .dequeue).run
              from rfl, hnext] at hp
            rcases List.mem_append.mp hp with hp | hp
            · exact hw.wired p hp
            · rw [List.mem_singleton.mp hp, hwire]
              rfl
          have hrest := ih ⟨(call server .dequeue).calls,conn⟩ ?_ hgoes ?_
          · exact ⟨.next hrest.drained,hrest.complete,hrest.writes_part⟩
          · rw [show Server.run ⟨(call server .dequeue).calls,conn⟩ = (call server .dequeue).run
              from rfl, hnext]
            rw [hout, List.length_cons] at hturns
            exact Nat.lt_of_succ_lt_succ hturns
          · rw [show Server.run ⟨(call server .dequeue).calls,conn⟩ = (call server .dequeue).run
              from rfl, hnext]
            exact fun p hp => hwhole p (by rw [hout]; exact List.mem_cons_of_mem packet hp)

variable (takes : ℕ → ℕ) {server : Server}

theorem flush_to_client_flushed (hw : server.Writes sendToClient)
    (hwhole : ∀ p ∈ server.run.engine.outboundPackets, p.Whole) :
    server.Flushed sendToClient (server.flushToClient takes) :=
  flush_loop_flushed (tcp_sends takes) _ server (Nat.lt_succ_self _) hw hwhole

theorem master_flush_flushed (hw : server.Writes masterWrite)
    (hwhole : ∀ p ∈ server.run.engine.outboundPackets, p.Whole) :
    server.Flushed masterWrite (server.masterFlush takes) :=
  flush_loop_flushed (master_sends takes) _ server (Nat.lt_succ_self _) hw hwhole

end Server

theorem decode_wires {wire : Packet → Option (List UInt8)} {packets : List Packet}
    (h : ∀ p ∈ packets, ∃ bytes, wire p = some bytes ∧ Delivers bytes p.message []) :
    hostDecode (wires wire packets) = packets.map Packet.message := by
  have hdecode := decode_delivered (packets.map fun p => ((wire p).getD [],p.message)) ?_
  · rw [List.map_map, List.map_map] at hdecode
    exact hdecode
  · intro d hd
    obtain ⟨p,hp,rfl⟩ := List.mem_map.mp hd
    obtain ⟨bytes,hbytes,hdelivers⟩ := h p hp
    show Delivers ((wire p).getD []) p.message []
    rw [hbytes]
    exact hdelivers

namespace Server

variable {server : Server}

theorem Writes.client_reads (h : server.Writes sendToClient)
    (hwhole : ∀ p ∈ server.run.delivered, p.Whole) :
    hostDecode server.connection.written = server.run.delivered.map Packet.message := by
  rw [h.written]
  exact decode_wires fun p hp => (hwhole p hp).send_delivers

theorem Writes.master_reads (h : server.Writes masterWrite)
    (hwhole : ∀ p ∈ server.run.delivered, p.Whole) :
    hostDecode server.connection.written = server.run.delivered.map Packet.message := by
  rw [h.written]
  refine decode_wires fun p hp => ?_
  obtain ⟨bytes,hbytes⟩ := Option.isSome_iff_exists.mp (h.wired p hp)
  exact ⟨bytes,hbytes,serialize_delivers (hwhole p hp).masked (hwhole p hp).2 hbytes⟩

end Server

theorem reached_delivers_whole {profile : Profile} {scenario : Scenario} (ops : List Op) :
    ∀ n ∈ (Run.reached profile scenario ops).delivered, n.Whole := by
  induction ops using List.reverseRecOn with
  | nil => exact List.forall_mem_nil _
  | append_singleton ops op ih =>
    rw [Run.reached, Runs.run_append]
    cases op with
    | submit request => exact ih
    | tick elapsedMs => exact ih
    | dequeue =>
      show ∀ n ∈ ((Run.reached profile scenario ops).step .dequeue).delivered, n.Whole
      cases h : (Run.reached profile scenario ops).engine.outboundPackets with
      | nil =>
        rw [Run.step_dequeue_nil h]
        exact ih
      | cons packet rest =>
        rw [Run.step_dequeue_cons h]
        intro n hn
        rcases List.mem_append.mp hn with hn | hn
        · exact ih n hn
        · rw [List.mem_singleton.mp hn]
          have hwhole : (Run.reached profile scenario ops).engine.HoldsWhole := reached_whole ops
          refine hwhole packet ?_
          rw [Engine.held, Relay.held, Engine.lines, h]
          exact List.mem_cons_self

end UciSim
