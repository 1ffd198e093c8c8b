import UciSim.ChardevConversation
import UciSim.TcpConversation
import UciSim.Unqueued

/-!
# Two transports, one device

Below either transport lies a device without queues: what the host reads are the packets
the device sends for the submits and ticks that the loop makes. Two loops that make the same
submits and ticks hold the same conversation, however they cut, buffer and drain it.
-/

set_option autoImplicit false

namespace UciSim

open Recorder

variable {profile : Profile} {scenario : Scenario} {bound : ℕ}

theorem Run.uncongested_unqueued {ops : List Op} (hs : scenario ≠ .delayedNotifications)
    (h : Run.Along profile scenario Run.Uncongested ops) :
    (Run.reached profile scenario ops).engine.device =
        (Device.initWithProfile profile scenario).after (ops.filter Op.calls) ∧
      (Run.reached profile scenario ops).emitted =
        (Device.initWithProfile profile scenario).sends (ops.filter Op.calls) := by
  have hq : (Run.init profile scenario).engine.device.Quiet := ⟨hs,rfl⟩
  have hfits : Run.Along profile scenario Run.Fits ops := by
    refine Runs.along_of_invariant (I := fun r : Run => r.engine.device.Quiet) ?_ ?_ _ ops hq h
    · exact fun r op hquiet hroom => Run.step_quiet (hroom.fits hquiet) hquiet
    · exact fun r op hquiet hroom => hroom.fits hquiet
  obtain ⟨hafter,hsends⟩ := (Device.initWithProfile profile scenario).unread ops
  rw [hafter, hsends]
  exact Run.run_calls (Run.init profile scenario) ops hq hfits

namespace TcpLoop

variable {incoming : List UInt8} {loop : TcpLoop}

def calls (loop : TcpLoop) : List Op := loop.server.calls.made.filter Op.calls

theorem Sound.refines (h : loop.Sound profile scenario incoming 0)
    (hs : scenario ≠ .delayedNotifications) (hrun : loop.running = true) :
    let d := Device.initWithProfile profile scenario
    loop.run.engine.device = d.after loop.calls ∧
      hostDecode loop.server.connection.written = (d.sends loop.calls).map Packet.message := by
  obtain ⟨hdevice,hemitted⟩ := Run.uncongested_unqueued hs h.follows.along
  rw [h.client_reads hrun, h.reached]
  exact ⟨hdevice,congrArg (List.map Packet.message) hemitted⟩

end TcpLoop

namespace ChardevLoop

variable {received : List UInt8} {loop : ChardevLoop}

def calls (loop : ChardevLoop) : List Op := loop.dev.engine.made.filter Op.calls

theorem Sound.refines (h : loop.Sound profile scenario received bound)
    (hs : scenario ≠ .delayedNotifications) :
    let d := Device.initWithProfile profile scenario
    loop.run.engine.device = d.after loop.calls ∧
      hostDecode loop.connection.written ++ loop.run.engine.outboundPackets.map Packet.message =
        (d.sends loop.calls).map Packet.message := by
  obtain ⟨hdevice,hemitted⟩ := Run.uncongested_unqueued hs h.follows.along
  have hwhole : ∀ p ∈ loop.run.delivered, p.Whole := by
    rw [h.reached]
    exact reached_delivers_whole _
  have hheard : hostDecode loop.connection.written = loop.run.delivered.map Packet.message :=
    h.writes.master_reads hwhole
  rw [hheard, ← List.map_append]
  rw [← h.reached] at hdevice hemitted
  exact ⟨hdevice,congrArg (List.map Packet.message) hemitted⟩

end ChardevLoop

/-- While both loops run, a TCP loop and a chardev loop that make the same submits and ticks hold
the same device, and their hosts have read the same packets but for two notifications of the
last tick at most: however bytes arrive and are written, however packets are segmented, and
whenever the outbound queue is drained. -/
theorem transports_agree (arrivals takes masterTakes : ℕ → ℕ) (profile : Profile)
    (scenario : Scenario) (hs : scenario ≠ .delayedNotifications) (incoming : List UInt8)
    (nowMs : UInt64) (turns : List Turn) (masterTurns : List MasterTurn)
    (hrun : (TcpLoop.served arrivals takes profile scenario incoming nowMs turns).running = true)
    (hpaced : Runs.Along (ChardevLoop.turn masterTakes) (ChardevLoop.Paced masterTakes)
      (ChardevLoop.start profile scenario) masterTurns)
    (hmaster : (ChardevLoop.served masterTakes profile scenario masterTurns).running = true)
    (hcalls : (TcpLoop.served arrivals takes profile scenario incoming nowMs turns).calls =
      (ChardevLoop.served masterTakes profile scenario masterTurns).calls) :
    let tcp := TcpLoop.served arrivals takes profile scenario incoming nowMs turns
    let chardev := ChardevLoop.served masterTakes profile scenario masterTurns
    tcp.run.engine.device = chardev.run.engine.device ∧
      ∃ waiting : List Packet, waiting.length ≤ 2 ∧ (∀ n ∈ waiting, n.mt = mtNotification) ∧
        hostDecode tcp.server.connection.written =
          hostDecode chardev.connection.written ++ waiting.map Packet.message := by
  intro tcp chardev
  have htcp : tcp.Sound profile scenario incoming 0 :=
    TcpLoop.Sound.served arrivals takes profile scenario incoming nowMs turns
  obtain ⟨hchardev,hnotices⟩ := (ChardevLoop.Sound.start profile scenario).served hs
    (List.forall_mem_nil _) masterTurns hpaced hmaster
  obtain ⟨hdevice,hheard⟩ := htcp.refines hs hrun
  obtain ⟨hdevice',hheard'⟩ := hchardev.refines hs
  rw [← hcalls] at hdevice' hheard'
  exact ⟨hdevice.trans hdevice'.symm,chardev.run.engine.outboundPackets,hchardev.light,hnotices,
    hheard.trans hheard'.symm⟩

/-- The commands of the client come in one read, and the tick follows them. -/
def togetherTurns : List MasterTurn := [⟨.available clientBytes,false⟩]

/-- The commands of the client are read in turns of their own, between which no time passes. -/
def apartTurns : List Turn :=
  [⟨false,.ready true false,false,false,some 0⟩,⟨false,.ready true false,false,false,some 90⟩]

theorem transports_agree_start :
    let tcp := TcpLoop.served (fun _ => 3) (fun _ => 7) defaultProfile .default clientBytes 0
      apartTurns
    let chardev := ChardevLoop.served (fun _ => 5) defaultProfile .default togetherTurns
    tcp.run.engine.device = chardev.run.engine.device ∧
      ∃ waiting : List Packet, waiting.length ≤ 2 ∧ (∀ n ∈ waiting, n.mt = mtNotification) ∧
        hostDecode tcp.server.connection.written =
          hostDecode chardev.connection.written ++ waiting.map Packet.message :=
  transports_agree (fun _ => 3) (fun _ => 7) (fun _ => 5) defaultProfile .default (by decide)
    clientBytes 0 apartTurns togetherTurns (by decide +kernel) (by decide +kernel)
    (by decide +kernel) (by decide +kernel)

end UciSim
