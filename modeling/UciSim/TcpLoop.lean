import UciSim.Conversations
import UciSim.TcpServer

/-!
# The event loop of the TCP transport

A turn polls, submits the command that is ready, ticks the engine by the time that
has passed and flushes it to the client. The loop ends when it is asked to shut
down, when the client is gone, or when a call of the operating system fails. Its
calls to the engine never find more than a few packets outbound.
-/

set_option autoImplicit false

namespace UciSim

open Framing Recorder

def engineTickMs : UInt64 := 50

inductive Polled where
  | interrupted
  | failed
  | ready (readable hungUp : Bool)

/-- What the operating system decides in one turn: whether a shutdown is requested before and
after the poll, and what the poll, the reads and the clock return. -/
structure Turn where
  shutdown : Bool
  polled : Polled
  shutdownAfter : Bool
  readFails : Bool
  nowMs : Option UInt64

structure TcpLoop where
  server : Server
  socket : Socket
  lastTickMs : UInt64
  running : Bool

namespace TcpLoop

def start (profile : Profile) (scenario : Scenario) (incoming : List UInt8) (nowMs : UInt64) :
    TcpLoop where
  server := ⟨⟨Run.init profile scenario,[]⟩,⟨[],0⟩⟩
  socket := ⟨incoming,0⟩
  lastTickMs := nowMs
  running := true

def run (loop : TcpLoop) : Run := loop.server.run

def stop (loop : TcpLoop) : TcpLoop := { loop with running := false }

variable (arrivals takes : ℕ → ℕ)

/-- The command that is ready is submitted, and the loop goes on whatever the engine returns. -/
def receive (loop : TcpLoop) (readFails : Bool) : TcpLoop :=
  if readFails then loop.stop
  else match loop.socket.readCommand arrivals with
    | (.ready packet,socket) =>
      { loop with server := loop.server.call (.submit packet), socket := socket }
    | (.disconnected,socket) => { loop with socket := socket }.stop
    | (.failed,socket) => { loop with socket := socket }.stop

def tickMs (elapsedMs : UInt64) : UInt32 :=
  if elapsedMs > engineTickMs then engineTickMs.toUInt32 else elapsedMs.toUInt32

def pass (loop : TcpLoop) (nowMs : UInt64) : TcpLoop :=
  if nowMs > loop.lastTickMs then
    { loop with
      server := loop.server.call (.tick (tickMs (nowMs-loop.lastTickMs)))
      lastTickMs := nowMs }
  else loop

def flush (loop : TcpLoop) : TcpLoop :=
  match loop.server.flushToClient takes with
  | (.ok,server) => { loop with server := server }
  | (.err,server) => { loop with server := server }.stop

def turn (loop : TcpLoop) (t : Turn) : TcpLoop :=
  if loop.running = false then loop
  else if t.shutdown then loop.stop
  else match t.polled with
    | .interrupted => if t.shutdownAfter then loop.stop else loop
    | .failed => loop.stop
    | .ready readable hungUp =>
      if t.shutdownAfter then loop.stop
      else
        let loop := if readable then loop.receive arrivals t.readFails else loop
        if loop.running = false then loop
        else if hungUp then loop.stop
        else match t.nowMs with
          | none => loop.stop
          | some nowMs => (loop.pass nowMs).flush takes

/-- The loop once the command of the turn is read, if there is one. -/
def Receives (loop : TcpLoop) (t : Turn) (received : TcpLoop) : Prop :=
  loop.running = true ∧ (received = loop ∨ received = loop.receive arrivals t.readFails)

/-- What a turn makes of the loop. -/
inductive Turned (loop : TcpLoop) (t : Turn) : TcpLoop → Prop where
  | kept : Turned loop t loop
  | stopped : Turned loop t loop.stop
  | ended (received : TcpLoop) (receives : loop.Receives arrivals t received) :
      Turned loop t received.stop
  | flushed (received : TcpLoop) (receives : loop.Receives arrivals t received)
      (running : received.running = true) (nowMs : UInt64) :
      Turned loop t ((received.pass nowMs).flush takes)

theorem turn_turned (loop : TcpLoop) (t : Turn) :
    loop.Turned arrivals takes t (loop.turn arrivals takes t) := by
  rw [turn]
  by_cases hended : loop.running = false
  · rw [if_pos hended]
    exact .kept
  have hrun : loop.running = true := by simpa using hended
  rw [if_neg hended]
  by_cases hshutdown : t.shutdown = true
  · rw [if_pos hshutdown]
    exact .stopped
  rw [if_neg hshutdown]
  cases t.polled with
  | failed => exact .stopped
  | interrupted =>
    dsimp only
    split
    · exact .stopped
    · exact .kept
  | ready readable hungUp =>
    dsimp only
    split
    · exact .stopped
    have hreceives : loop.Receives arrivals t
        (if readable then loop.receive arrivals t.readFails else loop) := by
      refine ⟨hrun,?_⟩
      split
      · exact Or.inr rfl
      · exact Or.inl rfl
    generalize (if readable then loop.receive arrivals t.readFails else loop) = received
      at hreceives ⊢
    by_cases hgone : received.running = false
    · have hstop : received.stop = received := by rw [stop, ← hgone]
      rw [if_pos hgone]
      exact hstop ▸ .ended received hreceives
    rw [if_neg hgone]
    split
    · exact .ended received hreceives
    split
    · exact .ended received hreceives
    · exact .flushed received hreceives (by simpa using hgone) _

theorem pass_running (loop : TcpLoop) (nowMs : UInt64) :
    (loop.pass nowMs).running = loop.running := by
  rw [pass]
  split <;> rfl

/-- The loop after the turns. -/
abbrev served (profile : Profile) (scenario : Scenario) (incoming : List UInt8)
    (nowMs : UInt64) (turns : List Turn) : TcpLoop :=
  Runs.run (turn arrivals takes) (start profile scenario incoming nowMs) turns

end TcpLoop

namespace Run

variable {profile : Profile} {scenario : Scenario} {ops : List Op}

theorem submit_light (h : Along profile scenario Uncongested ops) (request : Packet)
    (hout : (reached profile scenario ops).engine.outboundPackets = []) :
    ((reached profile scenario ops).step (.submit request)).engine.outboundPackets.length ≤ 5 := by
  have hscenario : (reached profile scenario ops).engine.device.scenario = scenario :=
    reached_scenario ops
  have hquiet : scenario ≠ .delayedNotifications →
      (reached profile scenario ops).engine.device.Quiet := fun hs => uncongested_quiet hs h
  generalize reached profile scenario ops = r at hout hscenario hquiet ⊢
  by_cases hs : scenario = .delayedNotifications
  · -- the response and one notification, and a flush forwards nothing
    have hhanded : (r.engine.handed request).length ≤ 2 := by
      unfold Engine.handed
      rw [List.length_append]
      have hone : ∀ o : Option Packet, o.toList.length ≤ 1 := fun o => by cases o <;> simp
      exact Nat.add_le_add (hone _) (hone _)
    by_cases hsilent : (r.engine.device.handlePacket request).1 = .err ∧
        r.engine.handed request = []
    · rw [step_submit, after]
      dsimp only
      rw [Engine.submit_silent hsilent, hout]
      exact Nat.zero_le _
    have hfits : r.engine.outboundPackets.length+(r.engine.handed request).length ≤
        maxOutboundPackets := by
      rw [hout, List.length_nil, Nat.zero_add]
      exact hhanded.trans (by decide)
    have hclosing := Engine.closing_fits hsilent hfits
    have hdeferring : (r.engine.device.handlePacket request).2.device.scenario =
        .delayedNotifications :=
      (handle_packet_frame r.engine.device request).2.trans (hscenario.trans hs)
    obtain ⟨d',-,hengine⟩ := tick_deferred (r.engine.device.handlePacket request).2.device
      ⟨_,r.engine.outboundPackets ++ r.engine.handed request⟩ 0 hdeferring
    rw [hdeferring] at hclosing
    rw [step_submit, after]
    dsimp only
    rw [(Engine.submit_closed hclosing).2]
    refine (congrArg (fun e => e.outboundPackets.length) hengine).le.trans ?_
    show (r.engine.outboundPackets ++ r.engine.handed request).length ≤ 5
    rw [hout, List.nil_append]
    exact hhanded.trans (by decide)
  · have hq := hquiet hs
    have hfits : r.Uncongested (.submit request) := by
      show r.engine.outboundPackets.length ≤ 8
      rw [hout]
      exact Nat.zero_le _
    obtain ⟨ns,hcalled,-,hemitted,-⟩ := r.step_called (.submit request) (hfits.fits hq) hq
    rw [emitted, emitted, hout, List.append_nil] at hemitted
    rw [List.append_cancel_left hemitted]
    exact called_length hcalled

end Run

end UciSim
