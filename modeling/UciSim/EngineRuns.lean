import UciSim.EngineEffects
import UciSim.General.Runs

/-!
# Runs of the engine

A run is any sequence of the engine's three calls. It keeps the history of what
was produced and of what the host has dequeued.
-/

set_option autoImplicit false

namespace UciSim

inductive Op where
  | submit (request : Packet)
  | tick (elapsedMs : UInt32)
  | dequeue
  deriving DecidableEq, Repr

structure Run where
  engine : Engine
  produced : List Packet
  delivered : List Packet

namespace Run

def init (profile : Profile) (scenario : Scenario) : Run :=
  ⟨Engine.initWithProfile profile scenario,[],[]⟩

def after (r : Run) (outcome : Outcome) : Run :=
  { r with engine := outcome.engine, produced := r.produced ++ outcome.produced }

def step (r : Run) : Op → Run
  | .submit request => r.after (r.engine.submitPacket request)
  | .tick elapsedMs => r.after (r.engine.tick elapsedMs)
  | .dequeue =>
    match r.engine.dequeueOutboundPacket with
    | none => r
    | some (packet,engine) =>
      { r with engine := engine, delivered := r.delivered ++ [packet] }

abbrev reached (profile : Profile) (scenario : Scenario) (ops : List Op) : Run :=
  Runs.run step (init profile scenario) ops

/-- Every step of the run from the initial engine meets the condition. -/
abbrev Along (profile : Profile) (scenario : Scenario) (good : Run → Op → Prop)
    (ops : List Op) : Prop :=
  Runs.Along step good (init profile scenario) ops

theorem step_submit (r : Run) (request : Packet) :
    r.step (.submit request) = r.after (r.engine.submitPacket request) := rfl

theorem step_dequeue_nil {r : Run} (h : r.engine.outboundPackets = []) :
    r.step .dequeue = r := by
  simp [step, Engine.dequeueOutboundPacket, h]

theorem step_dequeue_cons {r : Run} {packet : Packet} {rest : List Packet}
    (h : r.engine.outboundPackets = packet::rest) :
    r.step .dequeue =
      ⟨⟨r.engine.device,rest⟩,r.produced,r.delivered ++ [packet]⟩ := by
  simp [step, Engine.dequeueOutboundPacket, h]

theorem step_dequeue_device (r : Run) : (r.step .dequeue).engine.device = r.engine.device := by
  cases h : r.engine.outboundPackets with
  | nil => rw [step_dequeue_nil h]
  | cons packet rest => rw [step_dequeue_cons h]

/-- The device once the call's packet, if there is one, is handled. -/
def handled (r : Run) : Op → Device
  | .submit request => (r.engine.device.handlePacket request).2.device
  | _ => r.engine.device

/-- A property of the device that does not read the pending queue and that ticks keep holds
after a call when it holds once the call's packet is handled. -/
theorem step_handled {P : Device → Prop} (hpending : ∀ d p, P d → P (d.withPending p))
    (hticked : ∀ d elapsedMs flushes ns d', P d → Ticked d elapsedMs flushes ns d' → P d')
    (r : Run) (op : Op) (hp : P (r.handled op)) : P (r.step op).engine.device := by
  have htick : ∀ d l elapsedMs, P d → P ((d.carrying l).tick elapsedMs).engine.device := by
    intro d l elapsedMs hd
    obtain ⟨flushes,ns,d',hticks,hengine,-⟩ := Engine.tick_ticked d l elapsedMs
    rw [hengine]
    exact hpending _ _ (hticked _ _ _ _ _ (hpending d _ hd) hticks)
  cases op with
  | dequeue => rwa [step_dequeue_device]
  | tick elapsedMs => exact htick r.engine.device r.engine.lines elapsedMs hp
  | submit request =>
    by_cases hmt : request.mt = mtData ∨ request.mt = mtCommand
    · obtain ⟨rc,response,posting,d',hs,hx⟩ := handle_packet_served r.engine.device request hmt
      rw [handled, hx] at hp
      rw [posted_finalized] at hx hp
      have hback := hpending _ d'.pendingNotifications hp
      have hd' : P d' := hback
      rw [step_submit]
      obtain ⟨-,-,-,hout⟩ | ⟨sent,-,-,-,-,hout⟩ | ⟨-,-,hout⟩ :=
        Engine.submit_cases r.engine request rc d' response _ hx
      · rw [hout]
        exact hpending _ _ hd'
      · rw [hout]
        exact hpending _ _ hd'
      · rw [hout]
        exact htick d' _ 0 hd'
    · obtain ⟨hdata,hcommand⟩ := not_or.mp hmt
      rw [step_submit, Engine.submit_other r.engine request hdata hcommand]
      rwa [handled, handle_packet_other _ _ hdata hcommand] at hp

/-- A property of the device that does not read the pending queue and that packets and
ticks keep is kept by every step. -/
theorem step_device {P : Device → Prop} {G : Device → Packet → Prop}
    (hpending : ∀ d p, P d → P (d.withPending p))
    (hserved : ∀ d request response posting d', P d → G d request →
      Served d request response posting d' → P d')
    (hticked : ∀ d elapsedMs flushes ns d', P d → Ticked d elapsedMs flushes ns d' → P d')
    (r : Run) (op : Op) (hp : P r.engine.device)
    (hgood : ∀ request, op = .submit request → G r.engine.device request) :
    P (r.step op).engine.device := by
  refine step_handled hpending hticked r op ?_
  cases op with
  | dequeue => exact hp
  | tick elapsedMs => exact hp
  | submit request =>
    rw [handled]
    by_cases hmt : request.mt = mtData ∨ request.mt = mtCommand
    · obtain ⟨rc,response,posting,d',hs,hx⟩ := handle_packet_served r.engine.device request hmt
      rw [hx, posted_finalized]
      exact hpending _ _ (hserved _ _ _ _ _ hp (hgood request rfl) hs)
    · obtain ⟨hdata,hcommand⟩ := not_or.mp hmt
      rwa [handle_packet_other _ _ hdata hcommand]

theorem step_scenario (r : Run) (op : Op) :
    (r.step op).engine.device.scenario = r.engine.device.scenario := by
  refine step_device (P := fun d => d.scenario = r.engine.device.scenario)
    (G := fun _ _ => True) ?_ ?_ ?_ r op rfl fun _ _ => trivial
  · exact fun d p hd => hd
  · exact fun d request response posting d' hd _ hserved => (served_frame hserved).2.trans hd
  · exact fun d elapsedMs flushes ns d' hd hticked => (ticked_frame hticked).1.trans hd

theorem step_profile (r : Run) (op : Op) :
    (r.step op).engine.device.profile = r.engine.device.profile := by
  refine step_device (P := fun d => d.profile = r.engine.device.profile)
    (G := fun _ _ => True) ?_ ?_ ?_ r op rfl fun _ _ => trivial
  · exact fun d p hd => hd
  · exact fun d request response posting d' hd _ hserved => (served_frame hserved).1.trans hd
  · exact fun d elapsedMs flushes ns d' hd hticked => (ticked_frame hticked).2.1.trans hd

variable {profile : Profile} {scenario : Scenario}

theorem reached_scenario (ops : List Op) :
    (reached profile scenario ops).engine.device.scenario = scenario :=
  Runs.invariant_of_all_steps (I := fun r : Run => r.engine.device.scenario = scenario)
    (fun r op hr => (r.step_scenario op).trans hr) _ ops rfl

theorem reached_profile (ops : List Op) :
    (reached profile scenario ops).engine.device.profile = profile :=
  Runs.invariant_of_all_steps (I := fun r : Run => r.engine.device.profile = profile)
    (fun r op hr => (r.step_profile op).trans hr) _ ops rfl

end Run

end UciSim
