import UciSim.RangingEvents
import UciSim.RefusedPackets

/-!
# The times of the measurements

A clock for each slot runs from the start of its session and from every measurement.
The event of a session that was closed while it ranged is served for the session that
is started next under its identifier, before the clock has reached the interval.
-/

set_option autoImplicit false

namespace UciSim

open Exchange

def Engine.Measured (e : Engine) (elapsedMs : UInt32) (i : Fin maxSessions) : Prop :=
  ((e.tick elapsedMs).engine.device.sessions i).rangingCount ≠ (e.device.sessions i).rangingCount

instance (e : Engine) (elapsedMs : UInt32) (i : Fin maxSessions) :
    Decidable (e.Measured elapsedMs i) := inferInstanceAs (Decidable (¬ _))

def Engine.clocked (e : Engine) (elapsedMs : UInt32) (since : Fin maxSessions → ℕ)
    (i : Fin maxSessions) : ℕ :=
  if e.Measured elapsedMs i then 0 else since i+elapsedMs.toNat

/-- Every session the tick measures has waited for its interval. -/
def Engine.OnTime (e : Engine) (elapsedMs : UInt32) (since : Fin maxSessions → ℕ) : Prop :=
  ∀ i, e.Measured elapsedMs i →
    ((e.device.sessions i).getRangingIntervalMs e.device.profile).toNat ≤
      since i+elapsedMs.toNat

instance (e : Engine) (elapsedMs : UInt32) (since : Fin maxSessions → ℕ) :
    Decidable (e.OnTime elapsedMs since) := inferInstanceAs (Decidable (∀ _, _))

/-- An accepted start takes the clock of its session from zero. -/
def Device.restarted (d : Device) (request : Packet) (since : Fin maxSessions → ℕ)
    (i : Fin maxSessions) : ℕ :=
  if Starts d request i then 0 else since i

/-- A run together with the time since the start or the last measurement of each session. -/
structure Clocked where
  run : Run
  since : Fin maxSessions → ℕ

namespace Clocked

def init (profile : Profile) (scenario : Scenario) : Clocked := ⟨Run.init profile scenario,fun _ => 0⟩

def step (c : Clocked) (op : Op) : Clocked where
  run := c.run.step op
  since :=
    match op with
    | .submit request =>
      let since := c.run.engine.device.restarted request c.since
      match c.run.engine.closing request with
      | none => since
      | some closed => closed.clocked 0 since
    | .tick elapsedMs => c.run.engine.clocked elapsedMs c.since
    | .dequeue => c.since

def OnTime (c : Clocked) : Op → Prop
  | .submit request => ∀ closed, c.run.engine.closing request = some closed →
      closed.OnTime 0 (c.run.engine.device.restarted request c.since)
  | .tick elapsedMs => c.run.engine.OnTime elapsedMs c.since
  | .dequeue => True

instance (c : Clocked) : (op : Op) → Decidable (c.OnTime op)
  | .submit request =>
    inferInstanceAs (Decidable (∀ closed, closed ∈ c.run.engine.closing request → _))
  | .tick _ => inferInstanceAs (Decidable (Engine.OnTime _ _ _))
  | .dequeue => isTrue trivial

end Clocked

/-- A session changes its state by a packet, unless it is stopped, beside no event of its own. -/
def Run.MovesAlone (r : Run) : Op → Prop
  | .submit request => r.engine.device.MovesAlone request
  | _ => True

instance (r : Run) : (op : Op) → Decidable (r.MovesAlone op)
  | .submit request => inferInstanceAs (Decidable (r.engine.device.MovesAlone request))
  | .tick _ => isTrue trivial
  | .dequeue => isTrue trivial

theorem Engine.tick_on_time (e : Engine) (elapsedMs : UInt32) {since : Fin maxSessions → ℕ}
    (h : e.device.Paced since) : e.OnTime elapsedMs since ∧
      (e.tick elapsedMs).engine.device.Paced (e.clocked elapsedMs since) := by
  rcases tick_ticked e.device e.lines elapsedMs with ⟨flushes,ns,d',hticked,hengine,-⟩
  rw [carrying_lines] at hengine
  have hsessions : (e.tick elapsedMs).engine.device.sessions = d'.sessions := by
    rw [hengine]
    rfl
  have hkept : ∀ j, (d'.sessions j).rangingCount = (e.device.sessions j).rangingCount →
      e.clocked elapsedMs since j = since j+elapsedMs.toNat := by
    intro j hcount
    refine if_neg (not_not.mpr ?_)
    rw [hsessions]
    exact hcount
  rcases Device.Paced.ticked (h : (e.device.withPending e.lines.waiting).Paced since) hkept
    hticked with ⟨hontime,hpaced⟩
  constructor
  · intro j hmeasured
    unfold Measured at hmeasured
    rw [hsessions] at hmeasured
    exact hontime j hmeasured
  · rw [hengine]
    exact hpaced.of_same rfl rfl rfl

theorem Engine.packet_paced {e : Engine} {request : Packet} {since : Fin maxSessions → ℕ}
    (h : e.device.Paced since) (halone : e.device.MovesAlone request) :
    (e.device.handlePacket request).2.device.Paced (e.device.restarted request since) := by
  have hrestarted : e.device.Paced (e.device.restarted request since) :=
    h.restarted halone fun i hstarts => if_neg hstarts
  by_cases hmt : request.mt = mtData ∨ request.mt = mtCommand
  · rcases handle_packet_served e.device request hmt with ⟨rc,response,posting,d',hserved,hx⟩
    rw [posted_finalized] at hx
    rw [hx]
    exact (hrestarted.served halone hserved).of_same rfl rfl rfl
  · rcases not_or.mp hmt with ⟨hdata,hcommand⟩
    rw [handle_packet_other e.device request hdata hcommand]
    exact hrestarted

namespace Clocked

theorem step_on_time {c : Clocked} {op : Op} (h : c.run.engine.device.Paced c.since)
    (halone : c.run.MovesAlone op) :
    c.OnTime op ∧ (c.step op).run.engine.device.Paced (c.step op).since := by
  cases op with
  | dequeue =>
    refine ⟨trivial,?_⟩
    show ((c.run.step .dequeue).engine.device).Paced c.since
    rw [Run.step_dequeue_device]
    exact h
  | tick elapsedMs => exact c.run.engine.tick_on_time elapsedMs h
  | submit request =>
    have hpacket := Engine.packet_paced h halone
    cases hclosing : c.run.engine.closing request with
    | none =>
      rcases Engine.submit_unclosed hclosing with ⟨l,hengine⟩
      constructor
      · intro closed hclosed
        cases hclosing.symm.trans hclosed
      · unfold step
        dsimp only
        rw [hclosing]
        show ((c.run.engine.submitPacket request).engine.device).Paced _
        rw [hengine]
        exact hpacket.of_same rfl rfl rfl
    | some closed =>
      rcases Engine.closing_device hclosing with ⟨l,rfl⟩
      have hticked := Engine.tick_on_time _ 0 (hpacket.of_same rfl rfl rfl :
        ((c.run.engine.device.handlePacket request).2.device.carrying l).device.Paced _)
      constructor
      · intro closed hclosed
        cases hclosing.symm.trans hclosed
        exact hticked.1
      · unfold step
        dsimp only
        rw [hclosing]
        show ((c.run.engine.submitPacket request).engine.device).Paced _
        rw [(Engine.submit_closed hclosing).2]
        exact hticked.2

end Clocked

/-- In every run of any scenario whose sessions start beside no event of their own, each
measurement comes no earlier after the start or the last measurement of its session than the
interval in force. -/
theorem measurements_on_time (profile : Profile) (scenario : Scenario) (ops : List Op)
    (h : Run.Along profile scenario Run.MovesAlone ops) :
    Runs.Along Clocked.step Clocked.OnTime (Clocked.init profile scenario) ops := by
  have halong : Runs.Along Clocked.step (fun c op => c.run.MovesAlone op)
      (Clocked.init profile scenario) ops :=
    Runs.along_map (f := Clocked.run) Run.MovesAlone (fun _ _ => rfl) _ ops h
  exact Runs.along_of_invariant (I := fun c : Clocked => c.run.engine.device.Paced c.since)
    (fun c op hc halone => (Clocked.step_on_time hc halone).2)
    (fun c op hc halone => (Clocked.step_on_time hc halone).1) _ ops
    (Device.Paced.init profile scenario _) halong

/-- A session that ranges, changes its interval, stops and starts again. -/
def pacedRun : List Op := [.submit (initRequest 1), .submit (startRequest 1), .tick 1500,
  .submit (setAppConfigRequest 1 1 [appConfigRangingInterval,4,0xE8,3,0,0]), .tick 1000,
  .submit (stopRequest 1), .submit (deinitRequest 1), .submit (initRequest 1),
  .submit (startRequest 1), .tick 2000]

theorem paced_run_on_time :
    Runs.Along Clocked.step Clocked.OnTime (Clocked.init defaultProfile .rangingStream) pacedRun :=
  measurements_on_time defaultProfile .rangingStream pacedRun (by decide +kernel)

/-- A session that is closed while it ranges, opened and started again. -/
def reopenedRun : List Op := [.submit (initRequest 1), .submit (startRequest 1), .tick 1500,
  .submit (deinitRequest 1), .submit (initRequest 1), .submit (startRequest 1), .tick 500]

/-- The event of the closed session has the new one measured after 500 of 2000 ms. -/
theorem reopened_run_early :
    ¬ Runs.Along Clocked.step Clocked.OnTime (Clocked.init defaultProfile .rangingStream)
      reopenedRun := by
  decide +kernel

end UciSim
