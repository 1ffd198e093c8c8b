import UciSim.MeasurementTimes
import UciSim.TableLaws
import UciSim.TcpClock
import UciSim.TcpConversation

/-!
# Measurements against the clock of the transport

The time a session waits for its measurement is time the engine is ticked by, and that
never runs ahead of the clock. So however the turns of the event loop are timed, no
measurement of a session comes early on the clock either.
-/

set_option autoImplicit false

namespace UciSim

section

variable {c : Clocked} {op : Op} {ops : List Op} {i : Fin maxSessions} {e : Engine}
  {elapsedMs : UInt32}

/-- The call starts the session at slot `i`, or its tick measures it. -/
def Run.Marks (r : Run) (op : Op) (i : Fin maxSessions) : Prop :=
  (∃ request, op = .submit request ∧ Starts r.engine.device request i) ∨
    ∃ e elapsedMs, r.ticking op = some (e,elapsedMs) ∧ e.Measured elapsedMs i

theorem restarted_since {d : Device} {request : Packet} {since : Fin maxSessions → ℕ}
    (h : Starts d request i) : d.restarted request since i = 0 := if_pos h

theorem restarted_le (d : Device) (request : Packet) (since : Fin maxSessions → ℕ)
    (i : Fin maxSessions) : d.restarted request since i ≤ since i := by
  unfold Device.restarted
  split
  · exact Nat.zero_le _
  · exact Nat.le_refl _

theorem clocked_since {since : Fin maxSessions → ℕ} (h : e.Measured elapsedMs i) :
    e.clocked elapsedMs since i = 0 := if_pos h

theorem clocked_le (e : Engine) (elapsedMs : UInt32) (since : Fin maxSessions → ℕ)
    (i : Fin maxSessions) : e.clocked elapsedMs since i ≤ since i+elapsedMs.toNat := by
  unfold Engine.clocked
  split
  · exact Nat.zero_le _
  · exact Nat.le_refl _

theorem Clocked.since_unclosed {request : Packet} (h : c.run.engine.closing request = none) :
    (c.step (.submit request)).since = c.run.engine.device.restarted request c.since := by
  unfold Clocked.step
  dsimp only
  rw [h]

theorem Clocked.since_closed {request : Packet} (h : c.run.engine.closing request = some e) :
    (c.step (.submit request)).since =
      e.clocked 0 (c.run.engine.device.restarted request c.since) := by
  unfold Clocked.step
  dsimp only
  rw [h]

theorem Clocked.since_submit (c : Clocked) (request : Packet) (i : Fin maxSessions) :
    (c.step (.submit request)).since i ≤
      c.run.engine.device.restarted request c.since i := by
  cases hclosing : c.run.engine.closing request with
  | none => rw [Clocked.since_unclosed hclosing]
  | some closed =>
    rw [Clocked.since_closed hclosing]
    exact clocked_le closed 0 _ i

theorem Clocked.since_step (c : Clocked) (op : Op) (i : Fin maxSessions) :
    (c.step op).since i ≤ c.since i+op.elapsedMs := by
  cases op with
  | dequeue => exact Nat.le_refl _
  | tick elapsedMs => exact clocked_le c.run.engine elapsedMs c.since i
  | submit request => exact (c.since_submit request i).trans (restarted_le _ _ _ _)

theorem Clocked.since_run (c : Clocked) (ops : List Op) (i : Fin maxSessions) :
    (Runs.run Clocked.step c ops).since i ≤ c.since i+(ops.map Op.elapsedMs).sum := by
  induction ops generalizing c with
  | nil => exact Nat.le_refl _
  | cons op ops ih =>
    have hstep := c.since_step op i
    have hrest := ih (c.step op)
    rw [List.map_cons, List.sum_cons]
    simp only [Runs.run]
    omega

/-- A start or a measurement takes the clock of its session from zero. -/
theorem Clocked.marked_since (h : c.run.Marks op i) : (c.step op).since i = 0 := by
  rcases h with ⟨request,rfl,hstarts⟩ | ⟨e,elapsedMs,hticks,hmeasured⟩
  · have hsince := c.since_submit request i
    rw [restarted_since hstarts] at hsince
    exact Nat.le_zero.mp hsince
  · rcases Run.ticking_cases hticks with ⟨rfl,rfl⟩ | ⟨request,rfl,rfl,hclosed⟩
    · exact clocked_since hmeasured
    · rw [Clocked.since_closed hclosed]
      exact clocked_since hmeasured

/-- A measurement waits for the interval of its session. -/
theorem Clocked.measured_since (h : c.run.engine.device.Paced c.since)
    (halone : c.run.MovesAlone op) (hticks : c.run.ticking op = some (e,elapsedMs))
    (hmeasured : e.Measured elapsedMs i) :
    ((e.device.sessions i).getRangingIntervalMs e.device.profile).toNat ≤
      c.since i+op.elapsedMs := by
  have hontime := (Clocked.step_on_time h halone).1
  rcases Run.ticking_cases hticks with ⟨rfl,rfl⟩ | ⟨request,rfl,rfl,hclosed⟩
  · exact hontime i hmeasured
  · have hwaited := hontime e hclosed i hmeasured
    exact hwaited.trans (Nat.add_le_add_right (restarted_le _ _ _ _) _)

variable {profile : Profile} {scenario : Scenario} {early between : List Op} {marking : Op}

theorem clocked_run (profile : Profile) (scenario : Scenario) (ops : List Op) :
    (Runs.run Clocked.step (Clocked.init profile scenario) ops).run =
      Run.reached profile scenario ops :=
  Runs.run_map (f := Clocked.run) (fun _ _ => rfl) _ ops

theorem clocked_paced (h : Run.Along profile scenario Run.MovesAlone ops) :
    (Run.reached profile scenario ops).engine.device.Paced
      (Runs.run Clocked.step (Clocked.init profile scenario) ops).since := by
  have halong : Runs.Along Clocked.step (fun c op => c.run.MovesAlone op)
      (Clocked.init profile scenario) ops :=
    Runs.along_map (f := Clocked.run) Run.MovesAlone (fun _ _ => rfl) _ ops h
  rw [← clocked_run]
  exact Runs.invariant_of_steps (I := fun c : Clocked => c.run.engine.device.Paced c.since)
    (fun c op hc halone => (Clocked.step_on_time hc halone).2) _ ops
    (Device.Paced.init profile scenario _) halong

/-- Between a start or a measurement and the next measurement of the session the engine is ticked
by the interval. -/
theorem marked_interval
    (h : Run.Along profile scenario Run.MovesAlone (early ++ marking::(between ++ [op])))
    (hmarks : (Run.reached profile scenario early).Marks marking i)
    (hticks : (Run.reached profile scenario (early ++ marking::between)).ticking op =
      some (e,elapsedMs)) (hmeasured : e.Measured elapsedMs i) :
    ((e.device.sessions i).getRangingIntervalMs e.device.profile).toNat ≤
      ((between ++ [op]).map Op.elapsedMs).sum := by
  rw [← List.cons_append, ← List.append_assoc] at h
  obtain ⟨hbefore,hop⟩ := (Runs.along_append _ _ _).mp h
  have hpaced := clocked_paced hbefore
  have hrun := clocked_run profile scenario (early ++ marking::between)
  rw [← hrun] at hpaced hticks
  have hwaited := Clocked.measured_since hpaced (by
    rw [hrun]
    exact hop.1) hticks hmeasured
  rw [← clocked_run] at hmarks
  have hsince : (Runs.run Clocked.step (Clocked.init profile scenario)
      (early ++ marking::between)).since i ≤ (between.map Op.elapsedMs).sum := by
    rw [Runs.run_append]
    have hrest := Clocked.since_run ((Runs.run Clocked.step (Clocked.init profile scenario)
      early).step marking) between i
    rwa [Clocked.marked_since hmarks, Nat.zero_add] at hrest
  rw [List.map_append, List.sum_append, List.map_singleton, List.sum_singleton]
  omega

end

/-- However the turns of a TCP loop are timed: from before a turn that starts or measures a session
to after a later one that measures it, the clock goes forward by the interval of the session
at least, unless a session changes its state beside a measurement event of its own. -/
theorem tcp_measures_in_time (arrivals takes : ℕ → ℕ) (profile : Profile) (scenario : Scenario)
    (incoming : List UInt8) (nowMs : UInt64) (before turns : List Turn) (loop later : TcpLoop)
    (hloop : loop = TcpLoop.served arrivals takes profile scenario incoming nowMs before)
    (hlater : later = Runs.run (TcpLoop.turn arrivals takes) loop turns)
    (halone : Run.Along profile scenario Run.MovesAlone later.server.calls.made)
    (i : Fin maxSessions) (early between rest : List Op) (marking measuring : Op)
    (hmade : later.server.calls.made =
      loop.server.calls.made ++ (early ++ marking::(between ++ measuring::rest)))
    (hmarks : (Run.reached profile scenario (loop.server.calls.made ++ early)).Marks marking i)
    (e : Engine) (elapsedMs : UInt32)
    (hticks : (Run.reached profile scenario
      (loop.server.calls.made ++ early ++ marking::between)).ticking measuring = some (e,elapsedMs))
    (hmeasured : e.Measured elapsedMs i) :
    loop.lastTickMs.toNat+
        ((e.device.sessions i).getRangingIntervalMs e.device.profile).toNat ≤
      later.lastTickMs.toNat := by
  have hsound : loop.Sound profile scenario incoming 0 :=
    hloop ▸ TcpLoop.Sound.served arrivals takes profile scenario incoming nowMs before
  obtain ⟨hforward,hbehind,-⟩ := hsound.run_passes arrivals takes turns
  rw [← hlater] at hforward hbehind
  have hsplit : later.server.calls.made =
      loop.server.calls.made ++ early ++ marking::(between ++ [measuring]) ++ rest := by
    simp [hmade]
  rw [hsplit] at halone
  have hinterval := marked_interval ((Runs.along_append _ _ _).mp halone).1 hmarks hticks hmeasured
  unfold TcpLoop.ticked at hbehind
  rw [hmade] at hbehind
  simp only [List.map_append, List.map_cons, List.map_nil, List.sum_append, List.sum_cons,
    List.sum_nil] at hbehind hinterval
  omega

/-- A client that opens a session, has it range every 100 ms, and starts it. -/
def rangingClient : List UInt8 :=
  [initRequest 1,setAppConfigRequest 1 1 [appConfigRangingInterval,4,100,0,0,0],
    startRequest 1].flatMap fun p => (packetSerialize p maxPacket).getD []

def commandTurn (nowMs : UInt64) : Turn := ⟨false,.ready true false,false,false,some nowMs⟩

def idleTurn (nowMs : UInt64) : Turn := ⟨false,.ready false false,false,false,some nowMs⟩

def openedLoop : TcpLoop :=
  TcpLoop.served (fun _ => 3) (fun _ => 7) defaultProfile .rangingStream rangingClient 0
    [commandTurn 20,commandTurn 40]

def rangedLoop : TcpLoop :=
  Runs.run (TcpLoop.turn (fun _ => 3) (fun _ => 7)) openedLoop
    [commandTurn 60,idleTurn 110,idleTurn 160]

def rangingEngine : Engine :=
  (Run.reached defaultProfile .rangingStream (openedLoop.server.calls.made ++ [] ++
    .submit (startRequest 1)::[.tick 20,.dequeue,.dequeue,.tick 50])).engine

theorem tcp_measures_in_time_client :
    openedLoop.lastTickMs.toNat+
        ((rangingEngine.device.sessions 0).getRangingIntervalMs rangingEngine.device.profile).toNat ≤
      rangedLoop.lastTickMs.toNat := by
  refine tcp_measures_in_time (fun _ => 3) (fun _ => 7) defaultProfile .rangingStream rangingClient
    0 _ _ openedLoop rangedLoop rfl rfl (by decide +kernel) 0 []
    [.tick 20,.dequeue,.dequeue,.tick 50] [.dequeue] (.submit (startRequest 1)) (.tick 50)
    (by decide +kernel) (Or.inl ⟨startRequest 1,rfl,?_⟩) rangingEngine 50 rfl (by decide +kernel)
  decide +kernel

end UciSim
