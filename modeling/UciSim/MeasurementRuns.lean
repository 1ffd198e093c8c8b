import UciSim.MeasurementMoves

/-!
# The logs of the measurements in runs

A packet does to what a session remembers of its measurements what it does to the log, and a
tick counts in both or in neither. So in every reached state the session agrees with its log.
-/

set_option autoImplicit false

namespace UciSim

open Exchange

section

variable {d d' : Device} {request : Packet} {i : Fin maxSessions}
  {logs : Fin maxSessions → MeasurementLog}

theorem fresh_recorded {burst : UInt8} {l : MeasurementLog} (h : (d.sessions i).Recorded burst l)
    (hfree : (d.sessions i).allocated = false) (sessionId : UInt32) :
    (d.freshSession i sessionId).Recorded burst l := by
  have hblank := h.free hfree
  have hbudget := h.budget
  subst hblank
  rw [fresh_session_eq]
  exact ⟨rfl,hbudget,rfl,fun _ => rfl⟩

theorem other_transition_keeps {oid : UInt8} (h : d.Recorded logs) (hstart : oid ≠ sessionStart)
    (hstop : oid ≠ sessionStop) (nextState : UInt8) :
    d.KeepsLogs (d.entered oid i nextState) logs := by
  have hentering : d.entering oid i nextState = { d.sessions i with state := nextState } :=
    congrArg (fun session : Session => { session with state := nextState })
      (if_neg (not_or.mpr ⟨hstart,hstop⟩))
  unfold Device.entered Device.reactToTransition
  rw [if_neg hstart, if_neg hstop, hentering]
  refine logs_kept_set h ?_
  have hi := h i
  exact ⟨hi.count,hi.budget,hi.edge,hi.free⟩

theorem changed_keeps {ns : List Packet} (h : d.Recorded logs) (hmt : request.mt = mtCommand)
    (hsets : ∀ i, ¬ Sets d request i) (hstarts : ∀ i, ¬ Starts d request i)
    (hstops : ∀ i, ¬ Moves d request sessionStop i) (hchange : Change d request ns d') :
    d.KeepsLogs d' logs := by
  cases hchange with
  | housekept _ same => exact logs_kept_same h same.sessions
  | edited i session _ lifecycle => exact logs_kept_set h ((h i).lifecycle lifecycle)
  | linked i session _ _ _ _ _ lifecycle => exact logs_kept_set h ((h i).lifecycle lifecycle)
  | configured i command supported long found =>
    exact absurd ⟨⟨hmt,command.1,command.2⟩,supported,long,found⟩ (hsets i)
  | reported => exact logs_kept_same h rfl
  | opened sessionId i _ _ free =>
    exact logs_kept_set h (fresh_recorded (h i) (Device.free_session_some free) sessionId)
  | closed i =>
    refine logs_kept_cleared h fun j => ?_
    by_cases hj : j = i
    · subst hj
      exact Or.inr (Device.setSession_same _ _ _)
    · exact Or.inl (Device.setSession_other d _ hj)
  | moved i _ transition command supported long found listed allowed valid =>
    have hmoves : Moves d request request.oid i :=
      ⟨hmt,command,rfl,supported,long,found,transition,listed,allowed⟩
    refine other_transition_keeps h (fun hstart => ?_) (fun hstop => ?_) transition.nextState
    · rw [hstart] at hmoves
      exact hstarts i ⟨hmoves,valid hstart⟩
    · rw [hstop] at hmoves
      exact hstops i hmoves
  | reset => exact logs_kept_cleared h fun _ => Or.inr rfl

theorem data_keeps {posting : Posting} (h : d.Recorded logs)
    (hchange : DataChange d request posting d') : d.KeepsLogs d' logs := by
  have hkept : ∀ {i : Fin maxSessions} {session : Session}, (d.sessions i).Unmeasured session →
      d.KeepsLogs (d.setSession i session) logs :=
    fun {i _} same => logs_kept_set h ((h i).unmeasured same)
  cases hchange with
  | ignored => exact logs_kept_same h rfl
  | refused => exact logs_kept_same h rfl
  | repeated => exact logs_kept_same h rfl
  | completed => exact hkept ⟨⟨rfl,rfl,rfl⟩,rfl,rfl,Or.inl rfl⟩
  | begun => exact hkept ⟨⟨rfl,rfl,rfl⟩,rfl,rfl,Or.inl rfl⟩
  | unscheduled => exact hkept ⟨⟨rfl,rfl,rfl⟩,rfl,rfl,Or.inl rfl⟩

theorem other_keeps (h : d.Recorded logs) (hsets : ∀ i, ¬ Sets d request i)
    (hstarts : ∀ i, ¬ Starts d request i) (hstops : ∀ i, ¬ Moves d request sessionStop i) :
    d.KeepsLogs (d.handlePacket request).2.device (d.advance request logs) := by
  have hsame : d.advance request logs = logs := by
    funext i
    unfold Device.advance
    rw [if_neg (hstarts i)]
    exact if_neg (not_or.mpr ⟨hstops i,fun hre => hsets i hre.1⟩)
  rw [hsame]
  by_cases hmt : request.mt = mtData ∨ request.mt = mtCommand
  · rcases handle_packet_served d request hmt with ⟨rc,response,posting,d',hserved,hx⟩
    have hkept : d.KeepsLogs d' logs := by
      cases hserved with
      | command _ _ _ _ mt _ change => exact changed_keeps h mt hsets hstarts hstops change
      | data _ _ _ change => exact data_keeps h change
    rw [hx, posted_finalized]
    exact hkept
  · rcases not_or.mp hmt with ⟨hdata,hcommand⟩
    rw [handle_packet_other d request hdata hcommand]
    exact logs_kept_same h rfl

theorem packet_recorded (h : d.Recorded logs) (request : Packet) :
    (d.handlePacket request).2.device.Recorded (d.logged request logs) := by
  have hkept : d.KeepsLogs (d.handlePacket request).2.device (d.advance request logs) := by
    by_cases hset : ∃ i, Sets d request i
    · rcases hset with ⟨i,hset⟩
      exact configured_keeps h hset
    by_cases hstarts : ∃ i, Starts d request i
    · rcases hstarts with ⟨i,hstarts⟩
      exact started_keeps h hstarts
    by_cases hstops : ∃ i, Moves d request sessionStop i
    · rcases hstops with ⟨i,hstops⟩
      exact stopped_keeps h hstops
    exact other_keeps h (not_exists.mp hset) (not_exists.mp hstarts) (not_exists.mp hstops)
  intro i
  rw [(handle_packet_frame d request).1]
  exact hkept i

end

/-- The logs after the tick. -/
def Engine.logged (e : Engine) (elapsedMs : UInt32) (logs : Fin maxSessions → MeasurementLog)
    (i : Fin maxSessions) : MeasurementLog :=
  if e.Measured elapsedMs i then (logs i).measure (decide (e.device.Inside i)) else logs i

theorem Engine.tick_profile (e : Engine) (elapsedMs : UInt32) :
    (e.tick elapsedMs).engine.device.profile = e.device.profile := by
  rcases tick_ticked e.device e.lines elapsedMs with ⟨flushes,ns,d',hticked,hengine,-⟩
  rw [carrying_lines] at hengine
  rw [hengine]
  exact (ticked_frame hticked).2.1

theorem Engine.tick_recorded {e : Engine} {logs : Fin maxSessions → MeasurementLog}
    (h : e.device.Recorded logs) (elapsedMs : UInt32) :
    (e.tick elapsedMs).engine.device.Recorded (e.logged elapsedMs logs) := by
  intro i
  rw [tick_profile]
  unfold logged
  rcases e.tick_session elapsedMs i with hrests | ⟨⟨event,-,-,hfound,hsampling⟩,-,hmeasured⟩
  · have hrested : ¬ e.Measured elapsedMs i := not_not.mpr hrests.measurements.count
    rw [if_neg hrested]
    exact (h i).unmeasured hrests
  · have hcounts : e.Measured elapsedMs i := by
      unfold Measured
      rw [hmeasured, Device.measured_count]
      simp
    rw [if_pos hcounts, hmeasured]
    exact (h i).measured hsampling (Device.find_session_some hfound).1

/-- A run together with the logs of the measurements. -/
structure Logged where
  run : Run
  logs : Fin maxSessions → MeasurementLog

namespace Logged

def init (profile : Profile) (scenario : Scenario) : Logged :=
  ⟨Run.init profile scenario,fun _ => .blank⟩

/-- The logs when the tick of the call begins. -/
def before (l : Logged) : Op → Fin maxSessions → MeasurementLog
  | .submit request => l.run.engine.device.logged request l.logs
  | .tick _ => l.logs
  | .dequeue => l.logs

def step (l : Logged) (op : Op) : Logged where
  run := l.run.step op
  logs :=
    match l.run.ticking op with
    | none => l.before op
    | some (e,elapsedMs) => e.logged elapsedMs (l.before op)

/-- Each slot at the tick of the call, with the log it finds. -/
def AtTick (l : Logged) (op : Op)
    (P : Engine → UInt32 → Fin maxSessions → MeasurementLog → Prop) : Prop :=
  ∀ ticking ∈ l.run.ticking op, ∀ i, P ticking.1 ticking.2 i (l.before op i)

instance (l : Logged) (op : Op) (P : Engine → UInt32 → Fin maxSessions → MeasurementLog → Prop)
    [∀ e elapsedMs i log, Decidable (P e elapsedMs i log)] : Decidable (l.AtTick op P) :=
  inferInstanceAs (Decidable (∀ ticking, ticking ∈ _ → _))

/-- The profile is the one of the run, and every session remembers what its log says. -/
structure Agrees (profile : Profile) (l : Logged) : Prop where
  profile : l.run.engine.device.profile = profile
  recorded : l.run.engine.device.Recorded l.logs

variable {profile : Profile} {scenario : Scenario} {l : Logged}
  {P : Engine → UInt32 → Fin maxSessions → MeasurementLog → Prop}

theorem init_agrees : (Logged.init profile scenario).Agrees profile := ⟨rfl,fun _ => .zero _⟩

theorem agrees_ticking (h : l.Agrees profile) {op : Op} {e : Engine} {elapsedMs : UInt32}
    (hticks : l.run.ticking op = some (e,elapsedMs)) :
    e.device.profile = profile ∧ e.device.Recorded (l.before op) := by
  rcases Run.ticking_cases hticks with ⟨rfl,rfl⟩ | ⟨request,rfl,rfl,hclosed⟩
  · exact ⟨h.profile,h.recorded⟩
  · rcases Engine.closing_device hclosed with ⟨lines,rfl⟩
    exact ⟨(handle_packet_frame _ _).1.trans h.profile,packet_recorded h.recorded request⟩

theorem step_ticking {r : Run} {op : Op} {e : Engine} {elapsedMs : UInt32}
    (hticks : r.ticking op = some (e,elapsedMs)) :
    (r.step op).engine = (e.tick elapsedMs).engine := by
  rcases Run.ticking_cases hticks with ⟨rfl,rfl⟩ | ⟨request,rfl,rfl,hclosed⟩
  · rfl
  · exact (Engine.submit_closed hclosed).2

theorem step_unticked {op : Op} (h : l.run.engine.device.Recorded l.logs)
    (hticks : l.run.ticking op = none) :
    (l.run.step op).engine.device.Recorded (l.before op) := by
  cases op with
  | tick elapsedMs => cases hticks
  | dequeue =>
    rw [Run.step_dequeue_device]
    exact h
  | submit request =>
    rcases Engine.submit_unclosed (Option.map_eq_none_iff.mp hticks) with ⟨lines,hengine⟩
    show (l.run.engine.submitPacket request).engine.device.Recorded _
    rw [hengine]
    exact packet_recorded h request

theorem step_agrees (h : l.Agrees profile) (op : Op) : (l.step op).Agrees profile := by
  refine ⟨(l.run.step_profile op).trans h.profile,?_⟩
  unfold step
  dsimp only
  cases hticks : l.run.ticking op with
  | none => exact step_unticked h.recorded hticks
  | some ticking =>
    rcases ticking with ⟨e,elapsedMs⟩
    rw [step_ticking hticks]
    exact Engine.tick_recorded (agrees_ticking h hticks).2 elapsedMs

theorem along_agreeing {Q : Logged → Op → Prop} (h : ∀ l op, l.Agrees profile → Q l op)
    (ops : List Op) : Runs.Along step Q (Logged.init profile scenario) ops := by
  have hany : Runs.Along step (fun _ _ => True) (Logged.init profile scenario) ops :=
    Runs.along_of_forall (fun _ _ => trivial) _ ops
  exact Runs.along_of_invariant (I := fun l : Logged => l.Agrees profile)
    (fun _ op hl _ => step_agrees hl op) (fun _ op hl _ => h _ op hl) _ ops init_agrees hany

theorem along_ticks (h : ∀ e elapsedMs i log, e.device.profile = profile →
      (e.device.sessions i).Recorded profile.rangingStreamBurstCount log → P e elapsedMs i log)
    (ops : List Op) :
    Runs.Along step (fun l op => l.AtTick op P) (Logged.init profile scenario) ops := by
  refine along_agreeing ?_ ops
  rintro l op hl ⟨e,elapsedMs⟩ hticks i
  rcases agrees_ticking hl hticks with ⟨hprofile,hrecorded⟩
  refine h e elapsedMs i _ hprofile ?_
  rw [← hprofile]
  exact hrecorded i

theorem quiet_ticking {r : Run} {op : Op} (h : Run.Flowing r.engine.device)
    (hs : r.engine.device.scenario ≠ .delayedNotifications) (hroom : r.Uncongested op) {e : Engine}
    {elapsedMs : UInt32} (hticks : r.ticking op = some (e,elapsedMs)) :
    e.device.Bounded ∧ e.device.pendingNotifications = [] := by
  have hflows : Run.Flowing e.device ∧ e.device.scenario = r.engine.device.scenario := by
    rcases Run.ticking_cases hticks with ⟨rfl,rfl⟩ | ⟨request,rfl,rfl,hclosed⟩
    · exact ⟨h,rfl⟩
    · refine ⟨Run.closing_flowing h hroom hclosed,?_⟩
      rcases Engine.closing_device hclosed with ⟨lines,rfl⟩
      exact (handle_packet_frame _ _).2
  rcases hflows with ⟨hflows,hscenario⟩
  exact ⟨hflows.bounded,hflows.prompt.resolve_left (by rwa [hscenario])⟩

theorem along_quiet_ticks (hs : scenario ≠ .delayedNotifications)
    (h : ∀ e elapsedMs i log, e.device.profile = profile → e.device.Bounded →
      e.device.pendingNotifications = [] →
      (e.device.sessions i).Recorded profile.rangingStreamBurstCount log → P e elapsedMs i log)
    (ops : List Op) (hops : Run.Along profile scenario Run.Uncongested ops) :
    Runs.Along step (fun l op => l.AtTick op P) (Logged.init profile scenario) ops := by
  have hrooms : Runs.Along step (fun l op => l.run.Uncongested op) (Logged.init profile scenario)
      ops := Runs.along_map (f := Logged.run) Run.Uncongested (fun _ _ => rfl) _ ops hops
  refine Runs.along_of_invariant (I := fun l : Logged => l.Agrees profile ∧
    Run.Flowing l.run.engine.device ∧ l.run.engine.device.scenario = scenario) ?_ ?_ _ ops
    ⟨init_agrees,⟨Nat.zero_le _,Or.inr rfl⟩,rfl⟩ hrooms
  · rintro l op ⟨hagrees,hflows,hscenario⟩ hroom
    exact ⟨step_agrees hagrees op,Run.step_flowing hflows hroom,
      (l.run.step_scenario op).trans hscenario⟩
  · rintro l op ⟨hagrees,hflows,hscenario⟩ hroom ⟨e,elapsedMs⟩ hticks i
    rcases agrees_ticking hagrees hticks with ⟨hprofile,hrecorded⟩
    rcases quiet_ticking hflows (by rwa [hscenario]) hroom hticks with ⟨hbounded,hidle⟩
    refine h e elapsedMs i _ hprofile hbounded hidle ?_
    rw [← hprofile]
    exact hrecorded i

end Logged

end UciSim
