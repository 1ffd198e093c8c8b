import UciSim.StreamGating

/-!
# The budgets of a stream

A stream measures while it is active, at most as often as its start allows and at most up to
the maximum in force. The measurement that reaches the maximum ends the session, together with
its event, and says so after its own report.
-/

set_option autoImplicit false

namespace UciSim

section

variable {session : Session} {m : UInt16}

theorem budget_spent_iff (hm : m ≠ 0)
    (h : session.HoldsU16 appConfigMaxNumberOfMeasurements m) :
    session.budgetSpent = true ↔ m.toNat ≤ session.rangingCount.toNat := by
  have hmax : session.getMaxNumberOfMeasurements = m := by
    unfold Session.getMaxNumberOfMeasurements
    exact Session.HoldsU16.read h 0
  unfold Session.budgetSpent
  rw [hmax, Bool.and_eq_true, bne_iff_ne, decide_eq_true_iff]
  constructor
  · rintro ⟨-,hcount⟩
    have hle := UInt32.le_iff_toNat_le.mp hcount
    rwa [UInt16.toNat_toUInt32] at hle
  · intro hle
    refine ⟨hm,UInt32.le_iff_toNat_le.mpr ?_⟩
    rwa [UInt16.toNat_toUInt32]

theorem counted_within {d : Device} {i : Fin maxSessions} (hm : m ≠ 0)
    (h : (d.sessions i).HoldsU16 appConfigMaxNumberOfMeasurements m)
    (hspent : (d.sessions i).budgetSpent = false) :
    (d.measured i).rangingCount.toNat ≤ m.toNat ∧
      ((d.measured i).rangingCount.toNat = m.toNat → (d.counted i).budgetSpent = true) := by
  have hbelow : ¬ m.toNat ≤ (d.sessions i).rangingCount.toNat := by
    rw [← budget_spent_iff hm h, hspent]
    exact Bool.false_ne_true
  have hcount : ((d.sessions i).rangingCount+1).toNat = (d.sessions i).rangingCount.toNat+1 := by
    have hsize := m.toNat_lt
    have hone : (1 : UInt32).toNat = 1 := rfl
    rw [UInt32.toNat_add, hone]
    omega
  rw [d.measured_count, hcount]
  refine ⟨by omega,fun hreaches => ?_⟩
  have hheld : (d.counted i).HoldsU16 appConfigMaxNumberOfMeasurements m := h
  rw [budget_spent_iff hm hheld]
  show m.toNat ≤ ((d.sessions i).rangingCount+1).toNat
  omega

end

namespace Engine

/-- The tick ends the session with its event and says so after what it reports. -/
structure Ends (e : Engine) (elapsedMs : UInt32) (i : Fin maxSessions) : Prop where
  idle : ((e.tick elapsedMs).engine.device.sessions i).state = sessionStateIdle
  exhausted : ((e.tick elapsedMs).engine.device.sessions i).rangingStreamRemaining = 0
  unscheduled : ∀ event ∈ (e.tick elapsedMs).engine.device.scheduledEvents,
    event.sessionId ≠ (e.device.sessions i).sessionId
  announces : ∃ reports, reports.length ≤ 1 ∧ (∀ n ∈ reports, n.IsRangeData e.device.profile) ∧
    (e.tick elapsedMs).produced = reports ++
      [sessionStatusNotification (e.device.sessions i).sessionId sessionStateIdle
        reasonMaxNumberOfMeasurementsReached]

structure WithinBudget (e : Engine) (elapsedMs : UInt32) (i : Fin maxSessions)
    (log : MeasurementLog) : Prop where
  active : (e.device.sessions i).state = sessionStateActive
  burst : log.started+1 ≤ e.device.profile.rangingStreamBurstCount.toNat
  maximum : ∀ m, m ≠ 0 → (e.device.sessions i).HoldsU16 appConfigMaxNumberOfMeasurements m →
    ((e.tick elapsedMs).engine.device.sessions i).rangingCount.toNat ≤ m.toNat ∧
      (((e.tick elapsedMs).engine.device.sessions i).rangingCount.toNat = m.toNat →
        e.Ends elapsedMs i)

variable {e : Engine} {elapsedMs : UInt32} {i : Fin maxSessions} {log : MeasurementLog}

theorem report_all_range_data {d : Device} {n : Packet} (h : n ∈ d.report i) :
    n.IsRangeData d.profile := by
  unfold Device.report at h
  split at h
  · by_cases hlen : d.profile.rangeDataPayloadLen = 0 ∨
        d.profile.rangeDataPayloadLen.toNat > maxPayload
    · rw [Exchange.build_range_data_none _ _ _ _ hlen] at h
      cases h
    · rcases Exchange.build_range_data_some d.profile _ (d.samplePolicy i)
        d.profile.rangeDataNotificationOid hlen with ⟨payload,hbuild⟩
      rw [hbuild] at h
      rw [List.mem_singleton.mp h]
      exact ⟨rfl,rfl,rfl⟩
  · cases h

theorem takings_ends (h : e.Takings elapsedMs i)
    (hspent : (e.device.counted i).budgetSpent = true) :
    e.Ends elapsedMs i := by
  have hended : e.device.measured i = (e.device.counted i).endStream := if_pos hspent
  constructor
  · rw [h.session, hended]
    rfl
  · rw [h.session, hended]
    rfl
  · exact h.events hspent
  · refine ⟨e.device.report i,e.device.report_length i,fun n hn => report_all_range_data hn,?_⟩
    rw [h.produced, Device.ending, if_pos hspent]
    rfl

theorem measured_within_budget (hbounded : e.device.Bounded)
    (hidle : e.device.pendingNotifications = [])
    (hrecorded : (e.device.sessions i).Recorded e.device.profile.rangingStreamBurstCount log)
    (hmeasured : e.Measured elapsedMs i) : e.WithinBudget elapsedMs i log := by
  have htakes := (measured_iff hbounded hidle).mp hmeasured
  have htakings := tick_takings hidle htakes.1 ((takes_iff hbounded hidle htakes.1).mp htakes)
  rcases htakes.1 with ⟨-,-,-,-,⟨-,hremaining,hactive⟩,hspent⟩
  constructor
  · exact hactive
  · have hbudget := hrecorded.budget
    have hpos : (e.device.sessions i).rangingStreamRemaining.toNat ≠ 0 :=
      fun hzero => hremaining (UInt8.toNat_inj.mp hzero)
    omega
  · intro m hm hheld
    rcases counted_within hm hheld hspent with ⟨hwithin,hlast⟩
    rw [htakings.session]
    exact ⟨hwithin,fun hreaches => takings_ends htakings (hlast hreaches)⟩

end Engine

namespace Logged

/-- The call increments the measurement count of no session but by measuring it. -/
def CountsMeasurements (l : Logged) (op : Op) : Prop :=
  ∀ i, (l.run.engine.device.sessions i).rangingCount <
      ((l.run.step op).engine.device.sessions i).rangingCount →
    ∃ ticking ∈ l.run.ticking op, ticking.1.Measured ticking.2 i

variable {profile : Profile} {l : Logged}

theorem before_taken (l : Logged) (op : Op) (i : Fin maxSessions) :
    (l.before op i).taken = (l.logs i).taken ∨ (l.before op i).taken = 0 := by
  cases op with
  | tick elapsedMs => exact Or.inl rfl
  | dequeue => exact Or.inl rfl
  | submit request =>
    unfold before Device.logged Device.inUse
    dsimp only
    split
    · exact Or.inr rfl
    · unfold Device.advance
      split
      · exact Or.inl rfl
      · split
        · exact Or.inl rfl
        · exact Or.inl rfl

theorem step_logs {op : Op} {i : Fin maxSessions}
    (h : ∀ ticking ∈ l.run.ticking op, ¬ ticking.1.Measured ticking.2 i) :
    (l.step op).logs i = l.before op i := by
  unfold step
  dsimp only
  cases hticks : l.run.ticking op with
  | none => rfl
  | some ticking => exact if_neg (h ticking hticks)

theorem step_counts (h : l.Agrees profile) (op : Op) : l.CountsMeasurements op := by
  intro i hincreases
  by_contra hnone
  have hlogs : (l.step op).logs i = l.before op i :=
    step_logs fun ticking hticks hmeasured => hnone ⟨ticking,hticks,hmeasured⟩
  have hcount := (h.recorded i).count
  have hcount' := ((step_agrees h op).recorded i).count
  rw [hlogs] at hcount'
  rw [show (l.step op).run = l.run.step op from rfl] at hcount'
  rw [hcount, hcount'] at hincreases
  rcases l.before_taken op i with htaken | htaken
  · rw [htaken] at hincreases
    exact absurd hincreases (UInt32.lt_irrefl _)
  · rw [htaken] at hincreases
    exact absurd hincreases UInt32.not_lt_zero

end Logged

/-- In every uncongested run of the ranging stream scenario a session's measurement count grows by
its measurements only. Each of them finds the session active, is one of the burst since its last
start, and stays within the maximum in force; the one that reaches it ends the session with its
event and says so after its report. -/
theorem measurement_budgets (profile : Profile) (ops : List Op)
    (h : Run.Along profile .rangingStream Run.Uncongested ops) :
    Runs.Along Logged.step (fun l op => l.CountsMeasurements op ∧
      l.AtTick op (fun e elapsedMs i log => e.Measured elapsedMs i →
        e.WithinBudget elapsedMs i log)) (Logged.init profile .rangingStream) ops := by
  refine Runs.along_and _ ops ?_ ?_
  · exact Logged.along_agreeing (fun _ op hl => Logged.step_counts hl op) ops
  · refine Logged.along_quiet_ticks (by decide)
      (fun e elapsedMs i log hprofile hbounded hidle hrecorded hmeasured => ?_) ops h
    rw [← hprofile] at hrecorded
    exact Engine.measured_within_budget hbounded hidle hrecorded hmeasured

/-- A session that is allowed two measurements, stopped after the first and started again. -/
def spendingRun : List Op := [.submit (initRequest 1),
  .submit (setAppConfigRequest 1 1 [appConfigMaxNumberOfMeasurements,2,2,0]),
  .submit (startRequest 1), .tick 2000, .submit (stopRequest 1), .submit (startRequest 1),
  .dequeue, .dequeue, .dequeue, .dequeue, .tick 2000]

theorem spending_run_budgets :
    Runs.Along Logged.step (fun l op => l.CountsMeasurements op ∧
      l.AtTick op (fun e elapsedMs i log => e.Measured elapsedMs i →
        e.WithinBudget elapsedMs i log)) (Logged.init defaultProfile .rangingStream) spendingRun :=
  measurement_budgets defaultProfile spendingRun (by decide +kernel)

end UciSim
