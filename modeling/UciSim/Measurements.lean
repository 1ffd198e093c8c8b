import UciSim.MeasurementTimes
import UciSim.RangeDataSlots

/-!
# The measurement of a tick

A tick measures a session when it serves the event of its stream, the session streams
and its budget is not spent. The session is then counted as its policy says, and ends
with the measurement that spends the budget. All other ticks leave its count alone.
-/

set_option autoImplicit false

namespace UciSim

open Exchange

/-- What a session keeps unless it is measured. -/
structure Session.Unmeasured (s s' : Session) : Prop where
  measurements : s.SameMeasurements s'
  allocated : s'.allocated = s.allocated
  sessionId : s'.sessionId = s.sessionId
  remaining : s'.rangingStreamRemaining = s.rangingStreamRemaining ∨
    s'.rangingStreamRemaining = 0

namespace Session

theorem SameMeasurements.refl (s : Session) : s.SameMeasurements s := ⟨rfl,rfl,rfl⟩

theorem Unmeasured.refl (s : Session) : s.Unmeasured s := ⟨.refl s,rfl,rfl,Or.inl rfl⟩

theorem unmeasured_end (s : Session) : s.Unmeasured s.endStream :=
  ⟨⟨rfl,rfl,rfl⟩,rfl,rfl,Or.inr rfl⟩

end Session

namespace Device

/-- A measurement of the session at slot `i` is due and within its budget. -/
def Sampling (d : Device) (i : Fin maxSessions) : Prop :=
  d.Measures i ∧ (d.sessions i).budgetSpent = false

instance (d : Device) (i : Fin maxSessions) : Decidable (d.Sampling i) :=
  inferInstanceAs (Decidable (_ ∧ _))

/-- The measurement is not to be notified, or the notification can be built. -/
def Notifiable (d : Device) (i : Fin maxSessions) : Prop :=
  (d.samplePolicy i).shouldEmitNotification = true → d.profile.BuildsRangeData

def counted (d : Device) (i : Fin maxSessions) : Session :=
  (d.sessions i).countMeasurement (d.samplePolicy i)

/-- The session once it is measured. -/
def measured (d : Device) (i : Fin maxSessions) : Session :=
  if (d.counted i).budgetSpent then (d.counted i).endStream else d.counted i

theorem measured_count (d : Device) (i : Fin maxSessions) :
    (d.measured i).rangingCount = (d.sessions i).rangingCount+1 := by
  unfold measured
  split <;> rfl

theorem measured_inside (d : Device) (i : Fin maxSessions) :
    (d.measured i).hasLastProximityState = true ∧
      (d.measured i).lastInProximityRange = (d.samplePolicy i).inProximityRange := by
  unfold measured
  split <;> exact ⟨rfl,rfl⟩

theorem measured_identity (d : Device) (i : Fin maxSessions) :
    (d.measured i).allocated = (d.sessions i).allocated ∧
      (d.measured i).sessionId = (d.sessions i).sessionId := by
  unfold measured
  split <;> exact ⟨rfl,rfl⟩

theorem measured_remaining (d : Device) (i : Fin maxSessions) :
    (d.measured i).rangingStreamRemaining = (d.sessions i).rangingStreamRemaining-1 ∨
      (d.measured i).rangingStreamRemaining = 0 := by
  unfold measured
  split
  · exact Or.inr rfl
  · exact Or.inl rfl

end Device

theorem queue_notification_sessions (x : Exchange) (n : Packet) :
    (x.queueNotification n).2.device.sessions = x.device.sessions := by
  unfold queueNotification
  split <;> rfl

theorem finish_ranging_session (x : Exchange) (i : Fin maxSessions) :
    (x.finishRanging i).2.device.sessions i = (x.device.sessions i).endStream := by
  rw [finish_ranging_eq, queue_notification_sessions]
  exact Device.setSession_same _ _ _

theorem emit_range_data_sessions (d : Device) (sample : Measurement) (policyResult : PolicyResult) :
    ((start d).emitRangeData sample policyResult).2.device.sessions = d.sessions := by
  by_cases hemit : policyResult.shouldEmitNotification = true
  · rw [emit_range_data_eq d sample policyResult hemit]
    cases buildRangeDataNotification d.profile
        { sample with sequenceNumber := d.nextRangingSequence } policyResult
        d.profile.rangeDataNotificationOid with
    | none => rfl
    | some notification => exact queue_notification_sessions _ _
  · rw [show (start d).emitRangeData sample policyResult = (.ok,start d) from if_neg hemit]
    rfl

/-- A ranging event leaves its session unmeasured, or counts it as its policy says. -/
theorem emit_ranging_stream_session (d : Device) (i : Fin maxSessions) :
    (d.sessions i).Unmeasured (((start d).emitRangingStream i).2.device.sessions i) ∨
      (d.Sampling i ∧ d.Notifiable i ∧
        ((start d).emitRangingStream i).2.device.sessions i = d.measured i) := by
  unfold emitRangingStream
  dsimp only
  rw [show (start d).device = d from rfl]
  by_cases hidle : d.scenario ≠ .rangingStream ∨ (d.sessions i).rangingStreamRemaining = 0 ∨
      (d.sessions i).state ≠ sessionStateActive
  · rw [if_pos hidle]
    exact Or.inl (.refl _)
  rw [if_neg hidle]
  cases hspent : (d.sessions i).budgetSpent with
  | true =>
    rw [if_pos rfl, finish_ranging_session]
    exact Or.inl (Session.unmeasured_end _)
  | false =>
    rw [if_neg Bool.false_ne_true, show evaluateRangeNotificationPolicy (d.sessions i)
      (initRangingSample d.profile (d.sessions i)) = d.samplePolicy i from rfl]
    have hsessions := emit_range_data_sessions d (initRangingSample d.profile (d.sessions i))
      (d.samplePolicy i)
    have hok := emit_range_data_ok d (initRangingSample d.profile (d.sessions i)) (d.samplePolicy i)
    generalize (start d).emitRangeData (initRangingSample d.profile (d.sessions i))
      (d.samplePolicy i) = emitted at hsessions hok
    rcases emitted with ⟨rc,x⟩
    cases rc with
    | err =>
      refine Or.inl ?_
      dsimp only at hsessions ⊢
      rw [hsessions]
      exact .refl _
    | ok =>
      have hsampling : d.Sampling i := by
        refine ⟨⟨?_,?_,?_⟩,hspent⟩
        · by_contra hne
          exact hidle (Or.inl hne)
        · exact fun hzero => hidle (Or.inr (Or.inl hzero))
        · by_contra hne
          exact hidle (Or.inr (Or.inr hne))
      refine Or.inr ⟨hsampling,fun hemit => (hok.mp rfl hemit).1,?_⟩
      unfold Device.measured Device.counted
      cases hdone : ((d.sessions i).countMeasurement (d.samplePolicy i)).budgetSpent with
      | true =>
        dsimp only
        rw [if_pos rfl, if_pos rfl, finish_ranging_session]
        exact congrArg Session.endStream (Device.setSession_same _ _ _)
      | false =>
        dsimp only
        rw [if_neg Bool.false_ne_true, if_neg Bool.false_ne_true]
        exact Device.setSession_same _ _ _

theorem emit_ranging_stream_other (d : Device) {i j : Fin maxSessions} (hj : j ≠ i) :
    ((start d).emitRangingStream i).2.device.sessions j = d.sessions j := by
  rcases emit_ranging_stream_ranged d i with ⟨rc,ns,d',hranged,hout⟩
  rw [hout, Exchange.posted_device]
  show d'.sessions j = d.sessions j
  exact ranged_other hranged hj

namespace Engine

theorem flush_sessions (e : Engine) :
    e.flushDeviceNotifications.device.sessions = e.device.sessions := by
  rw [show e = e.device.carrying e.lines from rfl, flush_lines]
  rfl

theorem flush_events (e : Engine) :
    e.flushDeviceNotifications.device.scheduledEvents = e.device.scheduledEvents := by
  rw [show e = e.device.carrying e.lines from rfl, flush_lines]
  rfl

theorem schedule_next_sessions (e : Engine) (produced : List Packet) (type : EventType)
    (i : Fin maxSessions) :
    (e.scheduleNext produced type i).engine.device.sessions = e.device.sessions :=
  resumed_sessions e.device type i

theorem process_range_data_sessions (e : Engine) (i : Fin maxSessions) :
    (e.processRangeData i).engine.device.sessions =
      ((start e.device).emitRangingStream i).2.device.sessions := by
  unfold processRangeData
  cases (start e.device).emitRangingStream i with
  | mk rc x =>
    cases rc with
    | err => rfl
    | ok =>
      dsimp only
      split
      · rw [schedule_next_sessions, flush_sessions]
      · exact flush_sessions _

theorem transferred_unmeasured {d d' : Device} {i : Fin maxSessions} {rc : Rc}
    {ns : List Packet} (htransferred : Transferred d i rc ns d') (j : Fin maxSessions) :
    (d.sessions j).Unmeasured (d'.sessions j) := by
  by_cases hj : j = i
  · subst hj
    cases htransferred with
    | repeated | completed =>
      rw [Device.setSession_same]
      exact ⟨⟨rfl,rfl,rfl⟩,rfl,rfl,Or.inl rfl⟩
  · cases htransferred with
    | repeated | completed =>
      rw [Device.setSession_other _ _ hj]
      exact .refl _

theorem fired_transfer {d d' : Device} {event : ScheduledEvent} {flushes : Bool}
    {ns : List Packet} (htype : event.type = .dataTransfer) (hfired : Fired d event flushes ns d')
    (j : Fin maxSessions) : (d.sessions j).Unmeasured (d'.sessions j) := by
  have hranging : event.type ≠ .rangeData := by
    rw [htype]
    decide
  cases hfired with
  | unmatched => exact .refl _
  | transferIdle => exact .refl _
  | rangingFailed _ _ _ type => exact absurd type hranging
  | rangingOver _ _ _ type => exact absurd type hranging
  | rangingOn _ _ _ type => exact absurd type hranging
  | transferFailed _ _ _ _ _ _ transferred => exact transferred_unmeasured transferred j
  | transferOver _ _ _ _ _ _ transferred => exact transferred_unmeasured transferred j
  | transferOn _ _ _ _ _ _ transferred =>
    rw [resumed_sessions]
    exact transferred_unmeasured transferred j

/-- The tick serves the event of the session at slot `i`, whose measurement is due. -/
def Samples (e : Engine) (elapsedMs : UInt32) (i : Fin maxSessions) : Prop :=
  ∃ event ∈ (e.device.tickEvents elapsedMs).scheduledEvents.find?
      (fun event => event.delayMs == 0),
    event.type = .rangeData ∧ e.device.findSession event.sessionId = some i ∧
      e.device.Sampling i

instance (e : Engine) (elapsedMs : UInt32) (i : Fin maxSessions) :
    Decidable (e.Samples elapsedMs i) := inferInstanceAs (Decidable (∃ event, event ∈ _ ∧ _))

/-- A served event measures the session of a stream as its policy says, or leaves its count
alone. -/
theorem process_ready_event_session (e : Engine) (event : ScheduledEvent) (j : Fin maxSessions) :
    (e.device.sessions j).Unmeasured ((e.processReadyEvent event).engine.device.sessions j) ∨
      (event.type = .rangeData ∧ e.device.findSession event.sessionId = some j ∧
        e.device.Sampling j ∧ e.device.Notifiable j ∧
        (e.processReadyEvent event).engine.device.sessions j = e.device.measured j) := by
  unfold processReadyEvent
  cases htype : event.type with
  | none => exact Or.inl (.refl _)
  | rangeData =>
    cases hfound : e.device.findSession event.sessionId with
    | none => exact Or.inl (.refl _)
    | some i =>
      dsimp only
      rw [process_range_data_sessions]
      by_cases hj : j = i
      · subst hj
        rcases emit_ranging_stream_session e.device j with hrests | hmeasures
        · exact Or.inl hrests
        · exact Or.inr ⟨rfl,rfl,hmeasures⟩
      · rw [emit_ranging_stream_other e.device hj]
        exact Or.inl (.refl _)
  | dataTransfer =>
    cases hfound : e.device.findSession event.sessionId with
    | none => exact Or.inl (.refl _)
    | some i =>
      rcases process_data_transfer_fired e event i htype hfound with
        ⟨flushes,ns,d',hfired,hengine,-⟩
      refine Or.inl ?_
      dsimp only
      rw [hengine]
      exact fired_transfer htype hfired j

/-- A tick measures the session as its policy says, or leaves its count alone. -/
theorem tick_session (e : Engine) (elapsedMs : UInt32) (j : Fin maxSessions) :
    (e.device.sessions j).Unmeasured ((e.tick elapsedMs).engine.device.sessions j) ∨
      (e.Samples elapsedMs j ∧ e.device.Notifiable j ∧
        (e.tick elapsedMs).engine.device.sessions j = e.device.measured j) := by
  unfold tick
  dsimp only
  cases hready : (e.device.tickEvents elapsedMs).dequeueReadyEvent with
  | none => exact Or.inl (.refl _)
  | some ready =>
    rcases ready with ⟨event,d⟩
    rcases Device.dequeue_ready_event_some hready with ⟨hfind,hd⟩
    dsimp only
    rcases process_ready_event_session { e with device := d } event j with
      hrests | ⟨htype,hfound,hsampling,hbuilds,hmeasured⟩
    · rw [hd] at hrests ⊢
      exact Or.inl hrests
    · rw [hd] at hfound hsampling hbuilds hmeasured ⊢
      exact Or.inr ⟨⟨event,hfind,htype,hfound,hsampling⟩,hbuilds,hmeasured⟩

end Engine

end UciSim
