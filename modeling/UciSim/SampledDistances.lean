import UciSim.MeasurementRuns
import UciSim.RangeDataFields

/-!
# The simulated distances

The distance of a measurement grows with the number of measurements its session has taken
since it was opened, whatever was stopped or started in between. It is kept in sixteen bits, so
it comes back to where it was. What the tick stores and sends is that of the distance so kept.
-/

set_option autoImplicit false

namespace UciSim

open Exchange

/-- The distance after `n` measurements, not cut to its field. -/
def Profile.distanceAfter (profile : Profile) (n : ℕ) : ℕ :=
  profile.rangeDataDistanceBaseCm.toNat+n*profile.rangeDataDistanceStepCm.toNat

theorem sample_distance (profile : Profile) {session : Session} {n : ℕ}
    (h : session.rangingCount = UInt32.ofNat n) :
    (initRangingSample profile session).distanceCm.toNat = profile.distanceAfter n % 2^16 := by
  unfold initRangingSample Profile.distanceAfter
  dsimp only
  rw [h]
  simp

namespace Engine

def distance (e : Engine) (i : Fin maxSessions) : UInt16 :=
  (initRangingSample e.device.profile (e.device.sessions i)).distanceCm

/-- The tick measures the session at slot `i` at the distance: it stores whether it lies between
the bounds, it sends the notification the policy asks for of a sample at the distance and no
other, and where the fields lie apart the notification shows the distance. -/
structure MeasuresAt (e : Engine) (elapsedMs : UInt32) (i : Fin maxSessions)
    (distance : UInt16) : Prop where
  known : ((e.tick elapsedMs).engine.device.sessions i).hasLastProximityState = true
  status : ((e.tick elapsedMs).engine.device.sessions i).lastInProximityRange = true ↔
    (e.device.sessions i).getRangeDataNtfProximityNear ≤ distance ∧
      distance ≤ (e.device.sessions i).getRangeDataNtfProximityFar
  sampled : ∃ sample : Measurement, sample.distanceCm = distance ∧
    ∀ n, e.EmitsRangeData elapsedMs i n ↔
      (evaluateRangeNotificationPolicy (e.device.sessions i) sample).shouldEmitNotification = true ∧
        buildRangeDataNotification e.device.profile sample
          (evaluateRangeNotificationPolicy (e.device.sessions i) sample)
          e.device.profile.rangeDataNotificationOid = some n
  shown : e.device.profile.LaysOut →
    (e.device.samplePolicy i).emittedFieldMask &&& measFieldDistance ≠ 0 →
      ∀ n, e.EmitsRangeData elapsedMs i n →
        readU16Le n.payload e.device.profile.rangeDataMeasurementDistanceOffset.toNat = distance

/-- The measurement has the distance of its number in the session. -/
def OnCourse (profile : Profile) (e : Engine) (elapsedMs : UInt32) (i : Fin maxSessions)
    (log : MeasurementLog) : Prop :=
  e.Measured elapsedMs i →
    ∃ distance, e.MeasuresAt elapsedMs i distance ∧
      distance.toNat = profile.distanceAfter log.taken

/-- The measurement has that distance as far as sixteen bits show it, the exact one as long as
these are enough. -/
def OnCourseModulo (profile : Profile) (e : Engine) (elapsedMs : UInt32) (i : Fin maxSessions)
    (log : MeasurementLog) : Prop :=
  e.Measured elapsedMs i →
    ∃ distance, e.MeasuresAt elapsedMs i distance ∧
      distance.toNat = profile.distanceAfter log.taken % 2^16 ∧
      (distance.toNat = profile.distanceAfter log.taken ↔
        profile.distanceAfter log.taken < 2^16)

end Engine

section

variable {d : Device} {i : Fin maxSessions} {n : Packet}

theorem reports_gid (h : d.Reports i n) : n.gid = gidSessionControl := by
  unfold Device.Reports buildRangeDataNotification at h
  split at h
  · cases h
  · cases h
    rfl

theorem emitted_accepted {x : Exchange}
    (h : (start d).emitRangeData (initRangingSample d.profile (d.sessions i)) (d.samplePolicy i) =
      (.ok,x)) :
    n ∈ x.accepted ↔ (d.samplePolicy i).shouldEmitNotification = true ∧ d.Reports i n := by
  by_cases hemit : (d.samplePolicy i).shouldEmitNotification = true
  · rw [emit_range_data_eq _ _ _ hemit] at h
    unfold Device.Reports
    cases hbuild : buildRangeDataNotification d.profile
        { initRangingSample d.profile (d.sessions i) with sequenceNumber := d.nextRangingSequence }
        (d.samplePolicy i) d.profile.rangeDataNotificationOid with
    | none =>
      rw [hbuild] at h
      cases h
    | some notification =>
      rw [hbuild] at h
      dsimp only at h
      unfold queueNotification at h
      split at h
      · cases h
      · cases h
        constructor
        · intro hn
          rw [List.mem_singleton.mp hn]
          exact ⟨hemit,rfl⟩
        · rintro ⟨-,hn⟩
          cases hn
          exact List.mem_singleton.mpr rfl
  · have hsilent : (start d).emitRangeData (initRangingSample d.profile (d.sessions i))
        (d.samplePolicy i) = (.ok,start d) := if_neg hemit
    cases hsilent.symm.trans h
    exact iff_of_false nofun fun hn => hemit hn.1

theorem finish_accepted (x : Exchange) (hgid : n.gid = gidSessionControl) :
    n ∈ (x.finishRanging i).2.accepted ↔ n ∈ x.accepted := by
  rw [finish_ranging_eq]
  constructor
  · intro hn
    rcases mem_queue_accepted hn with hn | rfl
    · exact hn
    · exact absurd hgid (show gidSessionConfig ≠ gidSessionControl by decide)
  · intro hn
    unfold queueNotification
    split
    · exact hn
    · exact List.mem_append_left _ hn

theorem emit_ranging_stream_reports
    (h : (((start d).emitRangingStream i).2.device.sessions i).rangingCount ≠
      (d.sessions i).rangingCount) (hgid : n.gid = gidSessionControl) :
    n ∈ ((start d).emitRangingStream i).2.accepted ↔
      (d.samplePolicy i).shouldEmitNotification = true ∧ d.Reports i n := by
  unfold emitRangingStream at h ⊢
  dsimp only at h ⊢
  rw [show (start d).device = d from rfl] at h ⊢
  by_cases hidle : d.scenario ≠ .rangingStream ∨ (d.sessions i).rangingStreamRemaining = 0 ∨
      (d.sessions i).state ≠ sessionStateActive
  · rw [if_pos hidle] at h
    exact absurd rfl h
  rw [if_neg hidle] at h ⊢
  cases hspent : (d.sessions i).budgetSpent with
  | true =>
    rw [hspent, if_pos rfl, finish_ranging_session] at h
    exact absurd rfl h
  | false =>
    rw [hspent, if_neg Bool.false_ne_true, show evaluateRangeNotificationPolicy (d.sessions i)
      (initRangingSample d.profile (d.sessions i)) = d.samplePolicy i from rfl] at h
    rw [if_neg Bool.false_ne_true, show evaluateRangeNotificationPolicy (d.sessions i)
      (initRangingSample d.profile (d.sessions i)) = d.samplePolicy i from rfl]
    have hsessions := emit_range_data_sessions d (initRangingSample d.profile (d.sessions i))
      (d.samplePolicy i)
    cases hemitted : (start d).emitRangeData (initRangingSample d.profile (d.sessions i))
        (d.samplePolicy i) with
    | mk rc x =>
      rw [hemitted] at h hsessions
      cases rc with
      | err =>
        dsimp only at h hsessions
        rw [hsessions] at h
        exact absurd rfl h
      | ok =>
        rw [← emitted_accepted hemitted]
        dsimp only
        split
        · exact finish_accepted _ hgid
        · exact Iff.rfl

end

namespace Engine

variable {e : Engine} {elapsedMs : UInt32} {i : Fin maxSessions}

theorem emits_iff (h : e.Measured elapsedMs i) (n : Packet) :
    e.EmitsRangeData elapsedMs i n ↔
      (e.device.samplePolicy i).shouldEmitNotification = true ∧ e.device.Reports i n := by
  rcases e.tick_session elapsedMs i with hrests | ⟨hsamples,-,-⟩
  · exact absurd hrests.measurements.count h
  rcases sampling_tick hsamples with ⟨events,htick⟩
  unfold Measured at h
  rw [htick, process_range_data_sessions] at h
  have hreports := fun hgid => emit_ranging_stream_reports (d := e.device.withEvents events)
    (i := i) (n := n) h hgid
  constructor
  · rintro ⟨-,-,-,-,-,hn,hgid⟩
    rw [htick, process_range_data_produced] at hn
    exact (hreports hgid).mp hn
  · rintro ⟨hemit,hreport⟩
    have hgid := reports_gid hreport
    rcases hsamples with ⟨event,hfind,htype,hfound,-⟩
    have hready : (e.device.tickEvents elapsedMs).dequeueReadyEvent =
        some (event,(e.device.tickEvents elapsedMs).withEvents
          ((e.device.tickEvents elapsedMs).scheduledEvents.eraseP
            (fun event => event.delayMs == 0))) := by
      unfold Device.dequeueReadyEvent
      rw [hfind]
      rfl
    refine ⟨event,_,hready,htype,hfound,?_,hgid⟩
    rw [htick, process_range_data_produced]
    exact (hreports hgid).mpr ⟨hemit,hreport⟩

theorem measures_at (h : e.Measured elapsedMs i) : e.MeasuresAt elapsedMs i (e.distance i) := by
  have hemits := emits_iff h
  rcases e.tick_session elapsedMs i with hrests | ⟨-,-,hmeasured⟩
  · exact absurd hrests.measurements.count h
  rcases e.device.measured_inside i with ⟨hknown,hstatus⟩
  constructor
  · rw [hmeasured]
    exact hknown
  · rw [hmeasured, hstatus, e.device.sample_policy_inside i]
    exact decide_eq_true_iff
  · exact ⟨{ initRangingSample e.device.profile (e.device.sessions i) with
      sequenceNumber := e.device.nextRangingSequence },rfl,hemits⟩
  · intro hlays hmask n hn
    have hreport := ((hemits n).mp hn).2
    unfold Device.Reports at hreport
    rw [build_range_data_patched hlays.builds] at hreport
    cases hreport
    have hshown := (patched_decodes hlays { initRangingSample e.device.profile
      (e.device.sessions i) with sequenceNumber := e.device.nextRangingSequence }
        (e.device.samplePolicy i).emittedFieldMask).distance
    rw [if_pos hmask] at hshown
    exact hshown

end Engine

/-- In every run of the ranging stream scenario the measurement with number `n` of a session that
is opened, however often it is stopped and started, has the distance of the base and `n` steps
modulo `2^16`: the exact one as long as it is below. The status the session keeps, the gate of
the notification and the notification itself are those of the distance so reduced. -/
theorem distances_on_course (profile : Profile) (ops : List Op) :
    Runs.Along Logged.step (fun l op => l.AtTick op (fun e elapsedMs i log =>
      e.OnCourseModulo profile elapsedMs i log)) (Logged.init profile .rangingStream) ops := by
  refine Logged.along_ticks (fun e elapsedMs i log hprofile hrecorded hmeasured => ?_) ops
  have hdistance : (e.distance i).toNat = profile.distanceAfter log.taken % 2^16 := by
    unfold Engine.distance
    rw [hprofile]
    exact sample_distance profile hrecorded.count
  refine ⟨e.distance i,Engine.measures_at hmeasured,hdistance,?_⟩
  rw [hdistance]
  omega

/-- A profile whose second step does not fit any more. -/
def longStrides : Profile := { defaultProfile with rangeDataDistanceStepCm := 65535 }

def wrappingRun : List Op := [.submit (initRequest 1), .submit (startRequest 1), .tick 2000]

/-- The second measurement has no number of its own in sixteen bits, and its notification shows
another one. -/
theorem wrapping_run_off_course :
    (¬ Runs.Along Logged.step (fun l op => l.AtTick op (fun e elapsedMs i log =>
        e.OnCourse longStrides elapsedMs i log)) (Logged.init longStrides .rangingStream)
        (wrappingRun ++ [.tick 2000])) ∧
      longStrides.distanceAfter 1 = 65635 ∧
      ((Run.reached longStrides .rangingStream wrappingRun).engine.tick 2000).produced.map
        (fun n => readU16Le n.payload longStrides.rangeDataMeasurementDistanceOffset.toNat) =
          [99] := by
  refine ⟨fun h => ?_,by decide,by decide +kernel⟩
  have hlast := ((Runs.along_append _ _ _).mp h).2.1
  rcases hlast (_,2000) rfl 0 (by decide +kernel) with ⟨distance,-,hdistance⟩
  have hsecond : longStrides.distanceAfter ((Runs.run Logged.step
      (Logged.init longStrides .rangingStream) wrappingRun).before (.tick 2000) 0).taken =
        65635 := by decide +kernel
  rw [hsecond] at hdistance
  have hlt := distance.toNat_lt
  omega

end UciSim
