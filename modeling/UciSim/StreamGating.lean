import UciSim.RangingNumbers
import UciSim.SampledDistances

/-!
# Which measurements of a stream are notified

The policy of a measurement looks at the mode and the bounds in force and at the status the
session remembers, which is that of the last measurement in its log.
-/

set_option autoImplicit false

namespace UciSim

open Session

/-- The parameter is stored with the two bytes of the value. -/
def Session.HoldsU16 (session : Session) (configId : UInt8) (value : UInt16) : Prop :=
  ∃ b0 b1, session.getConfig configId = some [b0,b1] ∧ readU16Le [b0,b1] 0 = value

theorem Session.HoldsU16.read {session : Session} {reader : Reader} {value : UInt16}
    (h : session.HoldsU16 reader.configId value) (fallback : UInt16) :
    session.readU16 reader fallback = value := by
  rcases h with ⟨b0,b1,hget,hvalue⟩
  unfold readU16 Session.read
  rw [hget]
  exact hvalue

/-- The session stores a mode of one byte and bounds of two bytes. -/
structure Session.Notifies (session : Session) (mode : UInt8) (near far : UInt16) : Prop where
  mode : session.getConfig appConfigSessionInfoNtfConfig = some [mode]
  near : session.HoldsU16 appConfigRngDataNtfProximityNear near
  far : session.HoldsU16 appConfigRngDataNtfProximityFar far

theorem Session.Notifies.gets {session : Session} {mode : UInt8} {near far : UInt16}
    (h : session.Notifies mode near far) : session.getRangeDataNtfConfig = mode ∧
      session.getRangeDataNtfProximityNear = near ∧
      session.getRangeDataNtfProximityFar = far := by
  refine ⟨?_,h.near.read 0,h.far.read 0xFFFF⟩
  unfold getRangeDataNtfConfig readU8 Session.read
  rw [show sessionInfoNtfConfigReader.configId = appConfigSessionInfoNtfConfig from rfl, h.mode]

/-- The status differs from the last one, if there is one. -/
def Crosses (last : Option Bool) (inside : Bool) : Prop := ∃ status ∈ last, status ≠ inside

theorem Session.crosses_iff (session : Session) (inside : Bool) :
    Crosses session.lastStatus inside ↔
      (session.hasLastProximityState && session.lastInProximityRange != inside) = true := by
  unfold Crosses lastStatus
  cases session.hasLastProximityState with
  | false => simp
  | true => simp

theorem sample_policy_emits (d : Device) (i : Fin maxSessions) :
    (d.samplePolicy i).shouldEmitNotification =
      if (d.sessions i).getRangeDataNtfConfig = 0x00 then false
      else if (d.sessions i).getRangeDataNtfConfig = 0x02 then decide (d.Inside i)
      else if (d.sessions i).getRangeDataNtfConfig = 0x05 then
        (d.sessions i).hasLastProximityState &&
          (d.sessions i).lastInProximityRange != decide (d.Inside i)
      else true := by
  rw [← d.sample_policy_inside]
  rfl

namespace Engine

/-- The tick makes a notification of a measurement. -/
def Reports (e : Engine) (elapsedMs : UInt32) : Prop :=
  ∃ n ∈ (e.tick elapsedMs).produced, n.IsRangeData e.device.profile

/-- What the mode says about a measurement at the distance, after those in the log. -/
structure Gated (e : Engine) (elapsedMs : UInt32) (log : MeasurementLog) (distance : UInt16)
    (mode : UInt8) (near far : UInt16) : Prop where
  never : mode = 0 → ¬ e.Reports elapsedMs
  inside : mode = 2 → (e.Reports elapsedMs ↔ near ≤ distance ∧ distance ≤ far)
  edges : mode = 5 → (e.Reports elapsedMs ↔
    Crosses log.statuses.getLast? (decide (near ≤ distance ∧ distance ≤ far)))
  always : mode ≠ 0 → mode ≠ 2 → mode ≠ 5 → e.Reports elapsedMs

/-- The measurements that are due are taken if they can be notified at all, the ones that are taken
are counted, and notified as the parameters in force say. -/
structure StreamsGated (e : Engine) (elapsedMs : UInt32) (i : Fin maxSessions)
    (log : MeasurementLog) : Prop where
  due : e.Samples elapsedMs i → e.device.profile.BuildsRangeData → e.Takes elapsedMs i
  counts : e.Measured elapsedMs i ↔ e.Takes elapsedMs i
  advances : e.Takes elapsedMs i → ((e.tick elapsedMs).engine.device.sessions i).rangingCount =
    (e.device.sessions i).rangingCount+1
  gated : e.Takes elapsedMs i → ∀ mode near far, (e.device.sessions i).Notifies mode near far →
    e.Gated elapsedMs log (e.distance i) mode near far

variable {e : Engine} {elapsedMs : UInt32} {i : Fin maxSessions} {log : MeasurementLog}

theorem report_range_data {d : Device} (hbuilds : d.Notifiable i) :
    (∃ n ∈ d.report i, n.IsRangeData d.profile) ↔
      (d.samplePolicy i).shouldEmitNotification = true := by
  unfold Device.report
  by_cases hemit : (d.samplePolicy i).shouldEmitNotification = true
  · rcases Exchange.build_range_data_some d.profile
      { initRangingSample d.profile (d.sessions i) with sequenceNumber := d.nextRangingSequence }
      (d.samplePolicy i) d.profile.rangeDataNotificationOid
      (not_or.mpr ⟨(hbuilds hemit).1,Nat.not_lt.mpr (hbuilds hemit).2⟩) with ⟨payload,hbuild⟩
    rw [if_pos hemit, hbuild]
    exact iff_of_true ⟨_,List.mem_singleton.mpr rfl,rfl,rfl,rfl⟩ hemit
  · rw [if_neg hemit]
    exact iff_of_false (by rintro ⟨n,hn,-⟩; cases hn) hemit

theorem reports_iff (hidle : e.device.pendingNotifications = []) (hs : e.Samples elapsedMs i)
    (hbuilds : e.device.Notifiable i) :
    e.Reports elapsedMs ↔ (e.device.samplePolicy i).shouldEmitNotification = true := by
  rw [← report_range_data hbuilds]
  unfold Reports
  rw [(tick_takings hidle hs hbuilds).produced]
  constructor
  · rintro ⟨n,hn,hrange⟩
    rcases List.mem_append.mp hn with hn | hn
    · exact ⟨n,hn,hrange⟩
    · unfold Device.ending at hn
      split at hn
      · rw [List.mem_singleton.mp hn] at hrange
        exact absurd hrange (idle_status_unnumbered _)
      · cases hn
  · rintro ⟨n,hn,hrange⟩
    exact ⟨n,List.mem_append_left _ hn,hrange⟩

theorem gated_of_policy {mode : UInt8} {near far : UInt16}
    (hrecorded : (e.device.sessions i).lastStatus = log.statuses.getLast?)
    (hreports : e.Reports elapsedMs ↔ (e.device.samplePolicy i).shouldEmitNotification = true)
    (h : (e.device.sessions i).Notifies mode near far) :
    e.Gated elapsedMs log (e.distance i) mode near far := by
  rcases h.gets with ⟨hmode,hnear,hfar⟩
  have hinside : e.device.Inside i ↔ near ≤ e.distance i ∧ e.distance i ≤ far := by
    rw [← hnear, ← hfar]
    exact Iff.rfl
  rw [sample_policy_emits, hmode] at hreports
  constructor
  · rintro rfl
    rw [hreports, if_pos rfl]
    exact Bool.false_ne_true
  · rintro rfl
    rw [hreports, if_neg (by decide), if_pos rfl, decide_eq_true_iff]
    exact hinside
  · rintro rfl
    rw [hreports, if_neg (by decide), if_neg (by decide), if_pos rfl, ← crosses_iff, hrecorded,
      decide_eq_decide.mpr hinside]
  · intro hnever hinside hedges
    rw [hreports, if_neg hnever, if_neg hinside, if_neg hedges]

end Engine

/-- In every uncongested run of the ranging stream scenario each measurement that is taken is
counted, and notified never, inside the bounds, where its status differs from that of the
measurement before it, or always, as the session's mode says. The measurements are numbered from
the last start, stop or stored change of the mode or a bound. -/
theorem streams_gated (profile : Profile) (ops : List Op)
    (h : Run.Along profile .rangingStream Run.Uncongested ops) :
    Runs.Along Logged.step (fun l op => l.AtTick op Engine.StreamsGated)
      (Logged.init profile .rangingStream) ops := by
  refine Logged.along_quiet_ticks (by decide)
    (fun e elapsedMs i log hprofile hbounded hidle hrecorded => ?_) ops h
  have hbuilds : e.Takes elapsedMs i → e.device.Notifiable i :=
    fun htakes => (Engine.takes_iff hbounded hidle htakes.1).mp htakes
  constructor
  · exact fun hs hbuilds => (Engine.takes_iff hbounded hidle hs).mpr fun _ => hbuilds
  · exact Engine.measured_iff hbounded hidle
  · intro htakes
    rw [(Engine.tick_takings hidle htakes.1 (hbuilds htakes)).session]
    exact e.device.measured_count i
  · intro htakes mode near far hnotifies
    exact Engine.gated_of_policy hrecorded.edge
      (Engine.reports_iff hidle htakes.1 (hbuilds htakes)) hnotifies

/-- A session notified where it crosses 103 or 107 cm, whose upper bound is set anew as it
ranges. -/
def crossingRun : List Op := [.submit (initRequest 1),
  .submit (setAppConfigRequest 1 3 [appConfigSessionInfoNtfConfig,1,5,
    appConfigRngDataNtfProximityNear,2,103,0,appConfigRngDataNtfProximityFar,2,107,0]),
  .submit (startRequest 1), .tick 2000, .tick 2000, .dequeue, .dequeue, .dequeue, .dequeue,
  .submit (setAppConfigRequest 1 1 [appConfigRngDataNtfProximityFar,2,112,0]), .tick 2000]

theorem crossing_run_gated :
    Runs.Along Logged.step (fun l op => l.AtTick op Engine.StreamsGated)
      (Logged.init defaultProfile .rangingStream) crossingRun :=
  streams_gated defaultProfile crossingRun (by decide +kernel)

end UciSim
