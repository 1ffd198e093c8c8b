import UciSim.Measurements
import UciSim.TickFailures

/-!
# What a measurement reports

With nothing waiting a measurement is taken unless its notification cannot be built. Its tick
then produces the notification, if it is due, and the end of the session that has spent its
budget, which leaves the session without an event.
-/

set_option autoImplicit false

namespace UciSim

open Exchange

namespace Device

def report (d : Device) (i : Fin maxSessions) : List Packet :=
  if (d.samplePolicy i).shouldEmitNotification then
    (buildRangeDataNotification d.profile
      { initRangingSample d.profile (d.sessions i) with sequenceNumber := d.nextRangingSequence }
      (d.samplePolicy i) d.profile.rangeDataNotificationOid).toList
  else []

/-- What the measurement says about the end of the session. -/
def ending (d : Device) (i : Fin maxSessions) : List Packet :=
  if (d.counted i).budgetSpent then [idleStatus (d.sessions i)] else []

end Device

theorem queue_notification_room {x : Exchange} (n : Packet)
    (h : x.device.pendingNotifications.length < maxPendingNotifications) :
    x.queueNotification n = (.ok,{ x with
      device := x.device.withPending (x.device.pendingNotifications ++ [n])
      accepted := x.accepted ++ [n] }) := if_neg (Nat.not_le.mpr h)

namespace Device

/-- The exchange has emitted the packets and nothing else about the sessions or the events. -/
structure Emitted (d : Device) (ns : List Packet) (x : Exchange) : Prop where
  accepted : x.accepted = ns
  pending : x.device.pendingNotifications = ns
  events : x.device.scheduledEvents = d.scheduledEvents
  sessions : x.device.sessions = d.sessions

theorem report_length (d : Device) (i : Fin maxSessions) : (d.report i).length ≤ 1 := by
  unfold report
  split
  · cases buildRangeDataNotification d.profile _ (d.samplePolicy i)
        d.profile.rangeDataNotificationOid with
    | none => exact Nat.zero_le _
    | some _ => exact Nat.le_refl _
  · exact Nat.zero_le _

theorem sample_emitted {d : Device} {i : Fin maxSessions} (hidle : d.pendingNotifications = [])
    (hbuilds : d.Notifiable i) :
    ∃ x, (start d).emitRangeData (initRangingSample d.profile (d.sessions i)) (d.samplePolicy i) =
      (.ok,x) ∧ d.Emitted (d.report i) x := by
  unfold report
  by_cases hemit : (d.samplePolicy i).shouldEmitNotification = true
  · have hlen := hbuilds hemit
    rcases build_range_data_some d.profile
      { initRangingSample d.profile (d.sessions i) with sequenceNumber := d.nextRangingSequence }
      (d.samplePolicy i) d.profile.rangeDataNotificationOid
      (not_or.mpr ⟨hlen.1,Nat.not_lt.mpr hlen.2⟩) with ⟨payload,hbuild⟩
    have hroom : (start (d.withSequence (d.nextRangingSequence+1))).device.pendingNotifications =
      [] := hidle
    rw [emit_range_data_eq _ _ _ hemit, hbuild, if_pos hemit]
    dsimp only
    rw [queue_notification_room _ (by rw [hroom]; decide), hroom]
    exact ⟨_,rfl,⟨rfl,rfl,rfl,rfl⟩⟩
  · rw [show (start d).emitRangeData (initRangingSample d.profile (d.sessions i))
      (d.samplePolicy i) = (.ok,start d) from if_neg hemit, if_neg hemit]
    exact ⟨_,rfl,⟨rfl,hidle,rfl,rfl⟩⟩

structure Measuring (d : Device) (i : Fin maxSessions) (x : Exchange) : Prop where
  session : x.device.sessions i = d.measured i
  accepted : x.accepted = d.report i ++ d.ending i
  events : (d.counted i).budgetSpent = true →
    ∀ event ∈ x.device.scheduledEvents, event.sessionId ≠ (d.sessions i).sessionId

theorem ranging_measured {d : Device} {i : Fin maxSessions} (hidle : d.pendingNotifications = [])
    (hsampling : d.Sampling i) (hbuilds : d.Notifiable i) :
    ∃ x, (start d).emitRangingStream i = (.ok,x) ∧ d.Measuring i x := by
  rcases sample_emitted hidle hbuilds with ⟨x,hx,hemitted⟩
  have hactive : ¬ (d.scenario ≠ .rangingStream ∨ (d.sessions i).rangingStreamRemaining = 0 ∨
      (d.sessions i).state ≠ sessionStateActive) := by
    rcases hsampling.1 with ⟨hscenario,hremaining,hstate⟩
    exact not_or.mpr ⟨not_not.mpr hscenario,not_or.mpr ⟨hremaining,not_not.mpr hstate⟩⟩
  unfold emitRangingStream
  dsimp only
  rw [show (start d).device = d from rfl, if_neg hactive,
    if_neg (by rw [hsampling.2]; exact Bool.false_ne_true),
    show evaluateRangeNotificationPolicy (d.sessions i)
      (initRangingSample d.profile (d.sessions i)) = d.samplePolicy i from rfl, hx]
  dsimp only
  rw [show (d.sessions i).countMeasurement (d.samplePolicy i) = d.counted i from rfl]
  have hcounted : (x.setSession i (d.counted i)).device.sessions i = d.counted i :=
    Device.setSession_same _ _ _
  cases hdone : (d.counted i).budgetSpent with
  | false =>
    rw [if_neg Bool.false_ne_true]
    refine ⟨_,rfl,⟨?_,?_,?_⟩⟩
    · rw [hcounted, measured, hdone]
      exact (if_neg Bool.false_ne_true).symm
    · rw [ending, hdone, if_neg Bool.false_ne_true, List.append_nil]
      exact hemitted.accepted
    · intro hspent
      cases hdone.symm.trans hspent
  | true =>
    have hroom : ((x.setSession i (d.counted i)).mapDevice
        (fun d => d.rangingFinished i)).device.pendingNotifications = d.report i :=
      hemitted.pending
    rw [if_pos rfl, finish_ranging_eq, queue_notification_room _ (by
      rw [hroom]
      exact (d.report_length i).trans_lt (by decide)), hroom, hcounted]
    refine ⟨_,rfl,⟨?_,?_,?_⟩⟩
    · rw [measured, hdone, if_pos rfl]
      refine (Device.setSession_same _ _ _).trans ?_
      rw [hcounted]
    · rw [ending, hdone, if_pos rfl]
      exact congrArg (fun ns => ns ++ [idleStatus (d.sessions i)]) hemitted.accepted
    · intro _ event hevent
      have hkept := (List.mem_filter.mp hevent).2
      rw [hcounted] at hkept
      rw [show (d.counted i).sessionId = (d.sessions i).sessionId from rfl] at hkept
      simpa using hkept

end Device

namespace Engine

/-- The tick takes the measurement of the session at slot `i` and does not fail. -/
def Takes (e : Engine) (elapsedMs : UInt32) (i : Fin maxSessions) : Prop :=
  e.Samples elapsedMs i ∧ (e.tick elapsedMs).rc = .ok

instance (e : Engine) (elapsedMs : UInt32) (i : Fin maxSessions) :
    Decidable (e.Takes elapsedMs i) := inferInstanceAs (Decidable (_ ∧ _))

structure Takings (e : Engine) (elapsedMs : UInt32) (i : Fin maxSessions) : Prop where
  session : (e.tick elapsedMs).engine.device.sessions i = e.device.measured i
  produced : (e.tick elapsedMs).produced = e.device.report i ++ e.device.ending i
  events : (e.device.counted i).budgetSpent = true →
    ∀ event ∈ (e.tick elapsedMs).engine.device.scheduledEvents,
      event.sessionId ≠ (e.device.sessions i).sessionId

variable {e : Engine} {elapsedMs : UInt32} {i : Fin maxSessions}

theorem sampling_tick (h : e.Samples elapsedMs i) : ∃ events, e.tick elapsedMs =
    processRangeData ⟨e.device.withEvents events,e.outboundPackets⟩ i := by
  rcases h with ⟨event,hfind,htype,hfound,-⟩
  have hready : (e.device.tickEvents elapsedMs).dequeueReadyEvent =
      some (event,(e.device.tickEvents elapsedMs).withEvents
        ((e.device.tickEvents elapsedMs).scheduledEvents.eraseP
          (fun event => event.delayMs == 0))) := by
    unfold Device.dequeueReadyEvent
    rw [hfind]
    rfl
  refine ⟨(e.device.tickEvents elapsedMs).scheduledEvents.eraseP (fun event => event.delayMs == 0),
    ?_⟩
  unfold tick
  dsimp only
  rw [hready]
  unfold processReadyEvent
  dsimp only
  rw [htype]
  dsimp only
  rw [show ((e.device.tickEvents elapsedMs).withEvents ((e.device.tickEvents
    elapsedMs).scheduledEvents.eraseP (fun event => event.delayMs == 0))).findSession
      event.sessionId = some i from hfound]
  rfl

theorem ranging_takings {d : Device} {x : Exchange} (outbound : List Packet)
    (hx : (start d).emitRangingStream i = (.ok,x)) (hmeasuring : d.Measuring i x) :
    (processRangeData ⟨d,outbound⟩ i).engine.device.sessions i = d.measured i ∧
      ((d.counted i).budgetSpent = true →
        ∀ event ∈ (processRangeData ⟨d,outbound⟩ i).engine.device.scheduledEvents,
          event.sessionId ≠ (d.sessions i).sessionId) := by
  constructor
  · rw [process_range_data_sessions, hx]
    exact hmeasuring.session
  · intro hspent
    unfold processRangeData
    rw [hx]
    dsimp only
    have hflushed : (flushDeviceNotifications ⟨x.device,outbound⟩).device.sessions i =
        d.measured i := by
      rw [flush_sessions]
      exact hmeasuring.session
    have hover : (d.measured i).rangingStreamRemaining = 0 := by
      rw [Device.measured, if_pos hspent]
      rfl
    rw [if_neg (by rw [hflushed, hover]; exact fun h => absurd h.1 (by decide)), flush_events]
    exact hmeasuring.events hspent

theorem tick_takings (hidle : e.device.pendingNotifications = []) (hs : e.Samples elapsedMs i)
    (hbuilds : e.device.Notifiable i) : e.Takings elapsedMs i := by
  rcases sampling_tick hs with ⟨events,htick⟩
  rcases hs with ⟨-,-,-,-,hsampling⟩
  have hwith : (e.device.withEvents events).Sampling i := hsampling
  rcases Device.ranging_measured (d := e.device.withEvents events) hidle hwith hbuilds with
    ⟨x,hx,hmeasuring⟩
  rcases ranging_takings e.outboundPackets hx hmeasuring with ⟨hsession,hevents⟩
  rw [← htick] at hsession hevents
  refine ⟨hsession,?_,hevents⟩
  rw [htick, process_range_data_produced, hx]
  exact hmeasuring.accepted

/-- A measurement that is due is taken exactly when its notification can be built. -/
theorem takes_iff (hbounded : e.device.Bounded) (hidle : e.device.pendingNotifications = [])
    (hs : e.Samples elapsedMs i) : e.Takes elapsedMs i ↔ e.device.Notifiable i := by
  have hfits := (e.tick_ok elapsedMs hbounded).trans (Device.Prompt.fits (Or.inr hidle) elapsedMs)
  unfold Takes
  rw [hfits]
  have hsampling := hs
  rcases hs with ⟨event,hfind,htype,hfound,hmeasures,hspent⟩
  constructor
  · intro hsafe
    exact (hsafe.2 event hfind i hfound).1 htype hmeasures hspent
  · intro hbuilds
    refine ⟨hsampling,?_⟩
    intro event' hfind' j hfound'
    cases (hfind.symm.trans hfind' : some event = some event')
    cases (hfound.symm.trans hfound' : some i = some j)
    exact ⟨fun _ _ _ => hbuilds,fun htransfer => absurd (htype.symm.trans htransfer) (by decide)⟩

theorem measured_iff (hbounded : e.device.Bounded) (hidle : e.device.pendingNotifications = []) :
    e.Measured elapsedMs i ↔ e.Takes elapsedMs i := by
  constructor
  · intro hmeasured
    rcases e.tick_session elapsedMs i with hrests | ⟨hsamples,hbuilds,-⟩
    · exact absurd hrests.measurements.count hmeasured
    · exact (takes_iff hbounded hidle hsamples).mpr hbuilds
  · intro htakes
    have hbuilds := (takes_iff hbounded hidle htakes.1).mp htakes
    unfold Measured
    rw [(tick_takings hidle htakes.1 hbuilds).session, Device.measured_count]
    simp

end Engine

end UciSim
