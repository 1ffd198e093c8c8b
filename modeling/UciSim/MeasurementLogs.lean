import UciSim.ConfigHistory
import UciSim.MeasurementReports
import UciSim.StreamEvents

/-!
# The measurements of a session, counted

A log for each slot counts the measurements of its session, those since the last start, and
keeps what they said about the range since the detection of edges was reset. Whatever packets
do, the session itself remembers no more and no less.
-/

set_option autoImplicit false

namespace UciSim

open Exchange

/-- All measurements of a session, those since its last start, and the statuses since the last
start, stop or stored change of what is notified. -/
structure MeasurementLog where
  taken : ℕ
  started : ℕ
  statuses : List Bool
  deriving DecidableEq, Repr

namespace MeasurementLog

def blank : MeasurementLog := ⟨0,0,[]⟩

def start (l : MeasurementLog) : MeasurementLog := ⟨l.taken,0,[]⟩

def forget (l : MeasurementLog) : MeasurementLog := ⟨l.taken,l.started,[]⟩

def measure (l : MeasurementLog) (inside : Bool) : MeasurementLog :=
  ⟨l.taken+1,l.started+1,l.statuses ++ [inside]⟩

end MeasurementLog

/-- The parameters that decide what is notified. -/
def notifyingConfigs : List UInt8 :=
  [appConfigSessionInfoNtfConfig,appConfigRngDataNtfProximityNear,appConfigRngDataNtfProximityFar]

/-- A set request stores one of the parameters that decide what is notified. -/
def Renotifies (d : Device) (request : Packet) (i : Fin maxSessions) : Prop :=
  Sets d request i ∧ ∃ entry ∈ request.entriesFor d i, entry.1 ∈ notifyingConfigs

instance (d : Device) (request : Packet) (i : Fin maxSessions) :
    Decidable (Renotifies d request i) := inferInstanceAs (Decidable (_ ∧ _))

namespace Device

/-- The distance of the next measurement lies between the bounds of the session. -/
def Inside (d : Device) (i : Fin maxSessions) : Prop :=
  (d.sessions i).getRangeDataNtfProximityNear ≤
      (initRangingSample d.profile (d.sessions i)).distanceCm ∧
    (initRangingSample d.profile (d.sessions i)).distanceCm ≤
      (d.sessions i).getRangeDataNtfProximityFar

instance (d : Device) (i : Fin maxSessions) : Decidable (d.Inside i) :=
  inferInstanceAs (Decidable (_ ∧ _))

/-- The log of a slot that is not in use is blank. -/
def inUse (d : Device) (logs : Fin maxSessions → MeasurementLog) (i : Fin maxSessions) :
    MeasurementLog :=
  if (d.sessions i).allocated = false then .blank else logs i

/-- A start and what resets the detection of edges go into the log. -/
def advance (d : Device) (request : Packet) (logs : Fin maxSessions → MeasurementLog)
    (i : Fin maxSessions) : MeasurementLog :=
  if Starts d request i then (logs i).start
  else if Moves d request sessionStop i ∨ Renotifies d request i then (logs i).forget
  else logs i

def logged (d : Device) (request : Packet) (logs : Fin maxSessions → MeasurementLog) :
    Fin maxSessions → MeasurementLog :=
  (d.handlePacket request).2.device.inUse (d.advance request logs)

theorem sample_policy_inside (d : Device) (i : Fin maxSessions) :
    (d.samplePolicy i).inProximityRange = decide (d.Inside i) := by
  refine decide_eq_decide.mpr ?_
  constructor
  · exact fun h => h.2
  · exact fun h => ⟨UInt16.le_trans h.1 h.2,h⟩

end Device

namespace Session

def lastStatus (session : Session) : Option Bool :=
  if session.hasLastProximityState then some session.lastInProximityRange else none

structure Recorded (burst : UInt8) (session : Session) (l : MeasurementLog) : Prop where
  count : session.rangingCount = UInt32.ofNat l.taken
  budget : l.started+session.rangingStreamRemaining.toNat ≤ burst.toNat
  edge : session.lastStatus = l.statuses.getLast?
  free : session.allocated = false → l = .blank

theorem SameMeasurements.status {s s' : Session} (h : s.SameMeasurements s') :
    s'.lastStatus = s.lastStatus := by
  unfold lastStatus
  rw [h.known, h.inside]

theorem status_unknown {s : Session} (h : s.hasLastProximityState = false) :
    s.lastStatus = none := by
  rw [lastStatus, h]
  exact if_neg Bool.false_ne_true

namespace Recorded

variable {burst : UInt8} {s s' : Session} {l : MeasurementLog}

theorem remains (h : s.Recorded burst l) (hr : s'.rangingStreamRemaining =
    s.rangingStreamRemaining ∨ s'.rangingStreamRemaining = 0) :
    l.started+s'.rangingStreamRemaining.toNat ≤ burst.toNat := by
  have hbudget := h.budget
  rcases hr with hr | hr
  · rwa [hr]
  · rw [hr]
    exact (Nat.le_add_right _ _).trans hbudget

theorem unmeasured (h : s.Recorded burst l) (same : s.Unmeasured s') : s'.Recorded burst l where
  count := same.measurements.count.trans h.count
  budget := h.remains same.remaining
  edge := same.measurements.status.trans h.edge
  free ha := h.free (same.allocated.symm.trans ha)

theorem lifecycle (h : s.Recorded burst l) (same : s.SameLifecycle s') : s'.Recorded burst l :=
  h.unmeasured ⟨same.measurements,same.allocated,same.sessionId,Or.inl same.remaining⟩

theorem forgotten (h : s.Recorded burst l) (hcount : s'.rangingCount = s.rangingCount)
    (hr : s'.rangingStreamRemaining = s.rangingStreamRemaining ∨ s'.rangingStreamRemaining = 0)
    (hstatus : s'.lastStatus = none) (ha : s'.allocated = true) : s'.Recorded burst l.forget where
  count := hcount.trans h.count
  budget := h.remains hr
  edge := hstatus
  free hfree := absurd (hfree.symm.trans ha) Bool.false_ne_true

theorem started (h : s.Recorded burst l) (hcount : s'.rangingCount = s.rangingCount)
    (hr : s'.rangingStreamRemaining.toNat ≤ burst.toNat) (hstatus : s'.lastStatus = none)
    (ha : s'.allocated = true) : s'.Recorded burst l.start where
  count := hcount.trans h.count
  budget := (Nat.zero_add _).trans_le hr
  edge := hstatus
  free hfree := absurd (hfree.symm.trans ha) Bool.false_ne_true

theorem zero (burst : UInt8) : Session.zero.Recorded burst .blank :=
  ⟨rfl,Nat.zero_le _,rfl,fun _ => rfl⟩

theorem measured {d : Device} {i : Fin maxSessions} (h : (d.sessions i).Recorded burst l)
    (hsampling : d.Sampling i) (ha : (d.sessions i).allocated = true) :
    (d.measured i).Recorded burst (l.measure (decide (d.Inside i))) where
  count := by
    rw [d.measured_count i, h.count]
    exact (UInt32.ofNat_add _ _).symm
  budget := by
    have hbudget := h.budget
    have hpos : (d.sessions i).rangingStreamRemaining.toNat ≠ 0 :=
      fun hzero => hsampling.1.2.1 (UInt8.toNat_inj.mp hzero)
    have hone : (1 : UInt8).toNat = 1 := rfl
    show l.started+1+_ ≤ _
    rcases d.measured_remaining i with hr | hr
    · rw [hr, UInt8.toNat_sub_of_le _ _ (UInt8.le_iff_toNat_le.mpr (by omega))]
      omega
    · rw [hr]
      have hzero : (0 : UInt8).toNat = 0 := rfl
      omega
  edge := by
    rcases d.measured_inside i with ⟨hknown,hinside⟩
    show _ = (l.statuses ++ [decide (d.Inside i)]).getLast?
    rw [lastStatus, hknown, if_pos rfl, hinside, d.sample_policy_inside, List.getLast?_concat]
  free hfree := by
    rw [(d.measured_identity i).1, ha] at hfree
    cases hfree

end Recorded

end Session

def Device.Recorded (d : Device) (logs : Fin maxSessions → MeasurementLog) : Prop :=
  ∀ i, (d.sessions i).Recorded d.profile.rangingStreamBurstCount (logs i)

end UciSim
