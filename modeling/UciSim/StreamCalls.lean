import UciSim.MeasurementMoves
import UciSim.StreamSteps

/-!
# The calls of a run that streams

A start puts the whole burst of a stream on its way, a call that does not interrupt it takes
it on, and a stream that is over stays so.
-/

set_option autoImplicit false

namespace UciSim

/-- What the whole run of a stream rests on. -/
structure Device.FreeToStream (d : Device) : Prop where
  settled : d.Settled
  scenario : d.scenario = .rangingStream
  template : ¬ d.profile.BrokenTemplate

/-- The call is no packet that interrupts the stream of the session. -/
def Op.Interrupts (sessionId : UInt32) : Op → Prop
  | .submit request => request.Interrupts sessionId
  | _ => False

instance (sessionId : UInt32) : (op : Op) → Decidable (op.Interrupts sessionId)
  | .submit request => inferInstanceAs (Decidable (request.Interrupts sessionId))
  | .tick _ => isFalse id
  | .dequeue => isFalse id

/-- The call finds room and does not interrupt the stream. -/
def Run.LetsStream (sessionId : UInt32) (r : Run) (op : Op) : Prop :=
  r.Uncongested op ∧ ¬ op.Interrupts sessionId

instance (sessionId : UInt32) (r : Run) (op : Op) : Decidable (r.LetsStream sessionId op) :=
  inferInstanceAs (Decidable (_ ∧ _))

section

variable {d d' : Device} {i : Fin maxSessions} {sessionId base count : UInt32}
  {burst made intervalMs time place turns : ℕ} {request : Packet} {op : Op} {ns p : List Packet}

theorem Device.Streamed.fewer
    (h : d.Streamed i sessionId base burst made intervalMs time place turns) :
    d.Streamed i sessionId base burst made intervalMs time place 0 := by
  cases h with
  | waits place' nearer turn still => exact .waits place' nearer (fun _ => nearer) still
  | measures next => exact .measures next
  | completes done => exact .completes done
  | ends taken few done => exact .ends taken few done

theorem closing_streams {flushes : Bool} {response : Option Packet} {posting : Posting}
    {d₁ : Device} (hf : d.FreeToStream) (hserved : Served d request response posting d₁)
    (hidle : d₁.pendingNotifications = [])
    (hr : d₁.Ranges i sessionId base burst made intervalMs time place)
    (hticked : Ticked d₁ 0 flushes ns d') :
    d'.Streamed i sessionId base burst made intervalMs time place 0 := by
  obtain ⟨hprofile,hscenario⟩ := served_frame hserved
  exact (ticked_streams (served_settled hf.settled hserved hidle)
    (hscenario.trans hf.scenario) (hprofile ▸ hf.template) hr hticked).fewer

theorem called_streams (hf : d.FreeToStream)
    (hr : d.Ranges i sessionId base burst made intervalMs time place) (h : Called d op ns d')
    (hpending : d'.pendingNotifications = []) (hop : ¬ op.Interrupts sessionId) :
    d'.Streamed i sessionId base burst made intervalMs (time-op.elapsedMs) place op.turns := by
  have hkept : ∀ {request response posting d₁}, op = .submit request →
      Served d request response posting d₁ →
        d₁.Ranges i sessionId base burst made intervalMs time place := by
    rintro request response posting d₁ rfl served
    have hspares := served_spares_stream hf.settled.profile hf.settled.distinct hr.allocated
      hr.active (by rwa [hr.named]) served
    exact hr.kept hspares (served_frame served).1
  cases h with
  | refused | dequeued => exact .waits place (Nat.le_refl _) (fun _ => Nat.le_refl _) hr
  | silent request response posting _ p served =>
    exact .waits place (Nat.le_refl _) (fun _ => Nat.le_refl _) (hkept rfl served)
  | answered request response posting d₁ flushes ms _ p served handled ticks ticked =>
    have hidle := (ticked_frame ticked).2.2.symm.trans hpending
    exact closing_streams hf served hidle (hkept rfl served) ticked
  | ticked elapsedMs flushes ns _ ticked =>
    exact ticked_streams hf.settled hf.scenario hf.template hr ticked

theorem entered_schedules (hscenario : d.scenario = .rangingStream)
    (hburst : d.profile.rangingStreamBurstCount ≠ 0)
    (hroom : d.scheduledEvents.length < maxScenarioEvents)
    (hid : (d.sessions i).sessionId = sessionId) :
    (d.entered sessionStart i sessionStateActive).profile = d.profile ∧
      (d.entered sessionStart i sessionStateActive).scheduledEvents = d.scheduledEvents ++
        [⟨.rangeData,sessionId,(d.sessions i).getRangingIntervalMs d.profile⟩] := by
  have hstream : ¬ (d.profile.rangingStreamBurstCount = 0 ∨
      d.scheduledEvents.length ≥ maxScenarioEvents) :=
    fun h => h.elim hburst (Nat.not_le_of_lt hroom)
  unfold Device.entered Device.reactToTransition
  rw [if_pos rfl, started_eq, if_pos (by exact hscenario)]
  refine ⟨rfl,?_⟩
  show streamEvents _ i = _
  unfold streamEvents
  rw [if_neg (by exact hstream), Device.setSession_same, entering_id, hid]
  show _ ++ [ScheduledEvent.mk _ _ (Session.getRangingIntervalMs _ d.profile)] = _
  rw [entering_interval]
  rfl

/-- A start that finds room in the event queue, with no earlier event of its session left, puts
the whole burst on its way. -/
theorem started_ranges (hf : d.FreeToStream) (hstarts : Starts d request i)
    (hburst : d.profile.rangingStreamBurstCount ≠ 0)
    (hroom : d.scheduledEvents.length < maxScenarioEvents)
    (hstale : ∀ event ∈ d.scheduledEvents,
      event.key ≠ (.rangeData,readU32Le request.payload 0))
    (hinterval : ((d.sessions i).getRangingIntervalMs d.profile).toNat ≤ intervalMs)
    (hhandled : (d.handlePacket request).2.device = d'.withPending p) :
    d'.Ranges i (readU32Le request.payload 0) (d.sessions i).rangingCount
      d.profile.rangingStreamBurstCount.toNat 0 intervalMs intervalMs (maxScenarioEvents-1) := by
  obtain ⟨hallocated,hid⟩ := Device.find_session_some hstarts.1.2.2.2.2.2.1
  obtain ⟨t,q,hlisted,hdevice⟩ := moves_entered (Or.inl rfl) hstarts.1 (fun _ => hstarts.2)
  rw [(hf.settled.profile.start t hlisted).1, hhandled] at hdevice
  obtain ⟨hcount,-,-,hstill⟩ := entering_forgets (d := d) (i := i)
    (Or.inl (rfl : sessionStart = sessionStart)) sessionStateActive
  have hentering := entering_id d sessionStart i sessionStateActive
  have hsession : d'.sessions i = (d.entering sessionStart i sessionStateActive).startStream
      d.profile.rangingStreamBurstCount := by
    have hsessions := congrFun (congrArg Device.sessions hdevice) i
    rw [Device.withPending_sessions, Device.withPending_sessions, entered_started,
      if_pos hf.scenario] at hsessions
    exact hsessions
  have hentered := entered_schedules hf.scenario hburst hroom hid
  have hprofile : d'.profile = d.profile := (congrArg Device.profile hdevice).trans hentered.1
  have hevents := (congrArg Device.scheduledEvents hdevice).trans hentered.2
  have hpace : ((d'.sessions i).getRangingIntervalMs d'.profile).toNat ≤ intervalMs := by
    have hstream : ((d.entering sessionStart i sessionStateActive).startStream
        d.profile.rangingStreamBurstCount).getRangingIntervalMs d.profile =
          (d.sessions i).getRangingIntervalMs d.profile :=
      (Session.interval_of_configs rfl _).trans
        (entering_interval d sessionStart i sessionStateActive _)
    rw [hsession, hprofile, hstream]
    exact hinterval
  constructor
  · rw [hsession]
    exact hstill.trans hallocated
  · rw [hsession]
    exact hentering.trans hid
  · rw [hsession]
    exact congrArg Slot.state (entering_slot d sessionStart i sessionStateActive)
  · exact Nat.pos_of_ne_zero fun h => hburst (UInt8.toNat_inj.mp h)
  · rw [hsession]
    exact Nat.zero_add _
  · rw [hsession, show UInt32.ofNat 0 = 0 from rfl, UInt32.add_zero]
    exact hcount
  · exact hpace
  · rw [show d'.scheduledEvents = _ from hevents]
    exact Awaited.awaits_mono (Awaited.awaits_append hstale rfl) hinterval
      (Nat.le_sub_one_of_lt hroom)

theorem called_started (hf : d.FreeToStream) (hstarts : Starts d request i)
    (hburst : d.profile.rangingStreamBurstCount ≠ 0)
    (hroom : d.scheduledEvents.length < maxScenarioEvents)
    (hstale : ∀ event ∈ d.scheduledEvents,
      event.key ≠ (.rangeData,readU32Le request.payload 0))
    (hinterval : ((d.sessions i).getRangingIntervalMs d.profile).toNat ≤ intervalMs)
    (h : Called d (.submit request) ns d') (hpending : d'.pendingNotifications = []) :
    d'.Streamed i (readU32Le request.payload 0) (d.sessions i).rangingCount
      d.profile.rangingStreamBurstCount.toNat 0 intervalMs intervalMs (maxScenarioEvents-1) 0 := by
  cases h with
  | refused _ data command => exact absurd hstarts.1.1 command
  | silent _ response posting _ p served handled =>
    exact .waits _ (Nat.le_refl _) (fun _ => Nat.le_refl _)
      (started_ranges hf hstarts hburst hroom hstale hinterval handled)
  | answered _ response posting d₁ flushes ms _ p served handled ticks ticked =>
    have hidle := (ticked_frame ticked).2.2.symm.trans hpending
    exact closing_streams hf served hidle
      (started_ranges hf hstarts hburst hroom hstale hinterval handled) ticked

theorem Device.StreamDone.kept (h : d.StreamDone i sessionId count) (hs : d.SparesStream d' i) :
    d'.StreamDone i sessionId count := by
  have hkey : (d.sessions i).rangeKey = (.rangeData,sessionId) :=
    congrArg (Prod.mk EventType.rangeData) h.named.2
  have hevents := hs.events.2
  rw [hkey] at hevents
  exact ⟨⟨(congrArg Stream.allocated hs.stream).trans h.named.1,
      (congrArg Stream.sessionId hs.stream).trans h.named.2⟩,
    (congrArg Stream.state hs.stream).trans h.active,
    (congrArg Stream.remaining hs.stream).trans h.remaining,
    (congrArg Stream.count hs.stream).trans h.counted,hevents h.none⟩

theorem ticked_stays_done {elapsedMs : UInt32} {flushes : Bool} (hd : d.DistinctIds)
    (hdone : d.StreamDone i sessionId count) (h : Ticked d elapsedMs flushes ns d') :
    d'.StreamDone i sessionId count := by
  have haged : (d.tickEvents elapsedMs).StreamDone i sessionId count :=
    ⟨hdone.named,hdone.active,hdone.remaining,hdone.counted,
      Awaited.absent_aged (fun _ => rfl) hdone.none⟩
  cases h with
  | waiting => exact haged
  | served event d₁ _ _ _ ready fired =>
    obtain ⟨hready,rfl⟩ := Device.dequeue_ready_event_some ready
    have hkey := haged.none event (List.mem_of_find?_eq_some hready)
    have hleft : ((d.tickEvents elapsedMs).withEvents
        ((d.tickEvents elapsedMs).scheduledEvents.eraseP
          (fun event => event.delayMs == 0))).StreamDone i sessionId count :=
      ⟨haged.named,haged.active,haged.remaining,haged.counted,
        fun e he => haged.none e (List.mem_of_mem_eraseP he)⟩
    rw [← haged.named.2] at hkey
    exact hleft.kept (fired_beside (by exact hd) hleft.named.1 hkey fired)

theorem called_stays_done (hs : d.Settled) (hdone : d.StreamDone i sessionId count)
    (h : Called d op ns d') (hpending : d'.pendingNotifications = [])
    (hop : ¬ op.Interrupts sessionId) : d'.StreamDone i sessionId count := by
  have hkept : ∀ {request response posting d₁}, op = .submit request →
      Served d request response posting d₁ → d₁.StreamDone i sessionId count := by
    rintro request response posting d₁ rfl served
    exact hdone.kept (served_spares_stream hs.profile hs.distinct hdone.named.1 hdone.active
      (by rwa [hdone.named.2]) served)
  cases h with
  | refused | dequeued => exact hdone
  | silent request response posting _ p served => exact hkept rfl served
  | answered request response posting d₁ flushes ms _ p served handled ticks ticked =>
    have hidle := (ticked_frame ticked).2.2.symm.trans hpending
    exact ticked_stays_done (served_settled hs served hidle).distinct (hkept rfl served) ticked
  | ticked elapsedMs flushes ns _ ticked => exact ticked_stays_done hs.distinct hdone ticked

end

end UciSim
