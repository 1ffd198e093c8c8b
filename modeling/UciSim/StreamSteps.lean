import UciSim.StreamFrames
import UciSim.TransferRuns

/-!
# One call of a stream under way

A call leaves the stream as it is, with its event nearer, or takes the next measurement.
The stream ends with its last measurement, or before with the budget of the session.
-/

set_option autoImplicit false

namespace UciSim

namespace Device

/-- Of the `burst` measurements since the count stood at `base` the stream has taken `made`. Its
one event is due in `time` at most, behind `place` others at most. -/
structure Ranges (d : Device) (i : Fin maxSessions) (sessionId base : UInt32)
    (burst made intervalMs time place : ℕ) : Prop where
  allocated : (d.sessions i).allocated = true
  named : (d.sessions i).sessionId = sessionId
  active : (d.sessions i).state = sessionStateActive
  unfinished : made < burst
  remaining : made+(d.sessions i).rangingStreamRemaining.toNat = burst
  counted : (d.sessions i).rangingCount = base+UInt32.ofNat made
  interval : ((d.sessions i).getRangingIntervalMs d.profile).toNat ≤ intervalMs
  event : Awaited.Awaits ScheduledEvent.key ScheduledEvent.left (.rangeData,sessionId) time place
    d.scheduledEvents

/-- The stream has taken all its measurements; the session is active and has no event of it. -/
structure StreamDone (d : Device) (i : Fin maxSessions) (sessionId count : UInt32) : Prop where
  named : (d.sessions i).allocated = true ∧ (d.sessions i).sessionId = sessionId
  active : (d.sessions i).state = sessionStateActive
  remaining : (d.sessions i).rangingStreamRemaining = 0
  counted : (d.sessions i).rangingCount = count
  none : ∀ event ∈ d.scheduledEvents, event.key ≠ (.rangeData,sessionId)

/-- The measurements of the session have reached their number, and the session is idle. -/
structure BudgetDone (d : Device) (i : Fin maxSessions) (sessionId count : UInt32) : Prop where
  named : (d.sessions i).allocated = true ∧ (d.sessions i).sessionId = sessionId
  idle : (d.sessions i).state = sessionStateIdle
  spent : (d.sessions i).budgetSpent = true
  counted : (d.sessions i).rangingCount = count

/-- What becomes of a stream under way: it waits for its event with `time` left, takes the next
measurement, takes the last, or ends with the budget. -/
inductive Streamed (d : Device) (i : Fin maxSessions) (sessionId base : UInt32)
    (burst made intervalMs time place turns : ℕ) : Prop where
  | waits (place' : ℕ) (nearer : place' ≤ place) (turn : time = 0 → place'+turns ≤ place)
      (still : d.Ranges i sessionId base burst made intervalMs time place')
  | measures (next : d.Ranges i sessionId base burst (made+1) intervalMs intervalMs
      (maxScenarioEvents-1))
  | completes (done : d.StreamDone i sessionId (base+UInt32.ofNat burst))
  | ends (taken : ℕ) (few : taken ≤ burst)
      (done : d.BudgetDone i sessionId (base+UInt32.ofNat taken))

variable {d d' : Device} {i : Fin maxSessions} {sessionId base : UInt32}
  {burst made intervalMs time place : ℕ}

theorem Ranges.key (h : d.Ranges i sessionId base burst made intervalMs time place) :
    (d.sessions i).rangeKey = (.rangeData,sessionId) :=
  congrArg (Prod.mk EventType.rangeData) h.named

theorem Ranges.streaming (h : d.Ranges i sessionId base burst made intervalMs time place) :
    (d.sessions i).Streaming := by
  refine ⟨fun hzero => ?_,h.active⟩
  have hremaining := h.remaining
  have hunfinished := h.unfinished
  rw [hzero] at hremaining
  exact absurd hremaining (Nat.ne_of_lt hunfinished)

theorem Ranges.spared {time' place' : ℕ}
    (h : d.Ranges i sessionId base burst made intervalMs time place)
    (hstream : (d'.sessions i).stream = (d.sessions i).stream) (hprofile : d'.profile = d.profile)
    (hevent : Awaited.Awaits ScheduledEvent.key ScheduledEvent.left (.rangeData,sessionId)
      time' place' d'.scheduledEvents) :
    d'.Ranges i sessionId base burst made intervalMs time' place' where
  allocated := (congrArg Stream.allocated hstream).trans h.allocated
  named := (congrArg Stream.sessionId hstream).trans h.named
  active := (congrArg Stream.state hstream).trans h.active
  unfinished := h.unfinished
  remaining := by
    rw [← h.remaining]
    exact congrArg (fun s : Stream => made+s.remaining.toNat) hstream
  counted := (congrArg Stream.count hstream).trans h.counted
  interval := by
    rw [hprofile, Session.interval_of_configs (congrArg Stream.configs hstream)]
    exact h.interval
  event := hevent

theorem Ranges.withEvents {events : List ScheduledEvent} {time' place' : ℕ}
    (h : d.Ranges i sessionId base burst made intervalMs time place)
    (hevent : Awaited.Awaits ScheduledEvent.key ScheduledEvent.left (.rangeData,sessionId)
      time' place' events) :
    (d.withEvents events).Ranges i sessionId base burst made intervalMs time' place' :=
  h.spared rfl rfl hevent

theorem Ranges.mono {time' place' : ℕ}
    (h : d.Ranges i sessionId base burst made intervalMs time place) (htime : time ≤ time')
    (hplace : place ≤ place') : d.Ranges i sessionId base burst made intervalMs time' place' :=
  h.spared rfl rfl (Awaited.awaits_mono h.event htime hplace)

theorem Ranges.kept (h : d.Ranges i sessionId base burst made intervalMs time place)
    (hs : d.SparesStream d' i) (hprofile : d'.profile = d.profile) :
    d'.Ranges i sessionId base burst made intervalMs time place :=
  h.spared hs.stream hprofile ((h.key ▸ hs.events).1 time place h.event)

end Device

variable {d d' : Device} {i : Fin maxSessions} {sessionId base : UInt32}
  {burst made intervalMs time place : ℕ} {ns : List Packet}

theorem ranged_own {rc : Rc} (hscenario : d.scenario = .rangingStream)
    (ht : ¬ d.profile.BrokenTemplate) (hidle : d.pendingNotifications = [])
    (hstreaming : (d.sessions i).Streaming) (h : Ranged d i rc ns d') :
    rc = .ok ∧ ((∃ policyResult, d'.scheduledEvents = d.scheduledEvents ∧
        d'.sessions i = (d.sessions i).countMeasurement policyResult) ∨
      ∃ taken ≤ 1, (d'.sessions i).stream = { (d.sessions i).stream with
          state := sessionStateIdle, remaining := 0,
          count := (d.sessions i).rangingCount+UInt32.ofNat taken } ∧
        (d'.sessions i).budgetSpent = true) := by
  cases h with
  | idle h => exact absurd h (not_or.mpr ⟨not_not.mpr hscenario,not_not.mpr hstreaming⟩)
  | exhausted _ _ _ spent room =>
    have hsession : (d.rangingFinished i).sessions i = (d.sessions i).endStream :=
      Device.setSession_same d i _
    refine ⟨room (by rw [hidle]; decide),Or.inr ⟨0,Nat.zero_le _,?_,?_⟩⟩
    · rw [hsession, show UInt32.ofNat 0 = 0 from rfl, UInt32.add_zero]
      rfl
    · rw [hsession]
      exact spent
  | unbuilt _ _ invalid => exact absurd invalid ht
  | blocked _ _ _ _ _ full =>
    rw [hidle] at full
    exact absurd full (by decide)
  | measured _ d₁ policyResult _ _ sampled =>
    refine ⟨rfl,Or.inl ⟨policyResult,?_,Device.setSession_same _ _ _⟩⟩
    rw [Device.setSession_events, sampled_events sampled]
  | finished _ ns d₁ policyResult _ _ sampled spent room =>
    have hsession : ((d₁.setSession i
        ((d.sessions i).countMeasurement policyResult)).rangingFinished i).sessions i =
          ((d.sessions i).countMeasurement policyResult).endStream := by
      unfold Device.rangingFinished
      rw [Device.setSession_same]
      exact Device.setSession_same _ _ _
    have hroom : d.pendingNotifications.length+ns.length < maxPendingNotifications := by
      rw [hidle]
      cases sampled with
      | silent => decide
      | sent payload => exact (by decide : 0+1 < maxPendingNotifications)
    refine ⟨room hroom,Or.inr ⟨1,Nat.le_refl _,?_,?_⟩⟩
    · rw [hsession]
      rfl
    · rw [hsession]
      exact spent

/-- With the queue not full, the stream's own event takes the next measurement of the stream and
is scheduled again, or the stream is over. -/
theorem fired_streams {event : ScheduledEvent} {flushes : Bool} (hd : d.DistinctIds)
    (hscenario : d.scenario = .rangingStream) (ht : ¬ d.profile.BrokenTemplate)
    (hidle : d.pendingNotifications = []) (hroom : d.scheduledEvents.length < maxScenarioEvents)
    (ha : (d.sessions i).allocated = true) (hid : (d.sessions i).sessionId = sessionId)
    (hstreaming : (d.sessions i).Streaming) (hkey : event.key = (.rangeData,sessionId))
    (h : Fired d event flushes ns d') :
    (∃ policyResult, d'.sessions i = (d.sessions i).countMeasurement policyResult ∧
      d'.scheduledEvents = if (d.sessions i).rangingStreamRemaining = 1 then d.scheduledEvents
        else d.scheduledEvents ++
          [⟨.rangeData,sessionId,(d.sessions i).getRangingIntervalMs d.profile⟩]) ∨
      ∃ taken ≤ 1, (d'.sessions i).stream = { (d.sessions i).stream with
          state := sessionStateIdle, remaining := 0,
          count := (d.sessions i).rangingCount+UInt32.ofNat taken } ∧
        (d'.sessions i).budgetSpent = true := by
  have htype : event.type = .rangeData := congrArg Prod.fst hkey
  have hfound : d.findSession event.sessionId = some i := by
    rw [show event.sessionId = (d.sessions i).sessionId from (congrArg Prod.snd hkey).trans hid.symm]
    exact Device.find_session_of_allocated hd ha
  have hsame : ∀ {j}, d.findSession event.sessionId = some j → j = i :=
    fun hj => Option.some.inj (hj.symm.trans hfound)
  have hlast : ∀ policyResult, ((d.sessions i).countMeasurement policyResult).Streaming ↔
      (d.sessions i).rangingStreamRemaining ≠ 1 := by
    intro policyResult
    have hzero : (d.sessions i).rangingStreamRemaining-1 = 0 ↔
        (d.sessions i).rangingStreamRemaining = 1 := by
      rw [UInt8.sub_eq_iff_eq_add, UInt8.zero_add]
    exact ⟨fun hs hone => hs.1 (hzero.mpr hone),fun hone => ⟨fun h => hone (hzero.mp h),
      hstreaming.2⟩⟩
  cases h with
  | unmatched h =>
    rcases h with h | h
    · cases htype.symm.trans h
    · cases hfound.symm.trans h
  | rangingFailed j _ _ _ found ranged =>
    cases hsame found
    cases (ranged_own hscenario ht hidle hstreaming ranged).1
  | rangingOver j _ _ _ found ranged ended =>
    cases hsame found
    rcases (ranged_own hscenario ht hidle hstreaming ranged).2 with
      ⟨policyResult,hevents,hsession⟩ | hspent
    · rw [hsession, hlast, not_not] at ended
      exact Or.inl ⟨policyResult,hsession,by rw [if_pos ended, hevents]⟩
    · exact Or.inr hspent
  | rangingOn j _ d₁ _ found ranged on =>
    cases hsame found
    have hprofile := (ranged_frame ranged).2.1
    rcases (ranged_own hscenario ht hidle hstreaming ranged).2 with
      ⟨policyResult,hevents,hsession⟩ | ⟨taken,-,hstream,-⟩
    · rw [resumed_sessions]
      refine Or.inl ⟨policyResult,hsession,?_⟩
      rw [hsession, hlast] at on
      have hinterval : ((d.sessions i).countMeasurement policyResult).getRangingIntervalMs
          d₁.profile = (d.sessions i).getRangingIntervalMs d.profile := by
        rw [hprofile]
        exact Session.interval_of_configs rfl _
      unfold Device.resumed
      rw [Device.schedule_event_room _ _ _ _ (by decide) (by rw [hevents]; exact hroom), hsession,
        hinterval, if_neg on, ← hid, ← hevents]
      rfl
    · have hstate : (d₁.sessions i).state = sessionStateIdle := congrArg Stream.state hstream
      exact absurd (hstate.symm.trans on.2) (by decide)
  | transferIdle _ type | transferFailed _ _ _ type | transferOver _ _ _ type
  | transferOn _ _ _ type => cases htype.symm.trans type

theorem aged_ranges (elapsedMs : UInt32)
    (h : d.Ranges i sessionId base burst made intervalMs time place) :
    (d.tickEvents elapsedMs).Ranges i sessionId base burst made intervalMs
      (time-elapsedMs.toNat) place := by
  refine h.spared rfl rfl (Awaited.awaits_aged (fun _ => rfl) (fun event => ?_) h.event)
  unfold ScheduledEvent.left
  dsimp only
  split
  · rename_i hlate
    rw [UInt32.toNat_sub_of_le _ _ (Nat.le_of_lt hlate)]
  · exact Nat.zero_le _

theorem Device.Ranges.counts {policyResult : PolicyResult} {events : List ScheduledEvent}
    (hr : d.Ranges i sessionId base burst made intervalMs time place)
    (hsession : d'.sessions i = (d.sessions i).countMeasurement policyResult)
    (hprofile : d'.profile = d.profile)
    (hevents : d'.scheduledEvents = if (d.sessions i).rangingStreamRemaining = 1 then events else
      events ++ [⟨.rangeData,sessionId,(d.sessions i).getRangingIntervalMs d.profile⟩])
    (halone : ∀ event ∈ events, event.key ≠ (.rangeData,sessionId))
    (hroom : events.length < maxScenarioEvents) :
    d'.Streamed i sessionId base burst made intervalMs time place 1 := by
  have hremaining := hr.remaining
  have hunfinished := hr.unfinished
  have hcounted : (d.sessions i).rangingCount+1 = base+UInt32.ofNat (made+1) := by
    rw [hr.counted, UInt32.ofNat_add, UInt32.add_assoc]
    rfl
  have hleft : ((d.sessions i).rangingStreamRemaining-1).toNat =
      (d.sessions i).rangingStreamRemaining.toNat-1 :=
    UInt8.toNat_sub_of_le _ _ (show 1 ≤ (d.sessions i).rangingStreamRemaining.toNat by omega)
  by_cases hlast : (d.sessions i).rangingStreamRemaining = 1
  · have hburst : burst = made+1 := by
      rw [hlast] at hremaining
      exact hremaining.symm
    rw [if_pos hlast] at hevents
    refine .completes ⟨?_,?_,?_,?_,?_⟩
    · rw [hsession]
      exact ⟨hr.allocated,hr.named⟩
    · rw [hsession]
      exact hr.active
    · rw [hsession]
      show (d.sessions i).rangingStreamRemaining-1 = 0
      rw [hlast]
      rfl
    · rw [hsession, hburst]
      exact hcounted
    · rwa [hevents]
  · have hmore : 2 ≤ (d.sessions i).rangingStreamRemaining.toNat := by
      have hone : (d.sessions i).rangingStreamRemaining.toNat ≠ 1 :=
        fun h => hlast (UInt8.toNat_inj.mp h)
      omega
    have hinterval : (d'.sessions i).getRangingIntervalMs d'.profile =
        (d.sessions i).getRangingIntervalMs d.profile := by
      rw [hsession, hprofile]
      exact Session.interval_of_configs rfl _
    rw [if_neg hlast] at hevents
    refine .measures ⟨?_,?_,?_,by omega,?_,?_,?_,?_⟩
    · rw [hsession]
      exact hr.allocated
    · rw [hsession]
      exact hr.named
    · rw [hsession]
      exact hr.active
    · rw [hsession]
      show made+1+((d.sessions i).rangingStreamRemaining-1).toNat = burst
      omega
    · rw [hsession]
      exact hcounted
    · rw [hinterval]
      exact hr.interval
    · rw [hevents]
      exact Awaited.awaits_mono (Awaited.awaits_append halone rfl) hr.interval
        (Nat.le_sub_one_of_lt hroom)

theorem served_streams {event : ScheduledEvent} {flushes : Bool} (hs : d.Settled)
    (hscenario : d.scenario = .rangingStream) (ht : ¬ d.profile.BrokenTemplate)
    (hr : d.Ranges i sessionId base burst made intervalMs time place)
    (hready : d.scheduledEvents.find? (fun event => event.delayMs == 0) = some event)
    (hkey : event.key = (.rangeData,sessionId))
    (h : Fired (d.withEvents (d.scheduledEvents.eraseP (fun event => event.delayMs == 0))) event
      flushes ns d') :
    d'.Streamed i sessionId base burst made intervalMs time place 1 := by
  have hbounded : d.scheduledEvents.length ≤ maxScenarioEvents := hs.shape.bounded
  have hshorter := KeyedQueue.taken_length hready
  have halone : ∀ event ∈ d.scheduledEvents.eraseP (fun event => event.delayMs == 0),
      event.key ≠ (.rangeData,sessionId) := by
    have hevent := hr.event
    rw [← hkey] at hevent ⊢
    exact Awaited.awaits_taken hready hevent
  have hroom : (d.scheduledEvents.eraseP (fun event => event.delayMs == 0)).length <
      maxScenarioEvents := by omega
  have hprofile : d'.profile = d.profile := (fired_frame h).2.1
  rcases fired_streams (by exact hs.distinct) (by exact hscenario) (by exact ht)
    (by exact hs.idle) (by exact hroom) (by exact hr.allocated) (by exact hr.named)
    (by exact hr.streaming) hkey h with
    ⟨policyResult,hsession,hevents⟩ | ⟨taken,hone,hstream,hspent⟩
  · exact hr.counts hsession hprofile hevents halone hroom
  · refine .ends (made+taken) (by have := hr.unfinished; omega) ⟨⟨?_,?_⟩,?_,hspent,?_⟩
    · exact (congrArg Stream.allocated hstream).trans hr.allocated
    · exact (congrArg Stream.sessionId hstream).trans hr.named
    · exact congrArg Stream.state hstream
    · rw [UInt32.ofNat_add, ← UInt32.add_assoc, ← hr.counted]
      exact congrArg Stream.count hstream

theorem served_beside {event : ScheduledEvent} {flushes : Bool} (hd : d.DistinctIds)
    (hr : d.Ranges i sessionId base burst made intervalMs time place)
    (hready : d.scheduledEvents.find? (fun event => event.delayMs == 0) = some event)
    (hkey : event.key ≠ (.rangeData,sessionId))
    (h : Fired (d.withEvents (d.scheduledEvents.eraseP (fun event => event.delayMs == 0))) event
      flushes ns d') :
    d'.Streamed i sessionId base burst made intervalMs time place 1 := by
  have hprofile : d'.profile = d.profile := (fired_frame h).2.1
  have hkept := (Awaited.keeps_taken hready hkey).1 time place hr.event
  have hspares := fired_beside (by exact hd) (by exact hr.allocated) (by
    show event.key ≠ (d.sessions i).rangeKey
    rwa [hr.key]) h
  by_cases hdue : time = 0
  · subst hdue
    rcases Awaited.awaits_turn hready hkey due_left hr.event with ⟨hpos,hturn⟩
    exact .waits (place-1) (Nat.sub_le _ _) (fun _ => by omega)
      ((hr.withEvents hturn).kept hspares hprofile)
  · exact .waits place (Nat.le_refl _) (fun h => absurd h hdue)
      ((hr.withEvents hkept).kept hspares hprofile)

theorem ticked_streams {elapsedMs : UInt32} {flushes : Bool} (hs : d.Settled)
    (hscenario : d.scenario = .rangingStream) (ht : ¬ d.profile.BrokenTemplate)
    (hr : d.Ranges i sessionId base burst made intervalMs time place)
    (h : Ticked d elapsedMs flushes ns d') :
    d'.Streamed i sessionId base burst made intervalMs (time-elapsedMs.toNat) place 1 := by
  have haged := aged_ranges elapsedMs hr
  have hsettled : (d.tickEvents elapsedMs).Settled :=
    ⟨hs.profile,hs.prompt,hs.idle,ticked_shape hs.shape elapsedMs⟩
  cases h with
  | waiting hnone =>
    have hskip : (d.tickEvents elapsedMs).scheduledEvents.find?
        (fun event => event.delayMs == 0) = none := by
      unfold Device.dequeueReadyEvent at hnone
      split at hnone
      · assumption
      · cases hnone
    refine .waits place (Nat.le_refl _) (fun hdue => ?_) haged
    rw [hdue] at haged
    exact absurd hskip (Awaited.awaits_found due_left haged.event)
  | served event d₁ _ _ _ ready fired =>
    rcases Device.dequeue_ready_event_some ready with ⟨hready,rfl⟩
    by_cases hkey : event.key = (.rangeData,sessionId)
    · exact served_streams hsettled hscenario ht haged hready hkey fired
    · exact served_beside hsettled.distinct haged hready hkey fired

end UciSim
