import UciSim.ConfigReads
import UciSim.EngineRuns
import UciSim.PacketActions
import UciSim.StreamEvents
import UciSim.General.Timers

/-!
# The pace of the ranging streams

A stream is paced when one ranging event at most carries its identifier, and that
event is not due before the interval of the session has passed. Packets and ticks
keep the pace, as long as no session starts beside an event of its own.
-/

set_option autoImplicit false

namespace UciSim

open Exchange

def ScheduledEvent.left (event : ScheduledEvent) : ℕ := event.delayMs.toNat

/-- The key of the events of the session's stream. -/
def Session.rangeKey (session : Session) : EventType × UInt32 := (.rangeData,session.sessionId)

/-- The stream of the session takes its next measurement no earlier than its interval
demands, when `since` has passed since the last one. -/
def Session.Paced (session : Session) (profile : Profile) (since : ℕ)
    (events : List ScheduledEvent) : Prop :=
  session.allocated = true → session.Streaming →
    Timers.Paced ScheduledEvent.key ScheduledEvent.left session.rangeKey
      (session.getRangingIntervalMs profile).toNat since events

/-- All that the pace of a stream depends on. -/
structure Session.SameStream (s s' : Session) : Prop where
  allocated : s'.allocated = s.allocated
  sessionId : s'.sessionId = s.sessionId
  state : s'.state = s.state
  remaining : s'.rangingStreamRemaining = s.rangingStreamRemaining
  interval : ∀ profile, s'.getRangingIntervalMs profile = s.getRangingIntervalMs profile

namespace Session

variable {s s' : Session} {profile : Profile} {since : ℕ} {events : List ScheduledEvent}

theorem interval_of_configs (h : s'.configs = s.configs) (profile : Profile) :
    s'.getRangingIntervalMs profile = s.getRangingIntervalMs profile := by
  unfold getRangingIntervalMs read getConfig
  rw [h]

theorem SameLifecycle.stream (h : s.SameLifecycle s') (hconfigs : s'.configs = s.configs) :
    s.SameStream s' :=
  ⟨h.allocated,h.sessionId,h.state,h.remaining,interval_of_configs hconfigs⟩

theorem Paced.same (h : s.Paced profile since events) (hs : s.SameStream s') :
    s'.Paced profile since events := by
  intro ha hstreaming
  have hkey : s'.rangeKey = s.rangeKey := congrArg (Prod.mk EventType.rangeData) hs.sessionId
  rw [hkey, hs.interval profile]
  refine h (hs.allocated.symm.trans ha) ⟨?_,hs.state.symm.trans hstreaming.2⟩
  rw [← hs.remaining]
  exact hstreaming.1

theorem paced_alone (profile : Profile) (since : ℕ) (h : ∀ event ∈ events, event.key ≠ s.rangeKey) :
    s.Paced profile since events := fun _ _ => Timers.paced_absent h

theorem paced_over (profile : Profile) (since : ℕ) (events : List ScheduledEvent)
    (h : s.rangingStreamRemaining = 0) : s.Paced profile since events :=
  fun _ hstreaming => absurd h hstreaming.1

theorem Paced.sublist {events' : List ScheduledEvent} (h : s.Paced profile since events)
    (hs : events'.Sublist events) : s.Paced profile since events' :=
  fun ha hstreaming => Timers.paced_sublist hs (h ha hstreaming)

theorem Paced.append_other {event : ScheduledEvent} (h : s.Paced profile since events)
    (hkey : s.allocated = true → event.key ≠ s.rangeKey) :
    s.Paced profile since (events ++ [event]) :=
  fun ha hstreaming => Timers.paced_append_other (hkey ha) (h ha hstreaming)

theorem paced_scheduled (profile : Profile) (since : ℕ)
    (h : ∀ event ∈ events, event.key ≠ s.rangeKey) :
    s.Paced profile since
      (events ++ [⟨.rangeData,s.sessionId,s.getRangingIntervalMs profile⟩]) :=
  fun _ _ => Timers.paced_append_alone h (Nat.le_add_left _ since)

end Session

/-- The streams of the device are paced; `since` is the time that has passed for each. -/
structure Device.Paced (d : Device) (since : Fin maxSessions → ℕ) : Prop where
  distinct : d.DistinctIds
  vacant : ∀ i, (d.sessions i).allocated = false → (d.sessions i).rangingStreamRemaining = 0
  paced : ∀ i, (d.sessions i).Paced d.profile (since i) d.scheduledEvents

namespace Device.Paced

variable {d d' : Device} {since : Fin maxSessions → ℕ} {i : Fin maxSessions}

theorem replaced {session : Session} {since' : Fin maxSessions → ℕ} (h : d.Paced since)
    (events : List ScheduledEvent)
    (hdistinct : session.allocated = true → ∀ j, j ≠ i → (d.sessions j).allocated = true →
      (d.sessions j).sessionId ≠ session.sessionId)
    (hvacant : session.allocated = false → session.rangingStreamRemaining = 0)
    (hothers : ∀ j, j ≠ i → (d.sessions j).Paced d.profile (since j) d.scheduledEvents →
      (d.sessions j).Paced d.profile (since' j) events)
    (hown : session.Paced d.profile (since' i) events) :
    ((d.setSession i session).withEvents events).Paced since' := by
  have hsame : ((d.setSession i session).withEvents events).sessions i = session :=
    Device.setSession_same d i session
  have hother : ∀ j, j ≠ i →
      ((d.setSession i session).withEvents events).sessions j = d.sessions j :=
    fun j hj => Device.setSession_other d session hj
  constructor
  · intro j k ha hk hid
    by_cases hj : j = i
    · subst hj
      by_contra hne
      rw [hsame] at ha hid
      rw [hother k fun h => hne h.symm] at hk hid
      exact hdistinct ha k (fun h => hne h.symm) hk hid.symm
    · rw [hother j hj] at ha hid
      by_cases hki : k = i
      · subst hki
        rw [hsame] at hk hid
        exact absurd hid (hdistinct hk j hj ha)
      · rw [hother k hki] at hk hid
        exact h.distinct j k ha hk hid
  · intro j
    by_cases hj : j = i
    · subst hj
      rw [hsame]
      exact hvacant
    · rw [hother j hj]
      exact h.vacant j
  · intro j
    by_cases hj : j = i
    · subst hj
      rw [hsame]
      exact hown
    · rw [hother j hj]
      exact hothers j hj (h.paced j)

theorem id_other (h : d.Paced since) {session : Session}
    (hallocated : session.allocated = (d.sessions i).allocated)
    (hid : session.sessionId = (d.sessions i).sessionId) :
    session.allocated = true → ∀ j, j ≠ i → (d.sessions j).allocated = true →
      (d.sessions j).sessionId ≠ session.sessionId := by
  intro ha j hj hja hsame
  exact hj (h.distinct j i hja (hallocated.symm.trans ha) (hsame.trans hid))

theorem kept {session : Session} {events : List ScheduledEvent} (h : d.Paced since)
    (hs : (d.sessions i).SameStream session) (hevents : events.Sublist d.scheduledEvents) :
    ((d.setSession i session).withEvents events).Paced since :=
  h.replaced events (h.id_other hs.allocated hs.sessionId)
    (fun hfree => hs.remaining.trans (h.vacant i (hs.allocated.symm.trans hfree)))
    (fun _ _ hj => hj.sublist hevents) (((h.paced i).same hs).sublist hevents)

theorem ended {session : Session} {events : List ScheduledEvent} (h : d.Paced since)
    (hallocated : session.allocated = (d.sessions i).allocated)
    (hid : session.sessionId = (d.sessions i).sessionId)
    (hover : session.rangingStreamRemaining = 0) (hevents : events.Sublist d.scheduledEvents) :
    ((d.setSession i session).withEvents events).Paced since :=
  h.replaced events (h.id_other hallocated hid) (fun _ => hover) (fun _ _ hj => hj.sublist hevents)
    (Session.paced_over _ _ _ hover)

theorem aside (h : d.Paced since) {event : ScheduledEvent} (htype : event.type ≠ .rangeData) :
    (d.withEvents (d.scheduledEvents ++ [event])).Paced since :=
  ⟨h.distinct,h.vacant,fun j => (h.paced j).append_other fun _ hkey =>
    htype (congrArg Prod.fst hkey)⟩

theorem of_same (h : d.Paced since) (hsessions : d'.sessions = d.sessions)
    (hevents : d'.scheduledEvents = d.scheduledEvents) (hprofile : d'.profile = d.profile) :
    d'.Paced since := by
  constructor
  · intro j k
    rw [hsessions]
    exact h.distinct j k
  · intro j
    rw [hsessions]
    exact h.vacant j
  · intro j
    rw [hsessions, hevents, hprofile]
    exact h.paced j

theorem init (profile : Profile) (scenario : Scenario) (since : Fin maxSessions → ℕ) :
    (Device.initWithProfile profile scenario).Paced since :=
  ⟨fun _ _ ha => (Bool.false_ne_true ha).elim,fun _ _ => rfl,
    fun _ ha => (Bool.false_ne_true ha).elim⟩

theorem without_range_data (d : Device) (i : Fin maxSessions) :
    ∀ event ∈ d.eventsWithout .rangeData (d.sessions i).sessionId,
      event.key ≠ (d.sessions i).rangeKey := by
  intro event he
  rw [Device.events_without_key] at he
  exact of_decide_eq_true (List.mem_filter.mp he).2

theorem stream_other (h : d.Paced since) (ha : (d.sessions i).allocated = true)
    {j : Fin maxSessions} (hj : j ≠ i) {events : List ScheduledEvent} {n : ℕ}
    (hpaced : (d.sessions j).Paced d.profile n events) (delayMs : UInt32) :
    (d.sessions j).Paced d.profile n
      (events ++ [⟨.rangeData,(d.sessions i).sessionId,delayMs⟩]) :=
  hpaced.append_other fun hja hkey =>
    hj (h.distinct j i hja ha (congrArg Prod.snd hkey).symm)

theorem storing_stream {configId : UInt8} {value : List UInt8}
    (hrefusal : d.refusal i configId value = none) (hid : configId ≠ appConfigRangingInterval) :
    (d.sessions i).SameStream (d.storing i configId value) := by
  rcases Device.storing_eq d i configId value with ⟨hstate,hremaining,hsession,hallocated⟩
  refine ⟨hallocated,hsession,hstate,hremaining,fun profile => ?_⟩
  have hread : (d.storing i configId value).read Session.rangingIntervalReader =
      (d.sessions i).read Session.rangingIntervalReader :=
    (Device.storing_get_config hrefusal _).trans (if_neg hid)
  unfold Session.getRangingIntervalMs
  rw [hread]

theorem stored (h : d.Paced since) (ha : (d.sessions i).allocated = true) {configId : UInt8}
    {value : List UInt8} (hrefusal : d.refusal i configId value = none) :
    (d.stored i configId value).Paced since := by
  rcases Device.storing_eq d i configId value with ⟨hstate,hremaining,hid,hallocated⟩
  unfold Device.stored
  split
  · have halone := without_range_data d i
    have hkey : (d.storing i configId value).rangeKey = (d.sessions i).rangeKey :=
      congrArg (Prod.mk EventType.rangeData) hid
    rw [← hkey] at halone
    refine h.replaced _ (h.id_other hallocated hid) (fun hfree => ?_) (fun j hj hpaced => ?_) ?_
    · exact absurd (hfree.symm.trans (hallocated.trans ha)) (by decide)
    · have hkept : (d.sessions j).Paced d.profile (since j)
          (d.eventsWithout .rangeData (d.sessions i).sessionId) :=
        hpaced.sublist List.filter_sublist
      unfold Device.rescheduledEvents
      split
      · exact hkept
      · exact h.stream_other ha hj hkept _
    · unfold Device.rescheduledEvents
      split
      · exact Session.paced_alone _ _ halone
      · rw [← hid]
        exact Session.paced_scheduled _ _ (by rw [hid]; exact halone)
  · rename_i hmoves
    by_cases hinterval : configId = appConfigRangingInterval
    · refine h.replaced d.scheduledEvents (h.id_other hallocated hid)
        (fun hfree => ?_) (fun _ _ hj => hj) ?_
      · exact absurd (hfree.symm.trans (hallocated.trans ha)) (by decide)
      · rintro - hstreaming
        rcases (Session.streaming_iff _).mp hstreaming with ⟨hgoes,hactive⟩
        exact absurd ⟨hinterval,hstate ▸ hactive,hremaining ▸ hgoes⟩ hmoves
    · exact h.kept (storing_stream hrefusal hinterval) (List.Sublist.refl _)

theorem reconfigured (h : d.Paced since) (request : Packet)
    (ha : (d.sessions i).allocated = true) : (d.reconfigured request i).Paced since := by
  have hkept := Device.set_app_configs_invariant
    (P := fun d => d.Paced since ∧ (d.sessions i).allocated = true) (e := fun _ _ => True)
    (i := i) (fun d configId value hd _ hrefusal => ?_) (byteAt request.payload 4).toNat
    (request.payload.drop 5) d ⟨h,ha⟩ fun _ _ => trivial
  · exact hkept.1
  · refine ⟨hd.1.stored hd.2 hrefusal,?_⟩
    rw [Device.stored_session]
    exact (Device.storing_eq d i configId value).2.2.2.trans hd.2

theorem entering_stream (d : Device) (oid : UInt8) (i : Fin maxSessions) (nextState : UInt8) :
    (d.entering oid i nextState).allocated = (d.sessions i).allocated ∧
      (d.entering oid i nextState).sessionId = (d.sessions i).sessionId ∧
      (d.entering oid i nextState).rangingStreamRemaining =
        (d.sessions i).rangingStreamRemaining := by
  unfold Device.entering
  dsimp only
  split <;> exact ⟨rfl,rfl,rfl⟩

theorem started (h : d.Paced since) (ha : (d.sessions i).allocated = true)
    (halone : ∀ event ∈ d.scheduledEvents, event.key ≠ (d.sessions i).rangeKey) :
    (d.onSessionStarted i).2.Paced since := by
  rw [started_eq]
  split
  · refine h.replaced _ (h.id_other rfl rfl) (fun hfree => ?_) (fun j hj hpaced => ?_) ?_
    · exact absurd (hfree.symm.trans ha) (by decide)
    · unfold streamEvents
      split
      · exact hpaced
      · exact h.stream_other ha hj hpaced _
    · unfold streamEvents
      split
      · exact Session.paced_alone _ _ halone
      · exact Session.paced_scheduled (s := (d.sessions i).startStream _) _ _ halone
  · exact h

theorem stopped (h : d.Paced since) (oid nextState : UInt8) :
    ((d.setSession i (d.entering oid i nextState)).onSessionStopped i).Paced since := by
  rcases entering_stream d oid i nextState with ⟨hallocated,hid,-⟩
  have hstopped : (d.setSession i (d.entering oid i nextState)).onSessionStopped i =
      (d.setSession i (d.entering oid i nextState).stopStream).withEvents
        (d.scheduledEvents.filter
          (fun event => event.sessionId != (d.entering oid i nextState).sessionId)) := by
    unfold Device.onSessionStopped
    dsimp only
    rw [Device.setSession_same, Device.setSession_setSession]
    rfl
  rw [hstopped]
  exact h.ended hallocated hid rfl List.filter_sublist

theorem entered (h : d.Paced since) (ha : (d.sessions i).allocated = true) (oid nextState : UInt8)
    (halone : oid ≠ sessionStop → ∀ event ∈ d.scheduledEvents,
      event.key ≠ (d.sessions i).rangeKey) : (d.entered oid i nextState).Paced since := by
  rcases entering_stream d oid i nextState with ⟨hallocated,hid,-⟩
  have hkey : (d.entering oid i nextState).rangeKey = (d.sessions i).rangeKey :=
    congrArg (Prod.mk EventType.rangeData) hid
  have hsession : (d.setSession i (d.entering oid i nextState)).sessions i =
      d.entering oid i nextState := Device.setSession_same _ _ _
  unfold Device.entered Device.reactToTransition
  by_cases hstop : oid = sessionStop
  · rw [if_neg (by rw [hstop]; decide), if_pos hstop]
    exact h.stopped oid nextState
  · have hmoved : (d.setSession i (d.entering oid i nextState)).Paced since := by
      refine h.replaced d.scheduledEvents (h.id_other hallocated hid) (fun hfree => ?_)
        (fun _ _ hj => hj) ?_
      · exact absurd (hfree.symm.trans (hallocated.trans ha)) (by decide)
      · exact Session.paced_alone _ _ (by rw [hkey]; exact halone hstop)
    split
    · refine hmoved.started ?_ ?_
      · rw [hsession, hallocated, ha]
      · rw [hsession, hkey]
        exact halone hstop
    · exact hmoved

end Device.Paced

/-- The packet makes the session at slot `i` change its state. -/
def Device.Transits (d : Device) (request : Packet) (i : Fin maxSessions) : Prop :=
  Moves d request request.oid i ∧
    (request.oid = sessionStart → validateSessionStart d.profile (d.sessions i) = .ok ())

instance (d : Device) (request : Packet) (i : Fin maxSessions) :
    Decidable (d.Transits request i) := inferInstanceAs (Decidable (_ ∧ _))

/-- Unless it is stopped, a session changes its state beside no ranging event of its own. -/
def Device.MovesAlone (d : Device) (request : Packet) : Prop :=
  request.oid ≠ sessionStop → ∀ i, d.Transits request i →
    ∀ event ∈ d.scheduledEvents, event.key ≠ (d.sessions i).rangeKey

instance (d : Device) (request : Packet) : Decidable (d.MovesAlone request) :=
  inferInstanceAs (Decidable (_ → ∀ _, _))

namespace Device.Paced

variable {d d' : Device} {request : Packet} {since since' : Fin maxSessions → ℕ}

theorem changed {ns : List Packet} (h : d.Paced since) (hmt : request.mt = mtCommand)
    (halone : d.MovesAlone request) (hchange : Change d request ns d') : d'.Paced since := by
  cases hchange with
  | housekept _ same => exact h.of_same same.sessions same.events same.profile
  | edited i session allocated lifecycle configs =>
    exact h.kept (lifecycle.stream configs) (List.Sublist.refl _)
  | linked i session _ _ _ _ allocated lifecycle configs =>
    exact h.kept (lifecycle.stream configs) (List.Sublist.refl _)
  | configured i command supported long found =>
    exact h.reconfigured request (Device.find_session_some found).1
  | reported => exact h
  | opened sessionId i reason absent free =>
    have hfresh := fresh_session_eq d i sessionId
    have hid : (d.freshSession i sessionId).sessionId = sessionId := by rw [hfresh]
    have hover : (d.freshSession i sessionId).rangingStreamRemaining = 0 := by
      rw [hfresh]
      exact h.vacant i (Device.free_session_some free)
    refine h.replaced d.scheduledEvents (fun _ j _ hj => ?_) (fun _ => hover) (fun _ _ hj => hj)
      (Session.paced_over _ _ _ hover)
    rw [hid]
    exact Device.find_session_none absent j hj
  | closed i =>
    exact h.replaced d.scheduledEvents (fun ha => absurd ha (by decide)) (fun _ => rfl)
      (fun _ _ hj => hj) (Session.paced_over _ _ _ rfl)
  | moved i reason transition command supported long found listed allowed valid =>
    refine h.entered (Device.find_session_some found).1 _ _ fun hoid => ?_
    exact halone hoid i
      ⟨⟨hmt,command,rfl,supported,long,found,transition,listed,allowed⟩,valid⟩
  | reset =>
    exact ⟨fun _ _ ha => (Bool.false_ne_true ha).elim,fun _ _ => rfl,
      fun _ ha => (Bool.false_ne_true ha).elim⟩

theorem served {response : Option Packet} {posting : Posting} (h : d.Paced since)
    (halone : d.MovesAlone request) (hserved : Served d request response posting d') :
    d'.Paced since := by
  cases hserved with
  | command response ns errors d' mt responds change => exact h.changed mt halone change
  | data posting d' mt change =>
    cases change with
    | ignored => exact h
    | refused => exact h
    | repeated => exact h
    | completed i sequenceNumber declaredLength =>
      have hs : (d.sessions i).SameStream
          ((d.sessions i).rememberData sequenceNumber declaredLength) :=
        ⟨rfl,rfl,rfl,rfl,Session.interval_of_configs rfl⟩
      exact h.kept hs (List.Sublist.refl _)
    | begun i sequenceNumber declaredLength =>
      have hs : (d.sessions i).SameStream
          (((d.sessions i).rememberData sequenceNumber declaredLength).beginTransfer
            (d.sessions i).getDataRepetitionCount sequenceNumber) :=
        ⟨rfl,rfl,rfl,rfl,Session.interval_of_configs rfl⟩
      exact (h.kept hs (List.Sublist.refl _)).aside nofun
    | unscheduled i sequenceNumber declaredLength =>
      have hs : (d.sessions i).SameStream
          (((d.sessions i).rememberData sequenceNumber declaredLength).beginTransfer
            (d.sessions i).getDataRepetitionCount sequenceNumber).abandonTransfer :=
        ⟨rfl,rfl,rfl,rfl,Session.interval_of_configs rfl⟩
      exact h.kept hs (List.Sublist.refl _)

theorem restarted (h : d.Paced since) (halone : d.MovesAlone request)
    (hsince : ∀ i, ¬ Starts d request i → since' i = since i) : d.Paced since' := by
  refine ⟨h.distinct,h.vacant,fun i => ?_⟩
  by_cases hstarts : Starts d request i
  · have hoid : request.oid = sessionStart := hstarts.1.2.2.1
    have htransits : d.Transits request i := by
      unfold Device.Transits
      rw [hoid]
      exact ⟨hstarts.1,fun _ => hstarts.2⟩
    exact Session.paced_alone _ _ (halone (by rw [hoid]; decide) i htransits)
  · rw [hsince i hstarts]
    exact h.paced i

end Device.Paced

end UciSim
