import UciSim.TransferFrames

/-!
# What leaves a stream alone

The stream of a session that is under way is touched by its own event, by what the host
tells the session itself to stop, to close or to be set, and by a reset.
-/

set_option autoImplicit false

namespace UciSim

open Exchange

/-- What the stream of a session comes to. -/
structure Stream where
  allocated : Bool
  sessionId : UInt32
  state : UInt8
  remaining : UInt8
  count : UInt32
  configs : List (UInt8 × List UInt8)
  deriving DecidableEq, Repr

def Session.stream (session : Session) : Stream :=
  ⟨session.allocated,session.sessionId,session.state,session.rangingStreamRemaining,
    session.rangingCount,session.configs⟩

theorem Session.SameLifecycle.same_stream {s s' : Session} (h : s.SameLifecycle s')
    (hconfigs : s'.configs = s.configs) : s'.stream = s.stream := by
  unfold Session.stream
  rw [h.allocated, h.sessionId, h.state, h.remaining, h.measurements.count, hconfigs]

/-- A reset, or a command to the session that ends, closes or changes its stream. -/
def Packet.Interrupts (request : Packet) (sessionId : UInt32) : Prop :=
  request.Resets ∨ request.mt = mtCommand ∧ readU32Le request.payload 0 = sessionId ∧
    (request.gid = gidSessionConfig ∧ request.oid ∈ [sessionDeinit,sessionSetAppConfig] ∨
      request.gid = gidSessionControl ∧ request.oid = sessionStop)

instance (request : Packet) (sessionId : UInt32) : Decidable (request.Interrupts sessionId) :=
  inferInstanceAs (Decidable (_ ∨ _))

/-- The session at slot `i` keeps its stream and the event of the stream. -/
structure Device.SparesStream (d d' : Device) (i : Fin maxSessions) : Prop where
  stream : (d'.sessions i).stream = (d.sessions i).stream
  events : KeepsEvent (d.sessions i).rangeKey d.scheduledEvents d'.scheduledEvents

theorem Session.same_range_key {s s' : Session} (h : s'.stream = s.stream) :
    s'.rangeKey = s.rangeKey :=
  congrArg (fun stream : Stream => (EventType.rangeData,stream.sessionId)) h

theorem Session.transfer_not_range (session : Session) (sessionId : UInt32) :
    (EventType.dataTransfer,sessionId) ≠ session.rangeKey := by
  intro hk
  have htype : EventType.dataTransfer = .rangeData := congrArg Prod.fst hk
  cases htype

namespace Device.SparesStream

variable {d d' d'' : Device} {i j : Fin maxSessions}

theorem same (hsession : d'.sessions i = d.sessions i)
    (hevents : KeepsEvent (d.sessions i).rangeKey d.scheduledEvents d'.scheduledEvents) :
    d.SparesStream d' i :=
  ⟨by rw [hsession],hevents⟩

theorem of_same (hsessions : d'.sessions = d.sessions)
    (hevents : d'.scheduledEvents = d.scheduledEvents) : d.SparesStream d' i := by
  refine same (congrFun hsessions i) ?_
  rw [hevents]
  exact Awaited.keeps_refl _

theorem refl (d : Device) (i : Fin maxSessions) : d.SparesStream d i := of_same rfl rfl

theorem trans (h : d.SparesStream d' i) (h' : d'.SparesStream d'' i) : d.SparesStream d'' i :=
  ⟨h'.stream.trans h.stream,h.events.trans (Session.same_range_key h.stream ▸ h'.events)⟩

theorem setSession {session : Session}
    (hstream : i = j → session.stream = (d.sessions j).stream) :
    d.SparesStream (d.setSession j session) i := by
  refine ⟨?_,Awaited.keeps_refl _⟩
  by_cases hj : i = j
  · subst hj
    rw [Device.setSession_same]
    exact hstream rfl
  · rw [Device.setSession_other _ _ hj]

theorem setOther (hj : i ≠ j) (session : Session) : d.SparesStream (d.setSession j session) i :=
  setSession fun h => absurd h hj

theorem scheduled {event : ScheduledEvent} (h : event.key ≠ (d.sessions i).rangeKey) :
    d.SparesStream (d.withEvents (d.scheduledEvents ++ [event])) i :=
  same rfl (keeps_other_event h)

end Device.SparesStream

section

variable {d d' : Device} {request : Packet} {i j : Fin maxSessions}

theorem range_key_other (hd : d.DistinctIds) (ha : (d.sessions i).allocated = true)
    (hj : (d.sessions j).allocated = true) (hother : i ≠ j) :
    (d.sessions j).sessionId ≠ (d.sessions i).sessionId :=
  fun hid => hother (hd i j ha hj hid.symm)

theorem keeps_range_rescheduled (d : Device) {sessionId sessionId' : UInt32} (delayMs : UInt32)
    (h : sessionId' ≠ sessionId) : KeepsEvent (.rangeData,sessionId) d.scheduledEvents
      (d.rescheduledEvents .rangeData sessionId' delayMs) := by
  have hwithout : KeepsEvent (.rangeData,sessionId) d.scheduledEvents
      (d.eventsWithout .rangeData sessionId') := by
    refine Awaited.keeps_filter fun event he => ?_
    have hid : event.sessionId ≠ sessionId' := by
      rw [show event.sessionId = sessionId from congrArg Prod.snd he]
      exact fun hsame => h hsame.symm
    simp [hid]
  unfold Device.rescheduledEvents
  split
  · exact hwithout
  · exact hwithout.trans (keeps_other_event fun hk => h (congrArg Prod.snd hk))

theorem entered_beside (oid nextState : UInt8) {sessionId : UInt32}
    (hfound : d.findSession sessionId = some j) (ha : (d.sessions i).allocated = true)
    (hid : (d.sessions i).sessionId ≠ sessionId) :
    d.SparesStream (d.entered oid j nextState) i := by
  refine .same ((entered_isolates oid nextState hfound).sessions i ha hid) ?_
  have hj := (Device.find_session_some hfound).2
  have hentering : ((d.setSession j (d.entering oid j nextState)).sessions j).sessionId =
      sessionId := by
    rw [Device.setSession_same, (Device.Paced.entering_stream d oid j nextState).2.1, hj]
  unfold Device.entered Device.reactToTransition
  split
  · rw [started_eq]
    split
    · show KeepsEvent _ d.scheduledEvents (streamEvents _ j)
      unfold streamEvents
      split
      · exact Awaited.keeps_refl _
      · exact keeps_other_event fun h => hid ((congrArg Prod.snd h).symm.trans hentering)
    · exact Awaited.keeps_refl _
  · split
    · have hcancelled : KeepsEvent (d.sessions i).rangeKey d.scheduledEvents
          (d.scheduledEvents.filter (fun event => event.sessionId != sessionId)) :=
        keeps_cancelled (fun h => hid h.symm) d.scheduledEvents
      rw [← hentering] at hcancelled
      exact hcancelled
    · exact Awaited.keeps_refl _

theorem change_spares_stream {ns : List Packet} (hp : d.profile.StartStop) (hd : d.DistinctIds)
    (ha : (d.sessions i).allocated = true) (hactive : (d.sessions i).state = sessionStateActive)
    (hmt : request.mt = mtCommand) (hleaves : ¬ request.Interrupts (d.sessions i).sessionId)
    (h : Change d request ns d') : d.SparesStream d' i := by
  -- What the command finds is another session when the command interrupts what it finds.
  have hother : ∀ {j}, d.findSession (readU32Le request.payload 0) = some j →
      (request.gid = gidSessionConfig ∧ request.oid ∈ [sessionDeinit,sessionSetAppConfig] ∨
        request.gid = gidSessionControl ∧ request.oid = sessionStop) → i ≠ j := by
    rintro j found hkind rfl
    exact hleaves (Or.inr ⟨hmt,(Device.find_session_some found).2.symm,hkind⟩)
  cases h with
  | housekept _ same => exact .of_same same.sessions same.events
  | edited j session allocated lifecycle configs =>
    exact .setSession fun hj => lifecycle.same_stream configs
  | linked j session _ _ _ _ allocated lifecycle configs =>
    exact .setSession fun hj => lifecycle.same_stream configs
  | configured j command supported long found steps =>
    have hj := hother found (Or.inl ⟨command.1,by rw [command.2]; decide⟩)
    have hid := range_key_other hd ha (Device.find_session_some found).1 hj
    suffices hkept : d.SparesStream (d.reconfigured request j) i ∧
        ((d.reconfigured request j).sessions j).sessionId = (d.sessions j).sessionId from hkept.1
    generalize d.reconfigured request j = d' at steps
    induction steps with
    | same => exact ⟨.refl d i,rfl⟩
    | stored d' configId value session before admitted supported stored ih =>
      refine ⟨ih.1.trans (.setOther hj _),?_⟩
      rw [Device.setSession_same, ← ih.2, store_config_eq stored]
      unfold Session.forgetProximity
      split <;> rfl
    | rescheduled d' delayMs before active streaming ih =>
      rw [Device.reschedule_session_event_snd _ .rangeData _ _ (by decide)]
      refine ⟨ih.1.trans (.same rfl (keeps_range_rescheduled d' delayMs ?_)),ih.2⟩
      rw [ih.2, show (d'.sessions i).sessionId = (d.sessions i).sessionId from
        congrArg Stream.sessionId ih.1.stream]
      exact hid
  | reported => exact .refl d i
  | opened sessionId j reason absent free =>
    refine .setOther ?_ _
    rintro rfl
    exact absurd (ha.symm.trans (Device.free_session_some free)) (by decide)
  | closed j reason command supported long found =>
    exact .setOther (hother found (Or.inl ⟨command.1,by rw [command.2]; decide⟩)) _
  | moved j reason transition command supported long found listed allowed =>
    have hj : i ≠ j := by
      rintro rfl
      rcases hp.others request.oid transition listed with hoid | hoid
      · rw [hoid] at listed
        have hstart := (hp.start transition listed).2
        rw [hactive, hstart] at allowed
        cases allowed
      · exact hother found (Or.inr ⟨command,hoid⟩) rfl
    refine entered_beside _ _ found ha fun hid => ?_
    obtain ⟨haj,hjid⟩ := Device.find_session_some found
    exact hj (hd i j ha haj (hid.trans hjid.symm))
  | reset command value => exact absurd (Or.inl ⟨hmt,command.1,command.2,value⟩) hleaves

theorem data_spares_stream {posting : Posting} (h : DataChange d request posting d') :
    d.SparesStream d' i := by
  cases h with
  | ignored | refused | repeated => exact .refl d i
  | completed j => exact .setSession fun _ => rfl
  | begun j sequenceNumber declaredLength delayMs =>
    have hset : d.SparesStream (d.setSession j
        (((d.sessions j).rememberData sequenceNumber declaredLength).beginTransfer
          (d.sessions j).getDataRepetitionCount sequenceNumber)) i := .setSession fun _ => rfl
    exact hset.trans (.scheduled (Session.transfer_not_range _ _))
  | unscheduled j => exact .setSession fun _ => rfl

theorem served_spares_stream {response : Option Packet} {posting : Posting}
    (hp : d.profile.StartStop) (hd : d.DistinctIds) (ha : (d.sessions i).allocated = true)
    (hactive : (d.sessions i).state = sessionStateActive)
    (hleaves : ¬ request.Interrupts (d.sessions i).sessionId)
    (h : Served d request response posting d') : d.SparesStream d' i := by
  cases h with
  | command response ns errors d' mt responds change error =>
    exact change_spares_stream hp hd ha hactive mt hleaves change
  | data posting d' mt change => exact data_spares_stream change

theorem ranged_beside {rc : Rc} {ns : List Packet} (hd : d.DistinctIds)
    (ha : (d.sessions i).allocated = true) (hj : (d.sessions j).allocated = true)
    (hother : i ≠ j) (h : Ranged d j rc ns d') : d.SparesStream d' i := by
  refine .same (ranged_other h hother) ?_
  have hcancelled : KeepsEvent (d.sessions i).rangeKey d.scheduledEvents
      (d.scheduledEvents.filter (fun event => event.sessionId != (d.sessions j).sessionId)) :=
    keeps_cancelled (range_key_other hd ha hj hother) d.scheduledEvents
  cases h with
  | idle | unbuilt => exact Awaited.keeps_refl _
  | exhausted => exact hcancelled
  | blocked _ _ _ _ sampled =>
    rw [sampled_events sampled]
    exact Awaited.keeps_refl _
  | measured _ _ _ _ _ sampled =>
    rw [Device.setSession_events, sampled_events sampled]
    exact Awaited.keeps_refl _
  | finished _ _ d₁ policyResult _ _ sampled =>
    have hevents : ((d₁.setSession j
        ((d.sessions j).countMeasurement policyResult)).rangingFinished j).scheduledEvents =
          d.scheduledEvents.filter fun event => event.sessionId != (d.sessions j).sessionId := by
      unfold Device.rangingFinished
      rw [Device.setSession_same]
      show (d₁.scheduledEvents).filter _ = _
      rw [sampled_events sampled]
      rfl
    rw [hevents]
    exact hcancelled

theorem transferred_beside {rc : Rc} {ns : List Packet} (h : Transferred d j rc ns d') :
    d.SparesStream d' i := by
  cases h with
  | repeated | completed => exact .setSession fun _ => rfl

theorem fired_beside {event : ScheduledEvent} {flushes : Bool} {ns : List Packet}
    (hd : d.DistinctIds) (ha : (d.sessions i).allocated = true)
    (hkey : event.key ≠ (d.sessions i).rangeKey) (h : Fired d event flushes ns d') :
    d.SparesStream d' i := by
  have hother : ∀ {j}, event.type = .rangeData → d.findSession event.sessionId = some j →
      i ≠ j := by
    rintro j type found rfl
    exact hkey (found_key type found)
  have hresumed : ∀ {d' : Device} {type : EventType} {j : Fin maxSessions},
      (type,(d'.sessions j).sessionId) ≠ (d'.sessions i).rangeKey →
        d'.SparesStream (d'.resumed type j) i := by
    intro d' type j hne
    refine .same ?_ (keeps_resumed d' hne)
    rw [resumed_sessions]
  cases h with
  | unmatched | transferIdle => exact .refl d i
  | rangingFailed j _ _ type found ranged | rangingOver j _ _ type found ranged =>
    exact ranged_beside hd ha (Device.find_session_some found).1 (hother type found) ranged
  | rangingOn j ns d₁ type found ranged on =>
    have hj := hother type found
    have hspares := ranged_beside hd ha (Device.find_session_some found).1 hj ranged
    refine hspares.trans (hresumed fun hk => ?_)
    have hid : (d₁.sessions j).sessionId = (d.sessions j).sessionId :=
      (Device.SameTransfers.ranged ranged j).sessionId
    have hkept := congrArg Stream.sessionId hspares.stream
    exact range_key_other hd ha (Device.find_session_some found).1 hj
      (hid.symm.trans ((congrArg Prod.snd hk).trans hkept))
  | transferFailed j _ _ type found active transferred
  | transferOver j _ _ type found active transferred => exact transferred_beside transferred
  | transferOn j ns d₁ type found active transferred on =>
    exact (transferred_beside transferred).trans
      (hresumed (Session.transfer_not_range _ _))

end

end UciSim
