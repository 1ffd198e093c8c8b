import UciSim.DataRefusals
import UciSim.RangingEvents
import UciSim.SessionIsolation
import UciSim.TransferNotices

/-!
# What leaves a transfer alone

The transfer of a session that stays active is touched by two things only: a message
the session takes, and the event that carries the session's own key.
-/

set_option autoImplicit false

namespace UciSim

open Exchange

/-- The transfer of a session: the number of its message, the repetitions to come and the
transmissions made. -/
structure Transfer where
  inProgress : Bool
  sequence : UInt16
  remaining : UInt8
  txCount : UInt8
  deriving DecidableEq, Repr

def Session.transfer (session : Session) : Transfer :=
  ⟨session.dataTransferInProgress,session.dataTransferSequence,
    session.dataTransferRepetitionsRemaining,session.dataTransferTxCount⟩

def Session.transferKey (session : Session) : EventType × UInt32 :=
  (.dataTransfer,session.sessionId)

/-- The event with the key, if there is one, comes no later, and no other joins it. -/
abbrev KeepsEvent (key : EventType × UInt32) (events events' : List ScheduledEvent) : Prop :=
  Awaited.Keeps ScheduledEvent.key ScheduledEvent.left key events events'

/-- The session at slot `i` keeps its transfer and the event of the transfer. -/
structure Device.SparesTransfer (d d' : Device) (i : Fin maxSessions) : Prop where
  allocated : (d'.sessions i).allocated = (d.sessions i).allocated
  sessionId : (d'.sessions i).sessionId = (d.sessions i).sessionId
  transfer : (d'.sessions i).transfer = (d.sessions i).transfer
  events : KeepsEvent (d.sessions i).transferKey d.scheduledEvents d'.scheduledEvents

namespace Device.SparesTransfer

variable {d d' d'' : Device} {i j : Fin maxSessions}

theorem same (hsession : d'.sessions i = d.sessions i)
    (hevents : KeepsEvent (d.sessions i).transferKey d.scheduledEvents d'.scheduledEvents) :
    d.SparesTransfer d' i := by
  constructor
  · rw [hsession]
  · rw [hsession]
  · rw [hsession]
  · exact hevents

theorem of_same (hsessions : d'.sessions = d.sessions)
    (hevents : d'.scheduledEvents = d.scheduledEvents) : d.SparesTransfer d' i := by
  refine same (congrFun hsessions i) ?_
  rw [hevents]
  exact Awaited.keeps_refl _

theorem refl (d : Device) (i : Fin maxSessions) : d.SparesTransfer d i := of_same rfl rfl

theorem trans (h : d.SparesTransfer d' i) (h' : d'.SparesTransfer d'' i) :
    d.SparesTransfer d'' i where
  allocated := h'.allocated.trans h.allocated
  sessionId := h'.sessionId.trans h.sessionId
  transfer := h'.transfer.trans h.transfer
  events := by
    have hkey : (d'.sessions i).transferKey = (d.sessions i).transferKey :=
      congrArg (Prod.mk EventType.dataTransfer) h.sessionId
    exact h.events.trans (hkey ▸ h'.events)

theorem setSession {session : Session}
    (hallocated : session.allocated = (d.sessions i).allocated)
    (hid : session.sessionId = (d.sessions i).sessionId)
    (htransfer : session.transfer = (d.sessions i).transfer) :
    d.SparesTransfer (d.setSession i session) i := by
  have hsession : (d.setSession i session).sessions i = session := Device.setSession_same _ _ _
  constructor
  · rw [hsession, hallocated]
  · rw [hsession, hid]
  · rw [hsession, htransfer]
  · exact Awaited.keeps_refl _

theorem setOther (hj : i ≠ j) (session : Session) :
    d.SparesTransfer (d.setSession j session) i :=
  same (Device.setSession_other _ _ hj) (Awaited.keeps_refl _)

end Device.SparesTransfer

theorem keeps_other_event {key : EventType × UInt32} {events : List ScheduledEvent}
    {event : ScheduledEvent} (h : event.key ≠ key) : KeepsEvent key events (events ++ [event]) :=
  Awaited.keeps_append h

theorem keeps_cancelled {type : EventType} {sessionId sessionId' : UInt32}
    (h : sessionId' ≠ sessionId) (events : List ScheduledEvent) :
    KeepsEvent (type,sessionId) events
      (events.filter (fun event => event.sessionId != sessionId')) := by
  refine Awaited.keeps_filter fun event he => ?_
  rw [show event.sessionId = sessionId from congrArg Prod.snd he]
  simpa using fun hsame => h hsame.symm

theorem keeps_rescheduled (d : Device) (sessionId sessionId' delayMs : UInt32) :
    KeepsEvent (.dataTransfer,sessionId) d.scheduledEvents
      (d.rescheduledEvents .rangeData sessionId' delayMs) := by
  have hwithout : KeepsEvent (.dataTransfer,sessionId) d.scheduledEvents
      (d.eventsWithout .rangeData sessionId') := by
    refine Awaited.keeps_filter fun event he => ?_
    rw [show event.type = .dataTransfer from congrArg Prod.fst he]
    rfl
  unfold Device.rescheduledEvents
  split
  · exact hwithout
  · exact hwithout.trans (keeps_other_event fun h => absurd (congrArg Prod.fst h) nofun)

theorem keeps_resumed (d : Device) {type : EventType} {j : Fin maxSessions}
    {key : EventType × UInt32} (h : (type,(d.sessions j).sessionId) ≠ key) :
    KeepsEvent key d.scheduledEvents (d.resumed type j).scheduledEvents := by
  unfold Device.resumed Device.scheduleEvent
  split
  · exact Awaited.keeps_refl _
  · split
    · exact Awaited.keeps_refl _
    · exact keeps_other_event h

section

variable {d d' : Device} {request : Packet} {i j : Fin maxSessions}

theorem entered_other (oid nextState : UInt8) {sessionId : UInt32}
    (hfound : d.findSession sessionId = some j) (ha : (d.sessions i).allocated = true)
    (hid : (d.sessions i).sessionId ≠ sessionId) :
    d.SparesTransfer (d.entered oid j nextState) i := by
  refine .same ((entered_isolates oid nextState hfound).sessions i ha hid) ?_
  have hj := (Device.find_session_some hfound).2
  have hentering : ((d.setSession j (d.entering oid j nextState)).sessions j).sessionId =
      sessionId := by
    rw [Device.setSession_same, (Device.Paced.entering_stream d oid j nextState).2.1, hj]
  unfold Device.entered Device.reactToTransition
  split
  · rw [started_eq]
    split
    · show KeepsEvent _ d.scheduledEvents (streamEvents _ j)
      unfold streamEvents
      split
      · exact Awaited.keeps_refl _
      · exact keeps_other_event fun h => absurd (congrArg Prod.fst h) nofun
    · exact Awaited.keeps_refl _
  · split
    · have hcancelled : KeepsEvent (d.sessions i).transferKey d.scheduledEvents
          (d.scheduledEvents.filter (fun event => event.sessionId != sessionId)) :=
        keeps_cancelled (fun h => hid h.symm) d.scheduledEvents
      rw [← hentering] at hcancelled
      exact hcancelled
    · exact Awaited.keeps_refl _

theorem moved_other {oid : UInt8} {transition : SessionTransition} (hp : d.profile.StartStop)
    (listed : d.profile.getSessionTransition oid = some transition)
    (allowed : transition.allows (d.sessions j).state = true)
    (hactive : (d.sessions i).state = sessionStateActive)
    (hstill : ((d.entered oid j transition.nextState).sessions i).state = sessionStateActive) :
    i ≠ j := by
  rintro rfl
  rcases hp.others oid transition listed with rfl | rfl
  · have hstart := (hp.start transition listed).2
    rw [hactive] at allowed
    exact absurd (hstart.symm.trans allowed) (by decide)
  · rw [(hp.stop transition listed).1] at hstill
    have hslot := congrArg (fun v : View => (v.slots i).state) (stopped_view d i)
    have hidle : ((d.view.apply (.stopped i)).slots i).state = sessionStateIdle := by
      show (Function.update d.view.slots i (d.view.slots i).stopped i).state = _
      rw [Function.update_self]
      rfl
    exact absurd (hstill.symm.trans (hslot.trans hidle)) (by decide)

theorem change_spares {ns : List Packet} (hp : d.profile.StartStop) (hd : d.DistinctIds)
    (ha : (d.sessions i).allocated = true) (hactive : (d.sessions i).state = sessionStateActive)
    (h : Change d request ns d') (hstill : (d'.sessions i).state = sessionStateActive) :
    d.SparesTransfer d' i := by
  have hedited : ∀ (j : Fin maxSessions) (session : Session),
      (d.sessions j).SameLifecycle session → d.SparesTransfer (d.setSession j session) i := by
    intro j session lifecycle
    by_cases hj : i = j
    · subst hj
      refine .setSession lifecycle.allocated lifecycle.sessionId ?_
      unfold Session.transfer
      rw [lifecycle.inProgress, lifecycle.messages.transfer, lifecycle.repetitions,
        lifecycle.transmitted]
    · exact .setOther hj session
  cases h with
  | housekept _ same => exact .of_same same.sessions same.events
  | edited j session allocated lifecycle => exact hedited j session lifecycle
  | linked j session _ _ _ _ allocated lifecycle => exact hedited j session lifecycle
  | configured j command supported long found steps =>
    clear hstill
    generalize d.reconfigured request j = d' at steps
    induction steps with
    | same => exact .refl d i
    | stored d' configId value session before admitted supported stored ih =>
      by_cases hj : i = j
      · subst hj
        refine ih.trans (.setSession ?_ ?_ ?_) <;>
          rw [store_config_eq stored] <;> unfold Session.forgetProximity <;> split <;> rfl
      · exact ih.trans (.setOther hj _)
    | rescheduled d' delayMs before active streaming ih =>
      refine ih.trans ?_
      rw [Device.reschedule_session_event_snd _ .rangeData _ _ (by decide)]
      exact .same rfl (keeps_rescheduled d' _ _ delayMs)
  | reported => exact .refl d i
  | opened sessionId j reason absent free =>
    refine .setOther ?_ _
    rintro rfl
    exact absurd (ha.symm.trans (Device.free_session_some free)) (by decide)
  | closed j =>
    refine .setOther ?_ _
    rintro rfl
    rw [Device.setSession_same] at hstill
    exact absurd hstill (by decide)
  | moved j reason transition command supported long found listed allowed =>
    have hother := moved_other hp listed allowed hactive hstill
    refine entered_other _ _ found ha fun hid => ?_
    rcases Device.find_session_some found with ⟨hj,hjid⟩
    exact hother (hd i j ha hj (hid.trans hjid.symm))
  | reset => exact absurd hstill (show ¬ (0 : UInt8) = sessionStateActive by decide)

theorem data_response (hmt : request.mt = mtData) :
    (d.handlePacket request).2.result.response = none := by
  rcases data_message_answers d request with ⟨posting,d₁,hx,-⟩
  rw [handle_data hmt, hx, posted_finalized]

theorem data_spares (hmt : request.mt = mtData) (hd : d.DistinctIds)
    (ha : (d.sessions i).allocated = true)
    (hother : readU32Le request.payload 0 ≠ (d.sessions i).sessionId ∨
      (d.sessions i).dataTransferInProgress = true) :
    d.SparesTransfer (d.handlePacket request).2.device i ∧
      transferNotices (d.sessions i).sessionId (d.handlePacket request).2.accepted = [] := by
  rcases Device.data_device (d := d) hmt with ⟨p,hdevice⟩
  have haccepted := (data_handled (d := d) hmt).2.2
  have hspares : ∀ x : Device, d.SparesTransfer x i → d.SparesTransfer (x.withPending p) i :=
    fun x hx => hx.trans (.of_same rfl rfl)
  have htarget : ∀ j, d.AdmitsData request j →
      readU32Le request.payload 0 ≠ (d.sessions i).sessionId := by
    intro j admits hid
    have hfound := Device.find_session_of_allocated hd ha
    rw [← hid] at hfound
    have hj : i = j := Option.some.inj (hfound.symm.trans admits.2.2.1)
    subst hj
    exact hother.elim (fun h => h hid) fun h => absurd (h.symm.trans admits.2.2.2.2) (by decide)
  have hslot : ∀ j, d.AdmitsData request j → i ≠ j := by
    rintro j admits rfl
    exact htarget i admits (Device.find_session_some admits.2.2.1).2.symm
  rw [hdevice, haccepted]
  have houtcome := data_message_outcome d request
  generalize hx : (start d).handleDataMessageSend request = outcome at houtcome
  cases houtcome with
  | ignored => exact ⟨hspares d (.refl d i),rfl⟩
  | refused hcarries none status txCount =>
    refine ⟨hspares d (.refl d i),notices_none fun n hn => ?_⟩
    rw [List.mem_singleton.mp hn]
    by_cases hid : readU32Le request.payload 0 = (d.sessions i).sessionId
    · have hbusy := hother.resolve_left (not_not.mpr hid)
      have hfound := Device.find_session_of_allocated hd ha
      rw [← hid] at hfound
      have hrefuses : d.RefusesData request :=
        ⟨hmt,hcarries.1,hcarries.2.1,hcarries.2.2,Or.inr fun j hj => Or.inr (by
          rw [← Option.some.inj (hfound.symm.trans hj)]
          exact hbusy)⟩
      rcases data_message_refused d request hrefuses with ⟨m,hreports,hm⟩
      rw [hx] at hm
      have hsame := congrArg (fun x : Exchange => x.result.notification) hm
      exact notice_refusal (show ¬ sessionDataTransferStatusNtf = sessionDataCreditNtf by decide)
        (Option.some.inj hsame ▸ hreports)
    · exact (completion_notices hid _ status txCount).2
  | repeated j admits known =>
    rcases Device.completion_device (start d) (readU32Le request.payload 0)
      (readU16Le request.payload 12) dataTransferStatusRepetitionOk with ⟨q,hq⟩
    refine ⟨hspares _ (by rw [hq]; exact .of_same rfl rfl),notices_none fun n hn => ?_⟩
    exact List.filterMap_eq_nil_iff.mp (completion_notices (htarget j admits) _ _ 1).1 n
      ((completion_accepted_mem hn).resolve_left List.not_mem_nil)
  | completed j admits new once =>
    rcases Device.completion_device ((start d).setSession j
      ((d.sessions j).rememberRequest request)) (readU32Le request.payload 0)
      (readU16Le request.payload 12) dataTransferStatusOk with ⟨q,hq⟩
    refine ⟨hspares _ ?_,notices_none fun n hn => ?_⟩
    · rw [hq]
      exact (Device.SparesTransfer.setOther (hslot j admits) _).trans (.of_same rfl rfl)
    · exact List.filterMap_eq_nil_iff.mp (completion_notices (htarget j admits) _ _ 1).1 n
        ((completion_accepted_mem hn).resolve_left List.not_mem_nil)
  | begun j delayMs admits =>
    refine ⟨hspares _ ?_,rfl⟩
    refine .same (Device.setSession_other _ _ (hslot j admits)) ?_
    exact keeps_other_event fun h => htarget j admits (congrArg Prod.snd h)
  | unscheduled j admits =>
    exact ⟨hspares _ (.setOther (hslot j admits) _),rfl⟩

theorem packet_spares {response : Option Packet} {posting : Posting} {p : List Packet}
    (hp : d.profile.StartStop) (hd : d.DistinctIds) (ha : (d.sessions i).allocated = true)
    (hactive : (d.sessions i).state = sessionStateActive)
    (hserved : Served d request response posting d')
    (handled : (d.handlePacket request).2.device = d'.withPending p)
    (hands : d.hands request = response.toList ++ posting.packets)
    (hstill : (d'.sessions i).state = sessionStateActive)
    (hother : request.mt = mtData → readU32Le request.payload 0 ≠ (d.sessions i).sessionId ∨
      (d.sessions i).dataTransferInProgress = true) :
    d.SparesTransfer d' i ∧
      transferNotices (d.sessions i).sessionId (response.toList ++ posting.packets) = [] := by
  cases hserved with
  | command response ns errors d' mt responds change error =>
    refine ⟨change_spares hp hd ha hactive change hstill,?_⟩
    have hresponse : transferNotices (d.sessions i).sessionId [response] = [] :=
      notices_none fun n hn => List.mem_singleton.mp hn ▸ response_notice responds
    have herrors : transferNotices (d.sessions i).sessionId errors = [] := by
      rcases error with rfl | ⟨status,rfl⟩
      · rfl
      · refine notices_none fun n hn => List.mem_singleton.mp hn ▸ ?_
        exact notice_none (Or.inr (Or.inl (show ¬ gidCore = gidSessionControl by decide)))
    rw [Option.toList_some, Posting.packets, notices_append, notices_append, hresponse, herrors,
      change_notices change]
    rfl
  | data posting d' mt change =>
    rcases data_spares mt hd ha (hother mt) with ⟨hspares,hnotices⟩
    rw [handled] at hspares
    refine ⟨hspares.trans (.of_same rfl rfl),?_⟩
    rw [← hands, Device.hands, data_response mt]
    exact hnotices

theorem finished_spares (hd : d.DistinctIds) (ha : (d.sessions i).allocated = true)
    (hj : (d.sessions j).allocated = true)
    (hstill : ((d.rangingFinished j).sessions i).state = sessionStateActive) :
    d.SparesTransfer (d.rangingFinished j) i := by
  have hother : i ≠ j := by
    rintro rfl
    have hidle : ((d.rangingFinished i).sessions i).state = sessionStateIdle :=
      congrArg Session.state (Device.setSession_same d i _)
    exact absurd (hstill.symm.trans hidle) (by decide)
  refine .same (Device.setSession_other d _ hother) ?_
  exact keeps_cancelled (fun hid => hother (hd i j ha hj hid.symm)) d.scheduledEvents

theorem sampled_spares {ns : List Packet} (h : Sampled d ns d') : d.SparesTransfer d' i := by
  cases h with
  | silent => exact .refl d i
  | sent payload => exact .of_same rfl rfl

theorem counted_spares (policyResult : PolicyResult) (hsessions : d'.sessions = d.sessions) :
    d'.SparesTransfer (d'.setSession j ((d.sessions j).countMeasurement policyResult)) i := by
  by_cases hj : i = j
  · subst hj
    rw [← hsessions]
    exact .setSession rfl rfl rfl
  · exact .setOther hj _

theorem ranged_spares {rc : Rc} {ns : List Packet}
    (hoid : d.profile.rangeDataNotificationOid ∉ controlNotificationOids) (hd : d.DistinctIds)
    (ha : (d.sessions i).allocated = true) (hj : (d.sessions j).allocated = true)
    (h : Ranged d j rc ns d') (hstill : (d'.sessions i).state = sessionStateActive) :
    d.SparesTransfer d' i ∧ transferNotices (d.sessions i).sessionId ns = [] := by
  have hidle : transferNotices (d.sessions i).sessionId [idleStatus (d.sessions j)] = [] :=
    notices_none fun n hn => List.mem_singleton.mp hn ▸ idle_status_notice _
  cases h with
  | idle => exact ⟨.refl d i,rfl⟩
  | exhausted => exact ⟨finished_spares hd ha hj hstill,hidle⟩
  | unbuilt => exact ⟨.of_same rfl rfl,rfl⟩
  | blocked _ _ _ _ sampled => exact ⟨sampled_spares sampled,sampled_notices hoid sampled⟩
  | measured _ d₁ policyResult _ _ sampled =>
    have hcounted := counted_spares (i := i) (j := j) policyResult (sampled_sessions sampled).1
    exact ⟨(sampled_spares sampled).trans hcounted,sampled_notices hoid sampled⟩
  | finished _ ns d₁ policyResult _ _ sampled =>
    have hsessions := (sampled_sessions sampled).1
    have hcounted := counted_spares (i := i) (j := j) policyResult hsessions
    have hall : ∀ k, ((d₁.setSession j
        ((d.sessions j).countMeasurement policyResult)).sessions k).allocated =
          (d.sessions k).allocated ∧ ((d₁.setSession j
        ((d.sessions j).countMeasurement policyResult)).sessions k).sessionId =
          (d.sessions k).sessionId := by
      intro k
      by_cases hk : k = j
      · subst hk
        rw [Device.setSession_same]
        exact ⟨rfl,rfl⟩
      · rw [Device.setSession_other _ _ hk, hsessions]
        exact ⟨rfl,rfl⟩
    have hdistinct : (d₁.setSession j
        ((d.sessions j).countMeasurement policyResult)).DistinctIds := by
      intro k l hk hl hid
      rw [(hall k).1] at hk
      rw [(hall l).1] at hl
      rw [(hall k).2, (hall l).2] at hid
      exact hd k l hk hl hid
    have hfinished := finished_spares hdistinct ((hall i).1.trans ha) ((hall j).1.trans hj) hstill
    refine ⟨((sampled_spares sampled).trans hcounted).trans hfinished,?_⟩
    rw [notices_append, hidle, sampled_notices hoid sampled]
    rfl

theorem transferred_other {rc : Rc} {ns : List Packet} (hother : i ≠ j)
    (hid : (d.sessions j).sessionId ≠ (d.sessions i).sessionId) (h : Transferred d j rc ns d') :
    d.SparesTransfer d' i ∧ transferNotices (d.sessions i).sessionId ns = [] := by
  cases h with
  | repeated =>
    exact ⟨.setOther hother _,notices_none fun n hn =>
      List.mem_singleton.mp hn ▸ (completion_notices hid _ _ _).2⟩
  | completed => exact ⟨.setOther hother _,(completion_notices hid _ _ _).1⟩

theorem fired_other {event : ScheduledEvent} {flushes : Bool} {ns : List Packet}
    (hoid : d.profile.rangeDataNotificationOid ∉ controlNotificationOids) (hd : d.DistinctIds)
    (ha : (d.sessions i).allocated = true) (hkey : event.key ≠ (d.sessions i).transferKey)
    (h : Fired d event flushes ns d') (hstill : (d'.sessions i).state = sessionStateActive) :
    d.SparesTransfer d' i ∧ transferNotices (d.sessions i).sessionId ns = [] := by
  have htransfer : ∀ {j}, event.type = .dataTransfer → d.findSession event.sessionId = some j →
      i ≠ j ∧ (d.sessions j).sessionId ≠ (d.sessions i).sessionId := by
    intro j type found
    have hj := Device.find_session_some found
    have hid : (d.sessions j).sessionId ≠ (d.sessions i).sessionId :=
      fun hid => hkey (Prod.ext type (hj.2.symm.trans hid))
    exact ⟨fun hsame => hid (hsame ▸ rfl),hid⟩
  have hresumed : ∀ {d' : Device} {type : EventType} {j : Fin maxSessions},
      (type,(d'.sessions j).sessionId) ≠ (d'.sessions i).transferKey →
        d'.SparesTransfer (d'.resumed type j) i := by
    intro d' type j hother
    refine .same ?_ (keeps_resumed d' hother)
    rw [resumed_sessions]
  cases h with
  | unmatched | transferIdle => exact ⟨.refl d i,rfl⟩
  | rangingFailed j _ _ _ found ranged | rangingOver j _ _ _ found ranged =>
    exact ranged_spares hoid hd ha (Device.find_session_some found).1 ranged hstill
  | rangingOn j ns d₁ type found ranged on =>
    rw [resumed_sessions] at hstill
    rcases ranged_spares hoid hd ha (Device.find_session_some found).1 ranged hstill with
      ⟨hspares,hnotices⟩
    exact ⟨hspares.trans (hresumed fun h => absurd (congrArg Prod.fst h) nofun),hnotices⟩
  | transferFailed j _ _ type found active transferred
  | transferOver j _ _ type found active transferred =>
    rcases htransfer type found with ⟨hother,hid⟩
    exact transferred_other hother hid transferred
  | transferOn j ns d₁ type found active transferred on =>
    rcases htransfer type found with ⟨hother,hid⟩
    rcases transferred_other hother hid transferred with ⟨hspares,hnotices⟩
    refine ⟨hspares.trans (hresumed fun h => hid ?_),hnotices⟩
    have hkept : (d₁.sessions j).sessionId = (d.sessions j).sessionId := by
      cases transferred with
      | repeated | completed =>
        rw [Device.setSession_same]
        rfl
    exact hkept.symm.trans ((congrArg Prod.snd h).trans hspares.sessionId)

theorem set_active (session : Session)
    (h : session.state = (d.sessions j).state ∨ session.state = sessionStateIdle)
    (hstill : ((d.setSession j session).sessions i).state = sessionStateActive) :
    (d.sessions i).state = sessionStateActive := by
  by_cases hj : i = j
  · subst hj
    rw [Device.setSession_same] at hstill
    rcases h with h | h
    · exact h.symm.trans hstill
    · exact absurd (h.symm.trans hstill) (by decide)
  · rwa [Device.setSession_other _ _ hj] at hstill

theorem ranged_active {rc : Rc} {ns : List Packet} (h : Ranged d j rc ns d')
    (hstill : (d'.sessions i).state = sessionStateActive) :
    (d.sessions i).state = sessionStateActive := by
  have hcounted : ∀ {ns : List Packet} {d₁ : Device} (policyResult : PolicyResult),
      Sampled d ns d₁ → ((d₁.setSession j
        ((d.sessions j).countMeasurement policyResult)).sessions i).state = sessionStateActive →
          (d.sessions i).state = sessionStateActive := by
    intro ns d₁ policyResult hsampled hstill
    have hsessions := (sampled_sessions hsampled).1
    rw [← hsessions] at hstill ⊢
    exact set_active ((d₁.sessions j).countMeasurement policyResult) (Or.inl rfl) hstill
  cases h with
  | idle | unbuilt => exact hstill
  | exhausted => exact set_active (d.sessions j).endStream (Or.inr rfl) hstill
  | blocked _ _ _ _ sampled =>
    rwa [(sampled_sessions sampled).1] at hstill
  | measured _ d₁ policyResult _ _ sampled => exact hcounted policyResult sampled hstill
  | finished _ ns d₁ policyResult _ _ sampled =>
    exact hcounted policyResult sampled (set_active _ (Or.inr rfl) hstill)

theorem fired_active {event : ScheduledEvent} {flushes : Bool} {ns : List Packet}
    (h : Fired d event flushes ns d') (hstill : (d'.sessions i).state = sessionStateActive) :
    (d.sessions i).state = sessionStateActive := by
  have htransferred : ∀ {rc ns d₁} {j : Fin maxSessions}, Transferred d j rc ns d₁ →
      (d₁.sessions i).state = sessionStateActive → (d.sessions i).state = sessionStateActive := by
    intro rc ns d₁ j htransferred hstill
    cases htransferred with
    | repeated => exact set_active (d.sessions j).repeatTransfer (Or.inl rfl) hstill
    | completed => exact set_active (d.sessions j).finishTransfer (Or.inl rfl) hstill
  cases h with
  | unmatched | transferIdle => exact hstill
  | rangingFailed _ _ _ _ _ ranged | rangingOver _ _ _ _ _ ranged =>
    exact ranged_active ranged hstill
  | rangingOn _ _ _ _ _ ranged =>
    rw [resumed_sessions] at hstill
    exact ranged_active ranged hstill
  | transferFailed _ _ _ _ _ _ transferred | transferOver _ _ _ _ _ _ transferred =>
    exact htransferred transferred hstill
  | transferOn _ _ _ _ _ _ transferred =>
    rw [resumed_sessions] at hstill
    exact htransferred transferred hstill

theorem ticked_active {elapsedMs : UInt32} {flushes : Bool} {ns : List Packet}
    (h : Ticked d elapsedMs flushes ns d') (hstill : (d'.sessions i).state = sessionStateActive) :
    (d.sessions i).state = sessionStateActive := by
  cases h with
  | waiting => exact hstill
  | served event d₁ _ _ _ ready fired =>
    rcases Device.dequeue_ready_event_some ready with ⟨-,rfl⟩
    have hbefore := fired_active fired hstill
    exact hbefore

theorem fired_own {event : ScheduledEvent} {flushes : Bool} {ns : List Packet}
    (hd : d.DistinctIds) (ha : (d.sessions i).allocated = true)
    (hidle : d.pendingNotifications = []) (hroom : d.scheduledEvents.length < maxScenarioEvents)
    (hactive : (d.sessions i).state = sessionStateActive)
    (hprogress : (d.sessions i).dataTransferInProgress = true)
    (hkey : event.key = (d.sessions i).transferKey) (h : Fired d event flushes ns d') :
    ((d.sessions i).dataTransferRepetitionsRemaining > 0 ∧
        ns = [dataTransferStatusNotification (d.sessions i).sessionId
          (d.sessions i).dataTransferSequence dataTransferStatusRepetitionOk
          (d.sessions i).transmit.dataTransferTxCount] ∧
        d' = (d.setSession i (d.sessions i).repeatTransfer).withEvents (d.scheduledEvents ++
          [⟨.dataTransfer,(d.sessions i).sessionId,
            (d.sessions i).getRangingIntervalMs d.profile⟩])) ∨
      (¬ (d.sessions i).dataTransferRepetitionsRemaining > 0 ∧
        ns = dataCompletion (d.sessions i).sessionId (d.sessions i).dataTransferSequence
          dataTransferStatusOk (d.sessions i).transmit.dataTransferTxCount ∧
        d' = d.setSession i (d.sessions i).finishTransfer) := by
  have htype : event.type = .dataTransfer := congrArg Prod.fst hkey
  have hfound : d.findSession event.sessionId = some i := by
    rw [show event.sessionId = (d.sessions i).sessionId from congrArg Prod.snd hkey]
    exact Device.find_session_of_allocated hd ha
  have hsame : ∀ {j}, d.findSession event.sessionId = some j → j = i :=
    fun hj => Option.some.inj (hj.symm.trans hfound)
  cases h with
  | unmatched h =>
    rcases h with h | h
    · exact absurd (htype.symm.trans h) nofun
    · exact absurd (hfound.symm.trans h) nofun
  | rangingFailed _ _ _ type | rangingOver _ _ _ type | rangingOn _ _ _ type =>
    exact absurd (htype.symm.trans type) nofun
  | transferIdle j type found idle =>
    cases hsame found
    rcases idle with h | h
    · exact absurd hactive h
    · exact absurd (hprogress.symm.trans h) (by decide)
  | transferFailed j _ _ type found active transferred =>
    cases transferred_ok transferred hidle
  | transferOver j _ _ type found active transferred ended =>
    cases hsame found
    cases transferred with
    | repeated _ inProgress =>
      rw [Device.setSession_same] at ended
      exact absurd (hprogress.symm.trans ended) (by decide)
    | completed _ inProgress remaining => exact Or.inr ⟨remaining,rfl,rfl⟩
  | transferOn j _ d₁ type found active transferred on =>
    cases hsame found
    cases transferred with
    | repeated _ inProgress remaining =>
      refine Or.inl ⟨remaining,rfl,?_⟩
      unfold Device.resumed
      rw [Device.schedule_event_room _ _ _ _ (by decide) (by exact hroom), Device.setSession_same]
      rfl
    | completed =>
      rw [Device.setSession_same] at on
      cases on

end

end UciSim
