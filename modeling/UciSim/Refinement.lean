import UciSim.PacketActions

/-!
# The device refines its view

Every change of a packet and every event served is the path of actions that the
view takes, and what is posted carries the signals of that path.
-/

set_option autoImplicit false

namespace UciSim

open View

theorem signals_silent (actions : List Action) (h : ∀ a ∈ actions, ∀ v : View, v.signal a = none)
    (v : View) : v.signals actions = [] := by
  induction actions generalizing v with
  | nil => rfl
  | cons a actions ih =>
    rw [View.signals, h a List.mem_cons_self v,
      ih (fun b hb => h b (List.mem_cons_of_mem a hb))]
    rfl

theorem reschedule_view (d : Device) (i : Fin maxSessions) (delayMs : UInt32) :
    (d.rescheduleSessionEvent .rangeData (d.sessions i).sessionId delayMs).2.view =
      d.view.apply (.rescheduled i delayMs) := by
  rw [Device.reschedule_session_event_snd _ .rangeData _ _ (by decide)]
  unfold Device.rescheduledEvents
  simp only [View.apply, View.resume, View.schedule]
  have hevents : (d.view.without .rangeData (d.view.slots i).sessionId).events =
      d.eventsWithout .rangeData (d.sessions i).sessionId := rfl
  rw [hevents]
  split <;> rfl

theorem forget_proximity_slot (session : Session) (configId : UInt8) :
    (session.forgetProximity configId).slot = session.slot := by
  unfold Session.forgetProximity
  split <;> rfl

theorem store_config_slot {session session' : Session} {configId : UInt8} {value : List UInt8}
    (h : session.storeConfig configId value = some session') : session'.slot = session.slot := by
  rw [store_config_eq h]
  rfl

theorem reconfigured_delays {d d' : Device} {i : Fin maxSessions}
    (h : Reconfigured i d d') (ha : (d.sessions i).allocated = true) :
    ∃ delays : List UInt32,
      Runs.Along View.apply Enabled d.view (delays.map (.rescheduled i)) ∧
      Runs.run View.apply d.view (delays.map (.rescheduled i)) = d'.view ∧
      (d'.sessions i).slot = (d.sessions i).slot := by
  induction h with
  | same => exact ⟨[],trivial,rfl,rfl⟩
  | stored d' configId value session before admitted supported stored ih =>
    obtain ⟨delays,halong,hrun,hslot⟩ := ih
    have hkept : (session.forgetProximity configId).slot = (d'.sessions i).slot :=
      (forget_proximity_slot _ _).trans (store_config_slot stored)
    refine ⟨delays,halong,?_,?_⟩
    · rw [hrun, Device.view_kept d' i _ hkept]
    · rw [Device.setSession_same, hkept, hslot]
  | rescheduled d' delayMs before active streaming ih =>
    obtain ⟨delays,halong,hrun,hslot⟩ := ih
    have ha' : (d'.sessions i).allocated = true := by
      have := congrArg Slot.allocated hslot
      exact this.trans ha
    refine ⟨delays ++ [delayMs],?_,?_,?_⟩
    · rw [List.map_append, Runs.along_append, hrun]
      exact ⟨halong,⟨ha',active⟩,trivial⟩
    · rw [List.map_append, Runs.run_append, hrun, reschedule_view]
      rfl
    · rw [Device.reschedule_session_event_snd _ .rangeData _ _ (by decide)]
      exact hslot

theorem fresh_slot {d : Device} (hp : d.profile.StartStop) (i : Fin maxSessions)
    (sessionId : UInt32) :
    (d.freshSession i sessionId).slot = (d.sessions i).slot.opened sessionId := by
  rw [fresh_session_eq]
  simp only [Session.slot, Slot.opened, hp.initial]

theorem entering_slot (d : Device) (oid : UInt8) (i : Fin maxSessions) (nextState : UInt8) :
    (d.entering oid i nextState).slot = { (d.sessions i).slot with state := nextState } := by
  unfold Device.entering
  dsimp only
  split <;> rfl

theorem entering_interval (d : Device) (oid : UInt8) (i : Fin maxSessions) (nextState : UInt8)
    (profile : Profile) : (d.entering oid i nextState).getRangingIntervalMs profile =
      (d.sessions i).getRangingIntervalMs profile := by
  unfold Device.entering
  dsimp only
  split <;> rfl

theorem entering_id (d : Device) (oid : UInt8) (i : Fin maxSessions) (nextState : UInt8) :
    (d.entering oid i nextState).sessionId = (d.sessions i).sessionId :=
  congrArg Slot.sessionId (entering_slot d oid i nextState)

theorem started_view (d : Device) (i : Fin maxSessions) :
    (d.entered sessionStart i sessionStateActive).view =
      d.view.apply (.started i (streamOf d i)) := by
  have hslot := entering_slot d sessionStart i sessionStateActive
  unfold Device.entered Device.reactToTransition streamOf
  rw [if_pos rfl, started_eq]
  by_cases hs : d.scenario = .rangingStream
  swap
  · rw [if_neg hs, if_neg (show ¬ (d.setSession i _).scenario = .rangingStream from hs),
      Device.view_setSession, hslot]
    rfl
  rw [if_pos hs, if_pos (show (d.setSession i _).scenario = .rangingStream from hs)]
  have hstream : ((d.entering sessionStart i sessionStateActive).startStream
      d.profile.rangingStreamBurstCount).slot =
        (d.view.slots i).activated.counting d.profile.rangingStreamBurstCount :=
    congrArg (fun s => Slot.counting s d.profile.rangingStreamBurstCount) hslot
  simp only [Device.setSession_same, Device.setSession_setSession, Device.setSession_profile]
  have hview : ((d.setSession i ((d.entering sessionStart i sessionStateActive).startStream
      d.profile.rangingStreamBurstCount)).withEvents
        (streamEvents (d.setSession i (d.entering sessionStart i sessionStateActive)) i)).view =
      (d.view.setSlot i ((d.view.slots i).activated.counting
        d.profile.rangingStreamBurstCount)).withEvents
        (streamEvents (d.setSession i (d.entering sessionStart i sessionStateActive)) i) := by
    rw [← hstream, ← Device.view_setSession]
    rfl
  rw [hview]
  simp only [View.apply, View.resume, View.setSlot_same]
  unfold streamEvents
  simp only [Device.setSession_same, Device.setSession_profile, Device.setSession_events,
    entering_interval, entering_id]
  by_cases hb : d.profile.rangingStreamBurstCount = 0
  · rw [if_pos hb, if_pos (Or.inl hb)]
    rfl
  · rw [if_neg hb]
    by_cases hfull : d.scheduledEvents.length ≥ maxScenarioEvents
    · rw [if_pos (Or.inr hfull)]
      exact (View.schedule_full _ _ _ hfull).symm
    · rw [if_neg (show ¬ (_ ∨ _) from fun h => h.elim hb hfull)]
      exact (View.schedule_room _ _ _ (Nat.lt_of_not_le hfull)).symm

theorem stopped_view (d : Device) (i : Fin maxSessions) :
    (d.entered sessionStop i sessionStateIdle).view = d.view.apply (.stopped i) := by
  have hslot := entering_slot d sessionStop i sessionStateIdle
  unfold Device.entered Device.reactToTransition Device.onSessionStopped
  rw [if_neg (show ¬ sessionStop = sessionStart by decide), if_pos rfl]
  simp only [Device.setSession_same, Device.setSession_setSession, entering_id]
  have hstop : (d.entering sessionStop i sessionStateIdle).stopStream.slot =
      (d.view.slots i).stopped :=
    congrArg Slot.stopped hslot
  have hview : ((d.setSession i (d.entering sessionStop i sessionStateIdle).stopStream
      ).cancelSessionEvents (d.sessions i).sessionId).view =
      (d.setSession i (d.entering sessionStop i sessionStateIdle).stopStream).view.cancel
        (d.sessions i).sessionId := rfl
  rw [hview, Device.view_setSession, hstop]
  rfl

theorem found_slot {d : Device} {sessionId : UInt32} {i : Fin maxSessions}
    (h : d.findSession sessionId = some i) :
    (d.view.slots i).allocated = true ∧ (d.view.slots i).sessionId = sessionId :=
  Device.find_session_some h

theorem status_signals {v : View} {a : Action} {sessionId : UInt32} {state : UInt8}
    (reason : UInt8) (h : v.signal a = some (.status sessionId state)) :
    [sessionStatusNotification sessionId state reason].filterMap Packet.signal =
      (v.signal a).toList := by
  rw [h]
  simp [status_signal]

theorem change_actions {d d' : Device} {request : Packet} {ns : List Packet}
    (hp : d.profile.StartStop) (hw : d.view.WellFormed) (hmt : request.mt = mtCommand)
    (h : Change d request ns d') :
    ∃ actions, PacketActions d request actions ∧ Explains d.view actions ns d'.view := by
  cases h with
  | housekept _ same =>
    exact ⟨[],.none,explains_nothing (Device.view_congr same.sessions same.events) rfl⟩
  | edited i session allocated lifecycle =>
    exact ⟨[],.none,explains_nothing (Device.view_kept d i session lifecycle.slot) rfl⟩
  | linked i session sessionId oid linkId credit allocated lifecycle =>
    refine ⟨[],.none,explains_nothing (Device.view_kept d i session lifecycle.slot) ?_⟩
    simp [logicalLinkNotification, control_signal]
  | configured i _ _ _ found steps =>
    obtain ⟨allocated,-⟩ := Device.find_session_some found
    obtain ⟨delays,halong,hrun,-⟩ := reconfigured_delays steps allocated
    refine ⟨_,.rescheduled i delays,halong,hrun,?_⟩
    rw [signals_silent]
    · rfl
    · intro a ha v
      obtain ⟨delayMs,-,rfl⟩ := List.mem_map.mp ha
      rfl
  | reported sessionId i reason found =>
    obtain ⟨ha,hid⟩ := found_slot found
    refine ⟨_,.reported i,explains_one ha rfl (status_signals reason ?_)⟩
    rw [← hid]
    rfl
  | opened sessionId i reason absent free =>
    rw [hp.initial]
    refine ⟨_,.opened i sessionId,explains_one ⟨Device.free_session_some free,
      Device.find_session_none absent⟩ ?_ (status_signals reason rfl)⟩
    rw [Device.view_setSession, fresh_slot hp]
    rfl
  | closed i reason command supported long found =>
    obtain ⟨ha,hid⟩ := found_slot found
    refine ⟨_,.closed i ⟨hmt,command.1,command.2,supported,long,found⟩,
      explains_one ha (Device.view_setSession d i Session.zero) (status_signals reason ?_)⟩
    rw [← hid]
    rfl
  | moved i reason t command supported long found listed allowed valid =>
    obtain ⟨ha,hid⟩ := found_slot found
    obtain hoid | hoid := hp.others _ t listed
    · rw [hoid] at listed
      obtain ⟨hnext,hactive⟩ := hp.start t listed
      have hrest : (d.view.slots i).state = sessionStateInit ∨
          (d.view.slots i).state = sessionStateIdle := by
        obtain h | h | h := hw.known i ha
        · exact Or.inl h
        · have hallows : t.allows sessionStateActive = true := h ▸ allowed
          rw [hactive] at hallows
          cases hallows
        · exact Or.inr h
      refine ⟨_,.started i ⟨⟨hmt,command,hoid,supported,long,found,t,listed,allowed⟩,valid hoid⟩,
        explains_one ⟨ha,hrest⟩ ?_ (status_signals reason ?_)⟩
      · rw [hoid, hnext]
        exact started_view d i
      · rw [← hid, hnext]
        rfl
    · rw [hoid] at listed
      obtain ⟨hnext,hinit,hidle⟩ := hp.stop t listed
      have hactive : (d.view.slots i).state = sessionStateActive := by
        obtain h | h | h := hw.known i ha
        · have hallows : t.allows sessionStateInit = true := h ▸ allowed
          rw [hinit] at hallows
          cases hallows
        · exact h
        · have hallows : t.allows sessionStateIdle = true := h ▸ allowed
          rw [hidle] at hallows
          cases hallows
      refine ⟨_,.stopped i ⟨hmt,command,hoid,supported,long,found,t,listed,allowed⟩,
        explains_one ⟨ha,hactive⟩ ?_ (status_signals reason ?_)⟩
      · rw [hoid, hnext]
        exact stopped_view d i
      · rw [← hid, hnext]
        rfl
  | reset command value =>
    exact ⟨_,.reset ⟨hmt,command.1,command.2,value⟩,explains_one trivial rfl rfl⟩

theorem data_completion_signals (sessionId : UInt32) (sequenceNumber : UInt16)
    (status txCount : UInt8) :
    (dataCompletion sessionId sequenceNumber status txCount).filterMap Packet.signal = [] := by
  simp [dataCompletion, dataCreditNotification, dataTransferStatusNotification, control_signal]

theorem data_change_actions {d d' : Device} {request : Packet} {posting : Posting}
    (h : DataChange d request posting d') :
    ∃ actions, PacketActions d request actions ∧
      Explains d.view actions posting.packets d'.view := by
  cases h with
  | ignored => exact ⟨[],.none,explains_nothing rfl rfl⟩
  | refused sessionId sequenceNumber status txCount =>
    refine ⟨[],.none,explains_nothing rfl ?_⟩
    simp [Posting.packets, dataTransferStatusNotification, control_signal]
  | repeated i sequenceNumber found active =>
    exact ⟨[],.none,explains_nothing rfl (data_completion_signals _ _ _ _)⟩
  | completed i sequenceNumber declaredLength found active idle =>
    exact ⟨[],.none,explains_nothing (Device.view_kept d i _ rfl)
      (data_completion_signals _ _ _ _)⟩
  | begun i sequenceNumber declaredLength delayMs found active idle room =>
    obtain ⟨ha,hid⟩ := found_slot found
    refine ⟨_,.begun i delayMs,explains_one ⟨ha,active,idle,room⟩ ?_ rfl⟩
    rw [← hid]
    refine Eq.trans ?_ (View.schedule_room _ _ _ room).symm
    have hview := Device.view_setSession d i
      (((d.sessions i).rememberData sequenceNumber declaredLength).beginTransfer
        (d.sessions i).getDataRepetitionCount sequenceNumber)
    rw [View.setSlot_same]
    exact congrArg (fun v : View => v.withEvents
      (d.scheduledEvents ++ [⟨.dataTransfer,(d.sessions i).sessionId,delayMs⟩])) hview
  | unscheduled i sequenceNumber declaredLength found active idle full =>
    refine ⟨[],.none,explains_nothing (Device.view_kept d i _ ?_) rfl⟩
    simp only [Session.slot, idle]
    rfl

/-- A packet is a path of actions, and what it answers and posts carries their signals. -/
theorem served_actions {d d' : Device} {request : Packet} {response : Option Packet}
    {posting : Posting} (hp : d.profile.StartStop) (hw : d.view.WellFormed)
    (h : Served d request response posting d') :
    ∃ actions, PacketActions d request actions ∧
      Explains d.view actions (response.toList ++ posting.packets) d'.view := by
  cases h with
  | command response ns errors d' mt responds change error =>
    obtain ⟨actions,hactions,henabled,hreaches,hsignals⟩ := change_actions hp hw mt change
    have herrors : errors.filterMap Packet.signal = [] := by
      obtain rfl | ⟨status,rfl⟩ := error
      · rfl
      · simp [Packet.signal_quiet (generic_error_quiet status)]
    refine ⟨actions,hactions,henabled,hreaches,?_⟩
    simp [Posting.packets, List.filterMap_append, response_signal responds, hsignals, herrors]
  | data posting d' mt change => exact data_change_actions change

end UciSim
