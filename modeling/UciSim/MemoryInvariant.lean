import UciSim.MemoryState

/-!
# What keeps the state in its arrays

Each operation of the model leaves a state in its arrays there: a table grows
only below its capacity, and a value is stored only at a length its array has.
-/

set_option autoImplicit false

namespace UciSim

open Arrays

namespace Session.InArrays

variable {session session' : Session}

theorem zero : Session.zero.InArrays := by
  constructor
  · exact Nat.zero_le _
  · exact nofun
  · exact List.length_replicate
  · exact fun entry h => absurd (List.eq_of_mem_replicate h) nofun
  · exact Nat.zero_le _
  · exact Nat.zero_le _
  · exact Nat.zero_le _
  · exact Nat.zero_le _

/-- A change outside the arrays. -/
theorem congr (h : session.InArrays) (hc : session'.configs = session.configs)
    (hm : session'.multicastEntries = session.multicastEntries)
    (hl : session'.logicalLinks = session.logicalLinks)
    (ha : session'.dtAnchorRoundIndexes = session.dtAnchorRoundIndexes)
    (ht : session'.dtTagRoundIndexes = session.dtTagRoundIndexes)
    (hd : session'.dtpPayload = session.dtpPayload) : session'.InArrays where
  configs := hc ▸ h.configs
  values := hc ▸ h.values
  multicast := hm ▸ h.multicast
  keys := hm ▸ h.keys
  links := hl ▸ h.links
  anchorRounds := ha ▸ h.anchorRounds
  tagRounds := ht ▸ h.tagRounds
  dtp := hd ▸ h.dtp

theorem with_configs (h : session.InArrays) {configs : List (UInt8 × List UInt8)}
    (hl : configs.length ≤ maxSessionConfigs)
    (hv : ∀ entry ∈ configs, entry.2.length ≤ maxConfigValue) :
    { session with configs := configs }.InArrays :=
  ⟨hl,hv,h.multicast,h.keys,h.links,h.anchorRounds,h.tagRounds,h.dtp⟩

theorem with_multicast (h : session.InArrays) {entries : List (Option MulticastEntry)}
    (hl : entries.length = maxMulticastEntries)
    (hk : ∀ entry, some entry ∈ entries → entry.key.length ≤ multicastKeySize) :
    { session with multicastEntries := entries }.InArrays :=
  ⟨h.configs,h.values,hl,hk,h.links,h.anchorRounds,h.tagRounds,h.dtp⟩

theorem with_links (h : session.InArrays) {links : List LogicalLink}
    (hl : links.length ≤ maxLogicalLinks) : { session with logicalLinks := links }.InArrays :=
  ⟨h.configs,h.values,h.multicast,h.keys,hl,h.anchorRounds,h.tagRounds,h.dtp⟩

theorem with_anchor_rounds (h : session.InArrays) {rounds : List UInt8}
    (hl : rounds.length ≤ maxDtRounds) :
    { session with dtAnchorRoundIndexes := rounds }.InArrays :=
  ⟨h.configs,h.values,h.multicast,h.keys,h.links,hl,h.tagRounds,h.dtp⟩

theorem with_tag_rounds (h : session.InArrays) {rounds : List UInt8}
    (hl : rounds.length ≤ maxDtRounds) : { session with dtTagRoundIndexes := rounds }.InArrays :=
  ⟨h.configs,h.values,h.multicast,h.keys,h.links,h.anchorRounds,hl,h.dtp⟩

theorem with_dtp (h : session.InArrays) {repetition control dtpSize : UInt8}
    {bytes : List UInt8} (hl : bytes.length ≤ dtpPayloadSize) :
    { session with
      dtpRepetition := repetition
      dtpControl := control
      dtpSize := dtpSize
      dtpPayload := bytes }.InArrays :=
  ⟨h.configs,h.values,h.multicast,h.keys,h.links,h.anchorRounds,h.tagRounds,hl⟩

theorem stored (h : session.InArrays) {configId : UInt8} {value : List UInt8}
    (hstore : session.storeConfig configId value = some session') : session'.InArrays := by
  rcases store_config_some hstore with ⟨hlength,configs,htable,rfl⟩
  refine h.with_configs (Table.store_length_le _ _ _ _ _ h.configs htable) ?_
  intro entry hmem
  rcases Table.store_mem htable hmem with hnew | hold
  · rw [hnew]
    exact hlength
  · exact h.values entry hold

theorem store_defaults (h : session.InArrays) (defaults : List (UInt8 × List UInt8)) :
    (session.storeDefaults defaults).InArrays := by
  induction defaults generalizing session with
  | nil => exact h
  | cons entry defaults ih =>
    refine ih (?_ : ((session.storeConfig entry.1 entry.2).getD session).InArrays)
    cases hstore : session.storeConfig entry.1 entry.2 with
    | none => exact h
    | some session' => exact h.stored hstore

theorem forget_proximity (h : session.InArrays) (configId : UInt8) :
    (session.forgetProximity configId).InArrays := by
  unfold forgetProximity
  split
  · exact h.congr rfl rfl rfl rfl rfl rfl
  · exact h

theorem set_multicast (h : session.InArrays) (i : ℕ) {slot : Option MulticastEntry}
    (hk : ∀ entry, some entry = slot → entry.key.length ≤ multicastKeySize) :
    { session with multicastEntries := session.multicastEntries.set i slot }.InArrays := by
  refine h.with_multicast (by rw [List.length_set]; exact h.multicast) ?_
  intro entry hmem
  rcases List.mem_or_eq_of_mem_set hmem with hold | hnew
  · exact h.keys entry hold
  · exact hk entry hnew

theorem add_multicast_entry (h : session.InArrays) (shortAddress : UInt16)
    (subsessionId : UInt32) (key : List UInt8) :
    (session.addMulticastEntry shortAddress subsessionId key).2.InArrays := by
  unfold addMulticastEntry
  by_cases hlong : key.length > 32
  · rw [if_pos hlong]
    exact h
  rw [if_neg hlong]
  split
  · exact h
  split
  · refine h.set_multicast _ ?_
    intro entry he
    cases he
    exact Nat.le_of_not_lt hlong
  · exact h

theorem remove_multicast_entry (h : session.InArrays) (shortAddress : UInt16)
    (subsessionId : UInt32) :
    (session.removeMulticastEntry shortAddress subsessionId).2.InArrays := by
  unfold removeMulticastEntry
  split
  · exact h.set_multicast _ nofun
  · exact h

theorem allocate_logical_link (h : session.InArrays) {requestedId mode credit id : UInt8}
    (ha : session.allocateLogicalLink requestedId mode credit = some (id,session')) :
    session'.InArrays := by
  unfold allocateLogicalLink at ha
  by_cases hfull : session.logicalLinks.length ≥ maxLogicalLinks
  · rw [if_pos hfull] at ha
    cases ha
  rw [if_neg hfull] at ha
  cases hid : (if requestedId = 0xFF then session.freeLinkId else some requestedId) with
  | none =>
    rw [hid] at ha
    cases ha
  | some found =>
    rw [hid] at ha
    cases ha
    refine h.with_links ?_
    rw [List.length_append, List.length_singleton]
    omega

theorem remove_logical_link (h : session.InArrays) {linkId : UInt8}
    (hr : session.removeLogicalLink linkId = some session') : session'.InArrays := by
  unfold removeLogicalLink at hr
  split at hr
  · cases hr
    exact h.with_links ((List.length_eraseP_le).trans h.links)
  · cases hr

end Session.InArrays

namespace Device.InArrays

variable {d d' : Device}

theorem congr (h : d.InArrays) (hc : d'.deviceConfigs = d.deviceConfigs)
    (hs : d'.sessions = d.sessions) (he : d'.scheduledEvents = d.scheduledEvents)
    (hp : d'.pendingNotifications = d.pendingNotifications) : d'.InArrays where
  configs := hc ▸ h.configs
  values := hc ▸ h.values
  sessions := hs ▸ h.sessions
  events := he ▸ h.events
  pending := hp ▸ h.pending

theorem set_session (h : d.InArrays) (i : Fin maxSessions) {session : Session}
    (hs : session.InArrays) : (d.setSession i session).InArrays := by
  refine ⟨h.configs,h.values,?_,h.events,h.pending⟩
  intro j
  by_cases hj : j = i
  · rw [hj, Device.setSession_same]
    exact hs
  · rw [Device.setSession_other d session hj]
    exact h.sessions j

theorem with_events (h : d.InArrays) {events : List ScheduledEvent}
    (hl : events.length ≤ maxScenarioEvents) : (d.withEvents events).InArrays :=
  ⟨h.configs,h.values,h.sessions,hl,h.pending⟩

theorem with_pending (h : d.InArrays) {pending : List Packet}
    (hl : pending.length ≤ maxPendingNotifications) : (d.withPending pending).InArrays :=
  ⟨h.configs,h.values,h.sessions,h.events,hl⟩

theorem schedule_event (h : d.InArrays) (type : EventType) (sessionId delayMs : UInt32) :
    (d.scheduleEvent type sessionId delayMs).2.InArrays := by
  unfold scheduleEvent
  split
  · exact h
  split
  · exact h
  · refine h.with_events ?_
    rw [List.length_append, List.length_singleton]
    omega

theorem reschedule_session_event (h : d.InArrays) (type : EventType)
    (sessionId delayMs : UInt32) :
    (d.rescheduleSessionEvent type sessionId delayMs).2.InArrays := by
  unfold rescheduleSessionEvent
  split
  · exact h
  · exact (h.with_events ((List.length_filter_le _ _).trans h.events)).schedule_event _ _ _

theorem cancel_session_events (h : d.InArrays) (sessionId : UInt32) :
    (d.cancelSessionEvents sessionId).InArrays :=
  h.with_events ((List.length_filter_le _ _).trans h.events)

theorem store_config (h : d.InArrays) {configId : UInt8} {value : List UInt8}
    (hstore : d.storeConfig configId value = some d') : d'.InArrays := by
  rcases store_config_some hstore with ⟨hlength,configs,htable,rfl⟩
  refine ⟨Table.store_length_le _ _ _ _ _ h.configs htable,?_,h.sessions,h.events,h.pending⟩
  intro entry hmem
  rcases Table.store_mem htable hmem with hnew | hold
  · rw [hnew]
    exact hlength
  · exact h.values entry hold

/-- The defaults of a profile fill three entries of one or two bytes. -/
theorem of_defaults (hc : d.deviceConfigs = [
      (deviceConfigDeviceState,[d.profile.defaultDeviceState]),
      (deviceConfigLowPowerMode,[d.profile.defaultLowPowerMode]),
      (deviceConfigDevicePanId,[d.profile.defaultDevicePanId.1,d.profile.defaultDevicePanId.2])])
    (hs : d.sessions = fun _ => Session.zero) (he : d.scheduledEvents = [])
    (hp : d.pendingNotifications = []) : d.InArrays := by
  constructor
  · rw [hc]
    exact show 3 ≤ maxDeviceConfigs by decide
  · rw [hc]
    intro entry hmem
    have hlen : entry.2.length ≤ 2 := by
      simp only [List.mem_cons, List.not_mem_nil, or_false] at hmem
      rcases hmem with rfl | rfl | rfl <;> simp
    exact hlen.trans (by decide)
  · rw [hs]
    exact fun _ => Session.InArrays.zero
  · rw [he]
    exact Nat.zero_le _
  · rw [hp]
    exact Nat.zero_le _

theorem init (profile : Profile) (scenario : Scenario) :
    (Device.initWithProfile profile scenario).InArrays := of_defaults rfl rfl rfl rfl

theorem reset (d : Device) : d.resetRuntimeState.InArrays := of_defaults rfl rfl rfl rfl

theorem alloc_session (h : d.InArrays) {sessionId : UInt32} {i : Fin maxSessions}
    (ha : d.allocSession sessionId = some (i,d')) : d'.InArrays := by
  rcases alloc_session_some ha with ⟨-,rfl⟩
  refine h.set_session i (Session.InArrays.store_defaults ?_ _)
  exact (h.sessions i).congr rfl rfl rfl rfl rfl rfl

end Device.InArrays

namespace Exchange

variable {x : Exchange}

theorem queue_in_arrays (h : x.device.InArrays) (n : Packet) :
    (x.queueNotification n).2.device.InArrays := by
  unfold queueNotification
  split
  · exact h
  · refine h.with_pending (?_ : (x.device.pendingNotifications ++ [n]).length ≤ _)
    rw [List.length_append, List.length_singleton]
    omega

theorem emit_in_arrays (h : x.device.InArrays) (n : Packet) : (x.emit n).device.InArrays := by
  unfold emit deliverNotification
  split
  · exact queue_in_arrays h n
  split
  · exact h
  · exact queue_in_arrays h n

theorem finalize_in_arrays (h : x.device.InArrays) (pendingCountBefore : ℕ) :
    (x.finalizeResult pendingCountBefore).device.InArrays := by
  unfold finalizeResult
  split
  · exact h
  split
  · exact h
  cases hq : x.device.pendingNotifications with
  | nil =>
    rw [Device.dequeueNotification, hq]
    exact h
  | cons packet rest =>
    have hlen := h.pending
    rw [hq, List.length_cons] at hlen
    rw [Device.dequeueNotification, hq]
    exact h.with_pending (show rest.length ≤ _ by omega)

end Exchange

end UciSim
