import UciSim.EventQueue
import UciSim.ConfigEffects
import UciSim.General.Arrays

/-!
# The arrays behind the state

A session and a device hold their lists in arrays of fixed size. Each operation
on them appears here with the accesses it makes: a search visits the counted
cells, a copy moves the counted bytes and an append writes the next cell. With
the state in its arrays every operation returns what the model's own does.
-/

set_option autoImplicit false

namespace UciSim

open Arrays

abbrev multicastKeySize : ℕ := 32
abbrev dtpPayloadSize : ℕ := 64

structure Session.InArrays (session : Session) : Prop where
  configs : session.configs.length ≤ maxSessionConfigs
  values : ∀ entry ∈ session.configs, entry.2.length ≤ maxConfigValue
  multicast : session.multicastEntries.length = maxMulticastEntries
  keys : ∀ entry, some entry ∈ session.multicastEntries → entry.key.length ≤ multicastKeySize
  links : session.logicalLinks.length ≤ maxLogicalLinks
  anchorRounds : session.dtAnchorRoundIndexes.length ≤ maxDtRounds
  tagRounds : session.dtTagRoundIndexes.length ≤ maxDtRounds
  dtp : session.dtpPayload.length ≤ dtpPayloadSize

/-- Every table, list and stored value is no longer than the array that holds it. -/
structure Device.InArrays (d : Device) : Prop where
  configs : d.deviceConfigs.length ≤ maxDeviceConfigs
  values : ∀ entry ∈ d.deviceConfigs, entry.2.length ≤ maxConfigValue
  sessions : ∀ i, (d.sessions i).InArrays
  events : d.scheduledEvents.length ≤ maxScenarioEvents
  pending : d.pendingNotifications.length ≤ maxPendingNotifications

theorem lookup_mem {key : UInt8} {value : List UInt8} {table : List (UInt8 × List UInt8)}
    (h : Table.lookup key table = some value) : (key,value) ∈ table := by
  induction table with
  | nil => cases h
  | cons entry rest ih =>
    rcases entry with ⟨k,v⟩
    by_cases hk : k = key
    · rw [Table.lookup, if_pos hk] at h
      cases h
      rw [hk]
      exact List.mem_cons_self
    · rw [Table.lookup, if_neg hk] at h
      exact List.mem_cons_of_mem _ (ih h)

namespace Memory

def sessionStoreConfig (session : Session) (configId : UInt8) (value : Span UInt8) :
    Checked (Option Session) :=
  if value.length > maxConfigValue then .ok none
  else match Table.slot maxSessionConfigs session.configs configId with
    | none => .ok none
    | some slot => do
      touch slot 1 maxSessionConfigs
      let bytes ← value.copyTo maxConfigValue
      return session.storeConfig configId bytes

/-- The stored bytes are copied to a local array of the same size. -/
def sessionGetConfig (session : Session) (configId : UInt8) : Checked (Option (List UInt8)) :=
  match session.getConfig configId with
  | none => .ok none
  | some value => do
    touch 0 value.length maxConfigValue
    return some value

def deviceStoreConfig (device : Device) (configId : UInt8) (value : Span UInt8) :
    Checked (Option Device) :=
  if value.length > maxConfigValue then .ok none
  else if configId = deviceConfigDeviceState then .ok none
  else match Table.slot maxDeviceConfigs device.deviceConfigs configId with
    | none => .ok none
    | some slot => do
      touch slot 1 maxDeviceConfigs
      let bytes ← value.copyTo maxConfigValue
      return device.storeConfig configId bytes

def deviceGetConfig (device : Device) (configId : UInt8) : Checked (Option (List UInt8)) :=
  match device.getConfig configId with
  | none => .ok none
  | some value => do
    touch 0 value.length maxConfigValue
    return some value

def addMulticastEntry (session : Session) (shortAddress : UInt16) (subsessionId : UInt32)
    (key : Span UInt8) : Checked (UInt8 × Session) :=
  if key.length > multicastKeySize then .ok (0xFF,session)
  else if session.multicastEntries.any (Session.matchesMulticast shortAddress subsessionId) then
    .ok (statusAddressAlreadyPresent,session)
  else match session.multicastEntries.findIdx? Option.isNone with
    | none => .ok (statusMulticastListFull,session)
    | some slot => do
      touch slot 1 maxMulticastEntries
      let bytes ← key.copyTo multicastKeySize
      return session.addMulticastEntry shortAddress subsessionId bytes

def removeMulticastEntry (session : Session) (shortAddress : UInt16) (subsessionId : UInt32) :
    Checked (UInt8 × Session) :=
  match session.multicastEntries.findIdx?
      (Session.matchesMulticast shortAddress subsessionId) with
  | none => .ok (statusAddressNotFound,session)
  | some slot => do
    touch slot 1 maxMulticastEntries
    return session.removeMulticastEntry shortAddress subsessionId

def findLogicalLink (session : Session) (linkId : UInt8) : Checked (Option LogicalLink) := do
  touch 0 session.logicalLinks.length maxLogicalLinks
  return session.findLogicalLink linkId

def allocateLogicalLink (session : Session) (requestedId mode credit : UInt8) :
    Checked (Option (UInt8 × Session)) :=
  if session.logicalLinks.length ≥ maxLogicalLinks then .ok none
  else do
    touch 0 session.logicalLinks.length maxLogicalLinks
    touch session.logicalLinks.length 1 maxLogicalLinks
    return session.allocateLogicalLink requestedId mode credit

/-- The links behind the removed one move forward and the last cell is cleared. -/
def removeLogicalLink (session : Session) (linkId : UInt8) : Checked (Option Session) := do
  touch 0 session.logicalLinks.length maxLogicalLinks
  if (session.findLogicalLink linkId).isSome then
    touch (session.logicalLinks.length-1) 1 maxLogicalLinks
  return session.removeLogicalLink linkId

def scheduleEvent (device : Device) (type : EventType) (sessionId delayMs : UInt32) :
    Checked (Rc × Device) :=
  if type = .none then .ok (.err,device)
  else if device.scheduledEvents.length ≥ maxScenarioEvents then .ok (.err,device)
  else do
    touch device.scheduledEvents.length 1 maxScenarioEvents
    return device.scheduleEvent type sessionId delayMs

/-- The events that stay are moved to the front first. -/
def rescheduleSessionEvent (device : Device) (type : EventType) (sessionId delayMs : UInt32) :
    Checked (Rc × Device) :=
  if type = .none then .ok (.err,device)
  else do
    touch 0 device.scheduledEvents.length maxScenarioEvents
    scheduleEvent (device.withEvents (device.eventsWithout type sessionId)) type sessionId delayMs

def cancelSessionEvents (device : Device) (sessionId : UInt32) : Checked Device := do
  touch 0 device.scheduledEvents.length maxScenarioEvents
  return device.cancelSessionEvents sessionId

def queueNotification (x : Exchange) (notification : Packet) : Checked (Rc × Exchange) :=
  if x.device.pendingNotifications.length ≥ maxPendingNotifications then .ok (.err,x)
  else do
    touch x.device.pendingNotifications.length 1 maxPendingNotifications
    return x.queueNotification notification

def deliverNotification (x : Exchange) (notification : Packet) : Checked (Rc × Exchange) :=
  if x.device.scenario.shouldDeferNotification then queueNotification x notification
  else if x.result.notification.isNone then .ok (.ok,x.placeNotification notification)
  else queueNotification x notification

/-- The oldest packet is taken out and the others move forward. -/
def finalizeResult (x : Exchange) (pendingCountBefore : ℕ) : Checked Exchange :=
  if x.result.notification.isSome then .ok x
  else if !x.device.scenario.shouldAutoDeliverPending pendingCountBefore then .ok x
  else do
    touch 0 x.device.pendingNotifications.length maxPendingNotifications
    return x.finalizeResult pendingCountBefore

variable {session : Session} {d : Device} {x : Exchange}

theorem session_store_config_eq (h : session.InArrays) (configId : UInt8) {value : Span UInt8}
    (hv : value.Inside) :
    sessionStoreConfig session configId value =
      .ok (session.storeConfig configId value.content) := by
  have hlen := Span.content_length hv
  unfold sessionStoreConfig
  by_cases hlong : value.length > maxConfigValue
  · rw [if_pos hlong, Session.storeConfig, if_pos (by omega)]
  rw [if_neg hlong]
  cases hslot : Table.slot maxSessionConfigs session.configs configId with
  | none =>
    rw [Session.storeConfig, if_neg (by omega), Table.store_none_of_slot _ h.configs hslot]
    rfl
  | some slot =>
    dsimp only
    rw [touch_inside (Table.slot_lt hslot), ok_bind, Span.copyTo_inside hv (by omega), ok_bind]
    rfl

theorem device_store_config_eq (h : d.InArrays) (configId : UInt8) {value : Span UInt8}
    (hv : value.Inside) :
    deviceStoreConfig d configId value = .ok (d.storeConfig configId value.content) := by
  have hlen := Span.content_length hv
  unfold deviceStoreConfig
  by_cases hlong : value.length > maxConfigValue
  · rw [if_pos hlong, Device.storeConfig, if_pos (by omega)]
  rw [if_neg hlong]
  by_cases hstate : configId = deviceConfigDeviceState
  · rw [if_pos hstate, Device.storeConfig, if_neg (by omega), if_pos hstate]
  rw [if_neg hstate]
  cases hslot : Table.slot maxDeviceConfigs d.deviceConfigs configId with
  | none =>
    rw [Device.storeConfig, if_neg (by omega), if_neg hstate,
      Table.store_none_of_slot _ h.configs hslot]
    rfl
  | some slot =>
    dsimp only
    rw [touch_inside (Table.slot_lt hslot), ok_bind, Span.copyTo_inside hv (by omega), ok_bind]
    rfl

theorem session_get_config_eq (h : session.InArrays) (configId : UInt8) :
    sessionGetConfig session configId = .ok (session.getConfig configId) := by
  unfold sessionGetConfig
  cases hget : session.getConfig configId with
  | none => rfl
  | some value =>
    dsimp only
    rw [touch_inside (by rw [Nat.zero_add]; exact h.values _ (lookup_mem hget))]
    rfl

theorem device_get_config_length (h : d.InArrays) {configId : UInt8} {value : List UInt8}
    (hget : d.getConfig configId = some value) : value.length ≤ maxConfigValue := by
  unfold Device.getConfig at hget
  by_cases hstate : configId = deviceConfigDeviceState
  · rw [if_pos hstate] at hget
    cases hget
    exact show 1 ≤ maxConfigValue by decide
  · rw [if_neg hstate] at hget
    exact h.values _ (lookup_mem hget)

theorem device_get_config_eq (h : d.InArrays) (configId : UInt8) :
    deviceGetConfig d configId = .ok (d.getConfig configId) := by
  unfold deviceGetConfig
  cases hget : d.getConfig configId with
  | none => rfl
  | some value =>
    have hlen := device_get_config_length h hget
    dsimp only
    rw [touch_inside (by omega)]
    rfl

theorem add_multicast_entry_checked (h : session.InArrays) (shortAddress : UInt16)
    (subsessionId : UInt32) {key : Span UInt8} (hk : key.Inside) :
    addMulticastEntry session shortAddress subsessionId key =
      .ok (session.addMulticastEntry shortAddress subsessionId key.content) := by
  have hlen := Span.content_length hk
  have hsize : multicastKeySize = 32 := rfl
  unfold addMulticastEntry
  by_cases hlong : key.length > multicastKeySize
  · rw [if_pos hlong, Session.addMulticastEntry, if_pos (by omega)]
  rw [if_neg hlong]
  by_cases hany :
      session.multicastEntries.any (Session.matchesMulticast shortAddress subsessionId) = true
  · rw [if_pos hany, Session.addMulticastEntry, if_neg (by omega), if_pos hany]
  rw [if_neg hany]
  cases hslot : session.multicastEntries.findIdx? Option.isNone with
  | none =>
    rw [Session.addMulticastEntry, if_neg (by omega), if_neg hany, hslot]
  | some slot =>
    have hlt := (List.findIdx?_eq_some_iff_findIdx_eq.mp hslot).1
    dsimp only
    rw [touch_inside (by rw [← h.multicast]; exact hlt), ok_bind,
      Span.copyTo_inside hk (by omega), ok_bind]
    rfl

theorem remove_multicast_entry_checked (h : session.InArrays) (shortAddress : UInt16)
    (subsessionId : UInt32) :
    removeMulticastEntry session shortAddress subsessionId =
      .ok (session.removeMulticastEntry shortAddress subsessionId) := by
  unfold removeMulticastEntry
  cases hslot : session.multicastEntries.findIdx?
      (Session.matchesMulticast shortAddress subsessionId) with
  | none => rw [Session.removeMulticastEntry, hslot]
  | some slot =>
    have hlt := (List.findIdx?_eq_some_iff_findIdx_eq.mp hslot).1
    dsimp only
    rw [touch_inside (by rw [← h.multicast]; exact hlt)]
    rfl

theorem find_logical_link_eq (h : session.InArrays) (linkId : UInt8) :
    findLogicalLink session linkId = .ok (session.findLogicalLink linkId) := by
  rw [findLogicalLink, touch_inside (by rw [Nat.zero_add]; exact h.links)]
  rfl

theorem allocate_logical_link_eq (h : session.InArrays) (requestedId mode credit : UInt8) :
    allocateLogicalLink session requestedId mode credit =
      .ok (session.allocateLogicalLink requestedId mode credit) := by
  unfold allocateLogicalLink
  by_cases hfull : session.logicalLinks.length ≥ maxLogicalLinks
  · rw [if_pos hfull, Session.allocateLogicalLink, if_pos hfull]
  · rw [if_neg hfull, touch_inside (by rw [Nat.zero_add]; exact h.links), ok_bind,
      touch_inside (by omega)]
    rfl

theorem remove_logical_link_eq (h : session.InArrays) (linkId : UInt8) :
    removeLogicalLink session linkId = .ok (session.removeLogicalLink linkId) := by
  have hlinks := h.links
  have hsize : maxLogicalLinks = 8 := rfl
  rw [removeLogicalLink, touch_inside (by rw [Nat.zero_add]; exact hlinks), ok_bind]
  by_cases hfound : (session.findLogicalLink linkId).isSome = true
  · rw [if_pos hfound, touch_inside (by omega)]
    rfl
  · rw [if_neg hfound]
    rfl

theorem schedule_event_eq (d : Device) (type : EventType) (sessionId delayMs : UInt32) :
    scheduleEvent d type sessionId delayMs = .ok (d.scheduleEvent type sessionId delayMs) := by
  unfold scheduleEvent
  by_cases htype : type = .none
  · rw [if_pos htype, Device.scheduleEvent, if_pos htype]
  by_cases hfull : d.scheduledEvents.length ≥ maxScenarioEvents
  · rw [if_neg htype, if_pos hfull, Device.scheduleEvent, if_neg htype, if_pos hfull]
  · rw [if_neg htype, if_neg hfull, touch_inside (by omega)]
    rfl

theorem reschedule_session_event_eq (h : d.InArrays) (type : EventType)
    (sessionId delayMs : UInt32) :
    rescheduleSessionEvent d type sessionId delayMs =
      .ok (d.rescheduleSessionEvent type sessionId delayMs) := by
  unfold rescheduleSessionEvent
  by_cases htype : type = .none
  · rw [if_pos htype, Device.rescheduleSessionEvent, if_pos htype]
  · rw [if_neg htype, touch_inside (by rw [Nat.zero_add]; exact h.events), ok_bind,
      schedule_event_eq, Device.rescheduleSessionEvent, if_neg htype]
    rfl

theorem cancel_session_events_eq (h : d.InArrays) (sessionId : UInt32) :
    cancelSessionEvents d sessionId = .ok (d.cancelSessionEvents sessionId) := by
  rw [cancelSessionEvents, touch_inside (by rw [Nat.zero_add]; exact h.events)]
  rfl

theorem queue_notification_eq (x : Exchange) (notification : Packet) :
    queueNotification x notification = .ok (x.queueNotification notification) := by
  unfold queueNotification
  by_cases hfull : x.device.pendingNotifications.length ≥ maxPendingNotifications
  · rw [if_pos hfull, Exchange.queueNotification, if_pos hfull]
  · rw [if_neg hfull, touch_inside (by omega)]
    rfl

theorem deliver_notification_eq (x : Exchange) (notification : Packet) :
    deliverNotification x notification = .ok (x.deliverNotification notification) := by
  unfold deliverNotification
  by_cases hdefer : x.device.scenario.shouldDeferNotification = true
  · rw [if_pos hdefer, queue_notification_eq, Exchange.deliverNotification, if_pos hdefer]
  by_cases hslot : x.result.notification.isNone = true
  · rw [if_neg hdefer, if_pos hslot, Exchange.deliverNotification, if_neg hdefer, if_pos hslot]
  · rw [if_neg hdefer, if_neg hslot, queue_notification_eq, Exchange.deliverNotification,
      if_neg hdefer, if_neg hslot]

theorem finalize_result_eq (h : x.device.InArrays) (pendingCountBefore : ℕ) :
    finalizeResult x pendingCountBefore = .ok (x.finalizeResult pendingCountBefore) := by
  unfold finalizeResult
  by_cases hslot : x.result.notification.isSome = true
  · rw [if_pos hslot, Exchange.finalizeResult, if_pos hslot]
  by_cases hauto : (!x.device.scenario.shouldAutoDeliverPending pendingCountBefore) = true
  · rw [if_neg hslot, if_pos hauto, Exchange.finalizeResult, if_neg hslot, if_pos hauto]
  · rw [if_neg hslot, if_neg hauto, touch_inside (by rw [Nat.zero_add]; exact h.pending)]
    rfl

end Memory

end UciSim
