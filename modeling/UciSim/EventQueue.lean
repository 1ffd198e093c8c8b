import UciSim.SessionTable

/-!
# The event queue

Scheduling appends while there is room, rescheduling first removes the event of
the same key, and cancelling removes every event of a session.
-/

set_option autoImplicit false

namespace UciSim

def ScheduledEvent.key (event : ScheduledEvent) : EventType × UInt32 :=
  (event.type,event.sessionId)

namespace Device

def withEvents (d : Device) (events : List ScheduledEvent) : Device :=
  { d with scheduledEvents := events }

@[simp] theorem withEvents_events (d : Device) (events : List ScheduledEvent) :
    (d.withEvents events).scheduledEvents = events := rfl

@[simp] theorem withEvents_sessions (d : Device) (events : List ScheduledEvent) :
    (d.withEvents events).sessions = d.sessions := rfl

@[simp] theorem withEvents_profile (d : Device) (events : List ScheduledEvent) :
    (d.withEvents events).profile = d.profile := rfl

@[simp] theorem withEvents_scenario (d : Device) (events : List ScheduledEvent) :
    (d.withEvents events).scenario = d.scenario := rfl

@[simp] theorem withEvents_pending (d : Device) (events : List ScheduledEvent) :
    (d.withEvents events).pendingNotifications = d.pendingNotifications := rfl

theorem schedule_event_full (d : Device) (type : EventType) (sessionId delayMs : UInt32)
    (h : maxScenarioEvents ≤ d.scheduledEvents.length) :
    d.scheduleEvent type sessionId delayMs = (.err,d) := by
  unfold scheduleEvent
  by_cases ht : type = .none
  · rw [if_pos ht]
  · rw [if_neg ht, if_pos h]

theorem schedule_event_room (d : Device) (type : EventType) (sessionId delayMs : UInt32)
    (ht : type ≠ .none) (h : d.scheduledEvents.length < maxScenarioEvents) :
    d.scheduleEvent type sessionId delayMs =
      (.ok,d.withEvents (d.scheduledEvents ++ [⟨type,sessionId,delayMs⟩])) := by
  unfold scheduleEvent
  rw [if_neg ht, if_neg (Nat.not_le_of_lt h)]
  rfl

/-- The events another key leaves in the queue. -/
def eventsWithout (d : Device) (type : EventType) (sessionId : UInt32) : List ScheduledEvent :=
  d.scheduledEvents.filter (fun event => !(event.type == type && event.sessionId == sessionId))

theorem events_without_key (d : Device) (type : EventType) (sessionId : UInt32) :
    d.eventsWithout type sessionId =
      d.scheduledEvents.filter (fun event => decide (event.key ≠ (type,sessionId))) := by
  refine List.filter_congr fun event _ => ?_
  have hkey : (!(decide (event.type = type) && decide (event.sessionId = sessionId))) =
      decide (event.key ≠ (type,sessionId)) := by
    simp [ScheduledEvent.key]
  exact hkey

def rescheduledEvents (d : Device) (type : EventType) (sessionId delayMs : UInt32) :
    List ScheduledEvent :=
  if maxScenarioEvents ≤ (d.eventsWithout type sessionId).length then
    d.eventsWithout type sessionId
  else d.eventsWithout type sessionId ++ [⟨type,sessionId,delayMs⟩]

theorem reschedule_event_eq (d : Device) (type : EventType)
    (sessionId delayMs : UInt32) (ht : type ≠ .none) :
    d.rescheduleSessionEvent type sessionId delayMs =
      (d.withEvents (d.eventsWithout type sessionId)).scheduleEvent type sessionId delayMs := by
  unfold rescheduleSessionEvent
  rw [if_neg ht]
  rfl

theorem reschedule_session_event_snd (d : Device) (type : EventType)
    (sessionId delayMs : UInt32) (ht : type ≠ .none) :
    (d.rescheduleSessionEvent type sessionId delayMs).2 =
      d.withEvents (d.rescheduledEvents type sessionId delayMs) := by
  rw [reschedule_event_eq _ _ _ _ ht]
  unfold rescheduledEvents
  by_cases hroom : maxScenarioEvents ≤ (d.eventsWithout type sessionId).length
  · rw [if_pos hroom, schedule_event_full _ _ _ _ hroom]
  · rw [if_neg hroom, schedule_event_room _ _ _ _ ht (Nat.lt_of_not_le hroom)]
    rfl

end Device

end UciSim
