import UciSim.EventQueue
import UciSim.General.Runs

/-!
# The life of a session

What the device is for, without its configurations and its mailbox: slots that
open, run and close, and a bounded queue of timed events that keep the running
ones going. An action is applied where it is enabled.
-/

set_option autoImplicit false

namespace UciSim

structure Slot where
  allocated : Bool
  sessionId : UInt32
  state : UInt8
  remaining : UInt8
  inProgress : Bool
  deriving DecidableEq, Repr

namespace Slot

def zero : Slot := ⟨false,0,0,0,false⟩

def opened (s : Slot) (sessionId : UInt32) : Slot :=
  { s with allocated := true, sessionId := sessionId, state := sessionStateInit }

def activated (s : Slot) : Slot := { s with state := sessionStateActive }

def counting (s : Slot) (remaining : UInt8) : Slot := { s with remaining := remaining }

def stopped (s : Slot) : Slot :=
  { s with state := sessionStateIdle, remaining := 0, inProgress := false }

def ended (s : Slot) : Slot := { s with state := sessionStateIdle, remaining := 0 }

def transferring (s : Slot) (inProgress : Bool) : Slot := { s with inProgress := inProgress }

end Slot

def ScheduledEvent.aged (elapsedMs : UInt32) (event : ScheduledEvent) : ScheduledEvent :=
  { event with delayMs := if event.delayMs > elapsedMs then event.delayMs-elapsedMs else 0 }

structure View where
  slots : Fin maxSessions → Slot
  events : List ScheduledEvent

inductive Action where
  | opened (i : Fin maxSessions) (sessionId : UInt32)
  | closed (i : Fin maxSessions)
  | started (i : Fin maxSessions) (stream : Option (UInt8 × UInt32))
  | stopped (i : Fin maxSessions)
  | reported (i : Fin maxSessions)
  | rescheduled (i : Fin maxSessions) (delayMs : UInt32)
  | begun (i : Fin maxSessions) (delayMs : UInt32)
  | reset
  | elapsed (elapsedMs : UInt32)
  | dropped
  | abandoned
  | streamed (i : Fin maxSessions) (remaining : UInt8) (delayMs : UInt32)
  | ended (i : Fin maxSessions)
  | repeated (i : Fin maxSessions) (delayMs : UInt32)
  | completed (i : Fin maxSessions)

namespace View

def setSlot (v : View) (i : Fin maxSessions) (s : Slot) : View :=
  { v with slots := Function.update v.slots i s }

def withEvents (v : View) (events : List ScheduledEvent) : View := { v with events := events }

def schedule (v : View) (type : EventType) (sessionId delayMs : UInt32) : View :=
  if maxScenarioEvents ≤ v.events.length then v
  else v.withEvents (v.events ++ [⟨type,sessionId,delayMs⟩])

def without (v : View) (type : EventType) (sessionId : UInt32) : View :=
  v.withEvents (v.events.filter
    (fun event => !(event.type == type && event.sessionId == sessionId)))

def cancel (v : View) (sessionId : UInt32) : View :=
  v.withEvents (v.events.filter (fun event => event.sessionId != sessionId))

def elapse (v : View) (elapsedMs : UInt32) : View :=
  v.withEvents (v.events.map (ScheduledEvent.aged elapsedMs))

def ready (v : View) : Option ScheduledEvent := v.events.find? (fun event => event.delayMs == 0)

def dequeue (v : View) : View := v.withEvents (v.events.eraseP (fun event => event.delayMs == 0))

def resume (v : View) (type : EventType) (i : Fin maxSessions) (delayMs : UInt32) : View :=
  v.schedule type (v.slots i).sessionId delayMs

def apply (v : View) : Action → View
  | .opened i sessionId => v.setSlot i ((v.slots i).opened sessionId)
  | .closed i => v.setSlot i Slot.zero
  | .started i none => v.setSlot i (v.slots i).activated
  | .started i (some (burst,delayMs)) =>
    let v := v.setSlot i ((v.slots i).activated.counting burst)
    if burst = 0 then v else v.resume .rangeData i delayMs
  | .stopped i => (v.setSlot i (v.slots i).stopped).cancel (v.slots i).sessionId
  | .reported _ => v
  | .rescheduled i delayMs =>
    (v.without .rangeData (v.slots i).sessionId).resume .rangeData i delayMs
  | .begun i delayMs =>
    (v.setSlot i ((v.slots i).transferring true)).resume .dataTransfer i delayMs
  | .reset => ⟨fun _ => Slot.zero,[]⟩
  | .elapsed elapsedMs => v.elapse elapsedMs
  | .dropped => v.dequeue
  | .abandoned => v.dequeue
  | .streamed i remaining delayMs =>
    let v := v.dequeue.setSlot i ((v.slots i).counting remaining)
    if remaining = 0 then v else v.resume .rangeData i delayMs
  | .ended i => (v.dequeue.setSlot i (v.slots i).ended).cancel (v.slots i).sessionId
  | .repeated i delayMs => v.dequeue.resume .dataTransfer i delayMs
  | .completed i => v.dequeue.setSlot i ((v.slots i).transferring false)

/-- The ready event belongs to the active session at slot `i`. -/
def Serves (v : View) (type : EventType) (i : Fin maxSessions) : Prop :=
  (∃ event, v.ready = some event ∧ event.key = (type,(v.slots i).sessionId)) ∧
    (v.slots i).allocated = true ∧ (v.slots i).state = sessionStateActive

/-- No session waits for the event. -/
def Idle (v : View) (event : ScheduledEvent) : Prop :=
  ∀ i, (v.slots i).allocated = true → (v.slots i).state = sessionStateActive →
    (event.key = (.rangeData,(v.slots i).sessionId) → (v.slots i).remaining = 0) ∧
      (event.key = (.dataTransfer,(v.slots i).sessionId) → (v.slots i).inProgress = false)

def Enabled (v : View) : Action → Prop
  | .opened i sessionId => (v.slots i).allocated = false ∧
      ∀ j, (v.slots j).allocated = true → (v.slots j).sessionId ≠ sessionId
  | .closed i => (v.slots i).allocated = true
  | .started i _ => (v.slots i).allocated = true ∧
      ((v.slots i).state = sessionStateInit ∨ (v.slots i).state = sessionStateIdle)
  | .stopped i => (v.slots i).allocated = true ∧ (v.slots i).state = sessionStateActive
  | .reported i => (v.slots i).allocated = true
  | .rescheduled i _ => (v.slots i).allocated = true ∧ (v.slots i).state = sessionStateActive
  | .begun i _ => (v.slots i).allocated = true ∧ (v.slots i).state = sessionStateActive ∧
      (v.slots i).inProgress = false ∧ v.events.length < maxScenarioEvents
  | .reset => True
  | .elapsed _ => True
  | .dropped => ∃ event, v.ready = some event ∧ v.Idle event
  | .abandoned => ∃ event, v.ready = some event
  | .streamed i _ _ => v.Serves .rangeData i
  | .ended i => v.Serves .rangeData i
  | .repeated i _ => v.Serves .dataTransfer i ∧ (v.slots i).inProgress = true
  | .completed i => v.Serves .dataTransfer i

structure WellFormed (v : View) : Prop where
  distinct : ∀ i j, (v.slots i).allocated = true → (v.slots j).allocated = true →
    (v.slots i).sessionId = (v.slots j).sessionId → i = j
  bounded : v.events.length ≤ maxScenarioEvents
  known : ∀ i, (v.slots i).allocated = true → (v.slots i).state = sessionStateInit ∨
    (v.slots i).state = sessionStateActive ∨ (v.slots i).state = sessionStateIdle
  vacant : ∀ i, (v.slots i).allocated = false → (v.slots i).inProgress = false

end View

end UciSim
