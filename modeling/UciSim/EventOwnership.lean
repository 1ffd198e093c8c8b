import UciSim.EventActions
import UciSim.LifecycleEvents
import UciSim.Requests

/-!
# Events and their sessions

Every operation but one keeps the event queue in step with the sessions. The
exception is the deinitialisation of a session that still has an event, which
leaves the event behind.
-/

set_option autoImplicit false

namespace UciSim

/-- Each event carries the identifier of an active session and is queued once. -/
def Device.EventsOwned (d : Device) : Prop :=
  (∀ event ∈ d.scheduledEvents, ∃ i, (d.sessions i).allocated = true ∧
    (d.sessions i).sessionId = event.sessionId ∧
    (d.sessions i).state = sessionStateActive) ∧
  (d.scheduledEvents.map ScheduledEvent.key).Nodup

instance (d : Device) : Decidable d.EventsOwned := inferInstanceAs (Decidable (_ ∧ _))

instance (d : Device) (request : Packet) (i : Fin maxSessions) : Decidable (Closes d request i) :=
  inferInstanceAs (Decidable (_ ∧ _))

/-- A session is deinitialised only when none of the queued events is its own. -/
def Run.ClosesAtRest (r : Run) : Op → Prop
  | .submit request => ∀ i, Closes r.engine.device request i →
      ∀ event ∈ r.engine.device.scheduledEvents,
        event.sessionId ≠ (r.engine.device.sessions i).sessionId
  | _ => True

instance (r : Run) : (op : Op) → Decidable (r.ClosesAtRest op)
  | .submit _ => inferInstanceAs (Decidable (∀ _, _))
  | .tick _ => isTrue trivial
  | .dequeue => isTrue trivial

structure Device.Consistent (d : Device) : Prop where
  profile : d.profile.StartStop
  shape : d.view.WellFormed
  events : d.view.Consistent

namespace Device.Consistent

theorem eventsOwned {d : Device} (h : d.Consistent) : d.EventsOwned := by
  refine ⟨fun event he => ?_,h.events.once⟩
  obtain ⟨i,ha,hid,hactive,-⟩ := h.events.owned event he
  exact ⟨i,ha,hid,hactive⟩

theorem init {profile : Profile} (hp : profile.StartStop) (scenario : Scenario) :
    (Device.initWithProfile profile scenario).Consistent :=
  ⟨hp,View.WellFormed.init,View.Consistent.init⟩

theorem path {d d' : Device} (h : d.Consistent) {actions : List Action} {ns : List Packet}
    (hprofile : d'.profile = d.profile) (hexplains : Explains d.view actions ns d'.view)
    (hclosed : Runs.Along View.apply (fun v a => ∀ i, a = .closed i →
      ∀ event ∈ v.events, event.sessionId ≠ (v.slots i).sessionId) d.view actions) :
    d'.Consistent := by
  exact ⟨hprofile ▸ h.profile,hexplains.wellFormed h.shape,hexplains.law h.shape h.events hclosed
    fun v a hw hc ha hclosed => hc.apply hw a ha hclosed⟩

theorem served {d d' : Device} {request : Packet} {response : Option Packet}
    {posting : Posting} (h : d.Consistent)
    (hrest : ∀ i, Closes d request i → ∀ event ∈ d.scheduledEvents,
      event.sessionId ≠ (d.sessions i).sessionId)
    (hserved : Served d request response posting d') : d'.Consistent := by
  obtain ⟨actions,hactions,hexplains⟩ := served_actions h.profile h.shape hserved
  refine h.path (served_frame hserved).1 hexplains ?_
  cases hactions with
  | closed i hcloses =>
    refine ⟨?_,trivial⟩
    intro j hj
    cases hj
    exact hrest i hcloses
  | rescheduled i delays =>
    refine Runs.along_of_mem ?_ _
    intro a ha v j hj
    obtain ⟨delayMs,-,rfl⟩ := List.mem_map.mp ha
    cases hj
  | none => trivial
  | _ => exact ⟨fun j hj => (by cases hj),trivial⟩

theorem ticked {d d' : Device} {elapsedMs : UInt32} {flushes : Bool} {ns : List Packet}
    (h : d.Consistent) (hticked : Ticked d elapsedMs flushes ns d') : d'.Consistent := by
  have hd : (d.tickEvents elapsedMs).Consistent :=
    ⟨h.profile,h.shape.elapse elapsedMs,
      h.events.apply h.shape (.elapsed elapsedMs) trivial fun _ hi => by cases hi⟩
  obtain ⟨actions,hactions,hexplains⟩ := ticked_actions h.shape hticked
  refine hd.path (ticked_frame hticked).2.1 hexplains ?_
  cases hactions with
  | none => trivial
  | one a ha => cases ha <;> exact ⟨fun j hj => (by cases hj),trivial⟩

theorem step {r : Run} {op : Op} (h : r.engine.device.Consistent) (hrest : r.ClosesAtRest op) :
    (r.step op).engine.device.Consistent := by
  refine Run.step_device (P := Device.Consistent)
    (G := fun d request => ∀ i, Closes d request i → ∀ event ∈ d.scheduledEvents,
      event.sessionId ≠ (d.sessions i).sessionId) ?_ ?_ ?_ r op h ?_
  · exact fun d p hd => ⟨hd.profile,hd.shape,hd.events⟩
  · exact fun d request response posting d' hd hgood hserved => hd.served hgood hserved
  · exact fun d elapsedMs flushes ns d' hd hticked => hd.ticked hticked
  · rintro request rfl
    exact hrest

end Device.Consistent

/-- In every run that deinitialises sessions at rest only, in any scenario, every event
has its active session and no two events share their key. -/
theorem events_owned (profile : Profile) (hp : profile.StartStop) (scenario : Scenario)
    (ops : List Op) (h : Run.Along profile scenario Run.ClosesAtRest ops) :
    (Run.reached profile scenario ops).engine.device.EventsOwned :=
  (Runs.invariant_of_steps (I := fun r : Run => r.engine.device.Consistent)
    (fun _ _ hd hrest => hd.step hrest) _ ops (Device.Consistent.init hp scenario) h).eventsOwned

theorem events_owned_after_stop :
    (Run.reached defaultProfile .rangingStream [.submit (initRequest 1),
      .submit (startRequest 1), .tick 2000, .submit (stopRequest 1),
      .submit (deinitRequest 1)]).engine.device.EventsOwned :=
  events_owned defaultProfile default_profile_start_stop .rangingStream _ (by decide +kernel)

/-- A session deinitialised while it ranges leaves its event behind. -/
theorem event_outlives_session :
    ¬ (Run.reached defaultProfile .rangingStream [.submit (initRequest 1),
      .submit (startRequest 1), .submit (deinitRequest 1)]).engine.device.EventsOwned := by
  decide +kernel

end UciSim
