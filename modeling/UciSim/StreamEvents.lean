import UciSim.LifecycleProgress
import UciSim.UncongestedPaths
import UciSim.Requests

/-!
# Streams and their events

A started stream is kept going by its event. A start schedules it only while the
event queue has room, and answers the same when it has none.
-/

set_option autoImplicit false

namespace UciSim

/-- Every active session whose stream is not over has its ranging event. -/
def Device.StreamsScheduled (d : Device) : Prop :=
  ∀ i, (d.sessions i).allocated = true → (d.sessions i).state = sessionStateActive →
    (d.sessions i).rangingStreamRemaining > 0 →
      ∃ event ∈ d.scheduledEvents, event.type = .rangeData ∧
        event.sessionId = (d.sessions i).sessionId

instance (d : Device) : Decidable d.StreamsScheduled :=
  inferInstanceAs (Decidable (∀ _, _))

instance (d : Device) (request : Packet) (i : Fin maxSessions) : Decidable (Starts d request i) :=
  inferInstanceAs (Decidable (_ ∧ _))

/-- A start that is accepted finds room for the event of its stream. -/
def Run.StartsWithRoom (r : Run) : Op → Prop
  | .submit request => ∀ i, Starts r.engine.device request i →
      r.engine.device.profile.rangingStreamBurstCount = 0 ∨
        r.engine.device.scheduledEvents.length < maxScenarioEvents
  | _ => True

instance (r : Run) : (op : Op) → Decidable (r.StartsWithRoom op)
  | .submit _ => inferInstanceAs (Decidable (∀ _, _))
  | .tick _ => isTrue trivial
  | .dequeue => isTrue trivial

structure Device.Streams (d : Device) : Prop where
  settled : d.Settled
  template : ¬ d.profile.BrokenTemplate
  scenario : d.scenario = .rangingStream
  streams : d.view.StreamLive

namespace Device.Streams

theorem init {profile : Profile} (hp : profile.StartStop) (ht : ¬ profile.BrokenTemplate) :
    (Device.initWithProfile profile .rangingStream).Streams :=
  ⟨Device.Settled.init hp (by decide),ht,rfl,View.StreamLive.init⟩

theorem step {r : Run} {op : Op} (h : r.engine.device.Streams) (hroom : r.Uncongested op)
    (hstarts : r.StartsWithRoom op) : (r.step op).engine.device.Streams := by
  obtain ⟨ns,hcalled,hpending,-⟩ := r.step_called op (hroom.fits h.settled.quiet) h.settled.quiet
  let guard : View → Action → Prop := fun v a =>
    a ≠ .abandoned ∧ ∀ i stream, a = .started i stream → ∃ burst delayMs,
      stream = some (burst,delayMs) ∧ (burst = 0 ∨ v.events.length < maxScenarioEvents)
  have hpacket : ∀ request actions, op = .submit request →
      PacketActions r.engine.device request actions →
      Runs.Along View.apply guard r.engine.device.view actions := by
    rintro request actions rfl hactions
    refine packet_actions_guarded hactions (fun a ha => ?_) fun _ _ _ => ⟨by simp,by simp⟩
    refine ⟨(packet_actions_serve_nothing hactions ha).1,?_⟩
    rintro i stream rfl
    cases hactions with
    | started j hstart =>
      cases List.mem_singleton.mp ha
      exact ⟨_,_,if_pos h.scenario,hstarts i hstart⟩
    | rescheduled j delays =>
      obtain ⟨delayMs,-,hj⟩ := List.mem_map.mp ha
      cases hj
    | _ => simp at ha
  have hevent : ∀ dt p, r.engine.device.ticking op = some (dt.withPending p) →
      dt.pendingNotifications = [] → dt.profile = r.engine.device.profile →
      ∀ a, EventActions dt a → guard dt.view a := by
    intro dt p _ hidle hprofile a ha
    refine ⟨?_,?_⟩
    · exact not_abandoned ha hidle (hprofile ▸ h.template)
    · rintro i stream rfl
      cases ha
  obtain ⟨hsettled,⟨hprofile,hscenario⟩,actions,hexplains,hguard⟩ := called_path h.settled
    hcalled hpending (fun _ _ => ⟨by simp,by simp⟩) hpacket hevent
  have hlive : (r.step op).engine.device.view.StreamLive :=
    hexplains.law h.settled.shape h.streams hguard
      fun v a hw hlive ha hg => View.StreamLive.apply hlive hw a ha hg.1 hg.2
  exact ⟨hsettled,hprofile ▸ h.template,hscenario.trans h.scenario,hlive⟩

theorem scheduled {d : Device} (h : d.Streams) : d.StreamsScheduled := by
  intro i ha hactive hremaining
  obtain ⟨event,he,hkey⟩ := h.streams _
    ⟨i,ha,⟨hactive,UInt8.pos_iff_ne_zero.mp hremaining⟩,rfl⟩
  exact ⟨event,he,congrArg Prod.fst hkey,congrArg Prod.snd hkey⟩

end Device.Streams

/-- In every uncongested run of the streaming scenario whose starts find room in the event
queue, every stream that is not over has its event. -/
theorem streams_scheduled (profile : Profile) (hp : profile.StartStop)
    (ht : ¬ profile.BrokenTemplate) (ops : List Op)
    (h : Run.Along profile .rangingStream (fun r op => r.Uncongested op ∧ r.StartsWithRoom op)
      ops) :
    (Run.reached profile .rangingStream ops).engine.device.StreamsScheduled :=
  (Runs.invariant_of_steps (I := fun r : Run => r.engine.device.Streams)
    (fun _ _ hd hgood => hd.step hgood.1 hgood.2) _ ops (Device.Streams.init hp ht) h).scheduled

/-- A session that ranges and has a transfer in progress, read out by the host. -/
def busySession (sessionId : UInt32) : List Op := [.submit (initRequest sessionId),
  .submit (setAppConfigRequest sessionId 1 [appConfigDataRepetitionCount,1,1]),
  .submit (startRequest sessionId), .submit (dataMessage sessionId 1)] ++
  List.replicate 8 .dequeue

def busyRun (busy : List UInt32) : List Op :=
  busy.flatMap busySession ++ [.submit (initRequest 9), .submit (startRequest 9)]

theorem streams_scheduled_beside_three :
    (Run.reached defaultProfile .rangingStream
      (busyRun [1,2,3])).engine.device.StreamsScheduled :=
  streams_scheduled defaultProfile default_profile_start_stop (by decide) _ (by decide +kernel)

/-- Four busy sessions fill the event queue, and the fifth start is answered without one. -/
theorem start_without_event :
    Run.Along defaultProfile .rangingStream Run.Uncongested (busyRun [1,2,3,4]) ∧
    ¬ (Run.reached defaultProfile .rangingStream
      (busyRun [1,2,3,4])).engine.device.StreamsScheduled := by
  decide +kernel

end UciSim
