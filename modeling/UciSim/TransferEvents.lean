import UciSim.LifecycleProgress
import UciSim.UncongestedPaths
import UciSim.Requests

/-!
# Transfers in progress and their events

A transfer in progress is kept going by its event. The one step that breaks the
tie is the end of a session's measurement budget while its transfer is under way:
it cancels every event of the session and leaves the transfer marked.
-/

set_option autoImplicit false

namespace UciSim

/-- Every transfer in progress belongs to an active session and has its event. -/
def Device.TransfersScheduled (d : Device) : Prop :=
  ∀ i, (d.sessions i).allocated = true → (d.sessions i).dataTransferInProgress = true →
    (d.sessions i).state = sessionStateActive ∧
      ∃ event ∈ d.scheduledEvents, event.type = .dataTransfer ∧
        event.sessionId = (d.sessions i).sessionId

instance (d : Device) : Decidable d.TransfersScheduled :=
  inferInstanceAs (Decidable (∀ _, _))

/-- The event that the call serves ends no stream whose session has a transfer in progress. -/
def Run.SparesTransfers (r : Run) (op : Op) : Prop :=
  ∀ d, d ∈ r.engine.device.ticking op → ∀ i, EndsStream d i →
    (d.sessions i).dataTransferInProgress = false

instance (r : Run) (op : Op) : Decidable (r.SparesTransfers op) :=
  inferInstanceAs (Decidable (∀ d, d ∈ r.engine.device.ticking op → _))

structure Device.Transferring (d : Device) : Prop where
  settled : d.Settled
  template : ¬ d.profile.BrokenTemplate
  transfers : d.view.TransferLive

theorem Device.Transferring.init {profile : Profile} (hp : profile.StartStop)
    (ht : ¬ profile.BrokenTemplate) {scenario : Scenario}
    (hs : scenario ≠ .delayedNotifications) :
    (Device.initWithProfile profile scenario).Transferring :=
  ⟨Device.Settled.init hp hs,ht,View.TransferLive.init⟩

theorem Device.Transferring.step {r : Run} {op : Op} (h : r.engine.device.Transferring)
    (hroom : r.Uncongested op) (hspares : r.SparesTransfers op) :
    (r.step op).engine.device.Transferring := by
  obtain ⟨ns,hcalled,hpending,-⟩ := r.step_called op (hroom.fits h.settled.quiet) h.settled.quiet
  let guard : View → Action → Prop := fun v a =>
    a ≠ .abandoned ∧ ∀ i, a = .ended i → (v.slots i).inProgress = false
  have hpacket : ∀ request actions, op = .submit request →
      PacketActions r.engine.device request actions →
      Runs.Along View.apply guard r.engine.device.view actions := by
    intro request actions _ hactions
    refine packet_actions_guarded hactions (fun a ha => ?_) fun _ _ _ => ⟨by simp,by simp⟩
    obtain ⟨habandoned,hended⟩ := packet_actions_serve_nothing hactions ha
    exact ⟨habandoned,fun i hi => absurd hi (hended i)⟩
  have hevent : ∀ dt p, r.engine.device.ticking op = some (dt.withPending p) →
      dt.pendingNotifications = [] → dt.profile = r.engine.device.profile →
      ∀ a, EventActions dt a → guard dt.view a := by
    intro dt p hticking hidle hprofile a ha
    refine ⟨?_,?_⟩
    · exact not_abandoned ha hidle (hprofile ▸ h.template)
    · rintro i rfl
      cases ha with
      | ended _ hends => exact hspares _ hticking i hends
  obtain ⟨hsettled,⟨hprofile,-⟩,actions,hexplains,hguard⟩ := called_path h.settled hcalled
    hpending (fun _ _ => ⟨by simp,by simp⟩) hpacket hevent
  have hlive : (r.step op).engine.device.view.TransferLive :=
    hexplains.law h.settled.shape h.transfers hguard
      fun v a hw hlive ha hg => hlive.apply hw a ha hg.1 hg.2
  exact ⟨hsettled,hprofile ▸ h.template,hlive⟩

theorem Device.Transferring.scheduled {d : Device} (h : d.Transferring) :
    d.TransfersScheduled := by
  intro i ha hp
  refine ⟨h.transfers.active i ha hp,?_⟩
  obtain ⟨event,he,hkey⟩ := h.transfers.covered _ ⟨i,ha,hp,rfl⟩
  exact ⟨event,he,congrArg Prod.fst hkey,congrArg Prod.snd hkey⟩

/-- In every uncongested run whose events spare the transfers in progress, a transfer in
progress has an active session and its event. -/
theorem transfers_scheduled (profile : Profile) (hp : profile.StartStop)
    (ht : ¬ profile.BrokenTemplate) (scenario : Scenario)
    (hs : scenario ≠ .delayedNotifications) (ops : List Op)
    (h : Run.Along profile scenario (fun r op => r.Uncongested op ∧ r.SparesTransfers op) ops) :
    (Run.reached profile scenario ops).engine.device.TransfersScheduled :=
  (Runs.invariant_of_steps (I := fun r : Run => r.engine.device.Transferring)
    (fun _ _ hd hgood => hd.step hgood.1 hgood.2) _ ops
    (Device.Transferring.init hp ht hs) h).scheduled

/-- One repetition per message and a budget of `budget` measurements. -/
def transferRun (budget : UInt8) : List Op := [.submit (initRequest 1),
  .submit (setAppConfigRequest 1 2 [appConfigDataRepetitionCount,1,1,
    appConfigMaxNumberOfMeasurements,2,budget,0]),
  .submit (startRequest 1), .submit (dataMessage 1 5), .tick 2000]

theorem transfers_scheduled_within_budget :
    (Run.reached defaultProfile .rangingStream (transferRun 2)).engine.device.TransfersScheduled :=
  transfers_scheduled defaultProfile default_profile_start_stop (by decide) .rangingStream
    (by decide) _ (by decide +kernel)

/-- A budget spent by the first measurement strands the transfer. -/
theorem budget_strands_transfer :
    Run.Along defaultProfile .rangingStream Run.Uncongested (transferRun 1) ∧
    ¬ (Run.reached defaultProfile .rangingStream
      (transferRun 1)).engine.device.TransfersScheduled := by
  decide +kernel

end UciSim
