import UciSim.TickCodes
import UciSim.UncongestedPaths
import UciSim.Requests

/-!
# Ticks of uncongested runs

While the outbound queue is read out, a device that does not defer always has
room for the notifications of an event. A device that defers keeps them until the
host sends another packet, so the repetitions of a transfer fill its queue.
-/

set_option autoImplicit false

namespace UciSim

namespace Device

/-- Unless the device defers, the event served needs only a template it can fill. -/
def TickSafe (d : Device) (elapsedMs : UInt32) : Prop :=
  ∀ event ∈ (d.tickEvents elapsedMs).scheduledEvents.find? (fun event => event.delayMs == 0),
    ∀ i, d.findSession event.sessionId = some i →
      (event.type = .rangeData → d.Measures i → (d.sessions i).budgetSpent = false →
        (d.samplePolicy i).shouldEmitNotification = true → d.profile.BuildsRangeData) ∧
      (event.type = .dataTransfer → d.scenario = .delayedNotifications → d.TransferFits i)

theorem ranging_fits_idle {d : Device} (h : d.pendingNotifications = []) (i : Fin maxSessions) :
    d.RangingFits i ↔ (d.Measures i → (d.sessions i).budgetSpent = false →
      (d.samplePolicy i).shouldEmitNotification = true → d.profile.BuildsRangeData) := by
  have hroom : (0 : ℕ) < maxPendingNotifications := by decide
  have hpair : (d.samplePolicy i).shouldEmitNotification.toNat < maxPendingNotifications := by
    cases (d.samplePolicy i).shouldEmitNotification <;> decide
  unfold RangingFits
  rw [h]
  cases (d.sessions i).budgetSpent with
  | true => simp [hroom]
  | false => simp [hroom, hpair]

theorem ranging_fits_deferred {d : Device} (h : d.scenario = .delayedNotifications)
    (i : Fin maxSessions) : d.RangingFits i :=
  fun hmeasures => absurd (h.symm.trans hmeasures.1) (by decide)

theorem transfer_fits_idle {d : Device} (h : d.pendingNotifications = []) (i : Fin maxSessions) :
    d.TransferFits i := by
  intro _ _
  rw [h]
  split <;> decide

def Prompt (d : Device) : Prop :=
  d.scenario = .delayedNotifications ∨ d.pendingNotifications = []

theorem Prompt.fits {d : Device} (h : d.Prompt) (elapsedMs : UInt32) :
    d.TickFits elapsedMs ↔ d.TickSafe elapsedMs := by
  unfold TickFits TickSafe EventFits
  refine forall₂_congr fun event _ => forall₂_congr fun i _ => ?_
  rcases h with hs | hidle
  · constructor
    · intro hfits
      exact ⟨fun _ hmeasures => absurd (hs.symm.trans hmeasures.1) (by decide),
        fun htype _ => hfits.2 htype⟩
    · intro hsafe
      exact ⟨fun _ => ranging_fits_deferred hs i,fun htype => hsafe.2 htype hs⟩
  · rw [ranging_fits_idle hidle i]
    constructor
    · intro hfits
      exact ⟨hfits.1,fun _ _ => transfer_fits_idle hidle i⟩
    · intro hsafe
      exact ⟨hsafe.1,fun _ => transfer_fits_idle hidle i⟩

end Device

namespace Engine

/-- The engine whose tick closes a packet, unless the packet fails before. -/
def closing (engine : Engine) (request : Packet) : Option Engine :=
  let (rc,x) := engine.device.handlePacket request
  let engine := { engine with device := x.device }
  if rc = .err ∧ x.result.response = none ∧ x.result.notification = none then none
  else match engine.queueOptional x.result.response with
    | (.err,_) => none
    | (.ok,engine) =>
      match engine.queueOptional x.result.notification with
      | (.err,_) => none
      | (.ok,engine) => some engine.flushDeviceNotifications

theorem closing_lines {e closed : Engine} {request : Packet} {rc : Rc} {d' : Device}
    {response : Option Packet} {m : Mail}
    (h : e.device.handlePacket request =
      (rc,⟨d'.withPending m.pending,⟨response,m.slot⟩,m.accepted⟩))
    (hclosed : e.closing request = some closed) :
    closed = d'.carrying (flushedLines d'.scenario
      ⟨m.pending,e.outboundPackets ++ (response.toList ++ m.slot.toList)⟩) := by
  unfold closing at hclosed
  rw [h] at hclosed
  dsimp only at hclosed
  rw [show ({ e with device := d'.withPending m.pending } : Engine) =
    d'.carrying ⟨m.pending,e.outboundPackets⟩ from rfl] at hclosed
  split at hclosed
  · cases hclosed
  rcases queue_optional_cases d' ⟨m.pending,e.outboundPackets⟩ response with ⟨hq,-⟩ | ⟨hq,-⟩
  · rw [hq] at hclosed
    dsimp only at hclosed
    rcases queue_optional_cases d' ⟨m.pending,e.outboundPackets ++ response.toList⟩ m.slot with
      ⟨hq,-⟩ | ⟨hq,-⟩
    · rw [hq] at hclosed
      cases hclosed
      rw [flush_lines, List.append_assoc]
    · rw [hq] at hclosed
      cases hclosed
  · rw [hq] at hclosed
    cases hclosed

theorem closing_device {e closed : Engine} {request : Packet}
    (h : e.closing request = some closed) :
    ∃ l, closed = (e.device.handlePacket request).2.device.carrying l := by
  have hhandled : e.device.handlePacket request = ((e.device.handlePacket request).1,
      ⟨(e.device.handlePacket request).2.device.withPending
          (e.device.handlePacket request).2.mail.pending,
        ⟨(e.device.handlePacket request).2.result.response,
          (e.device.handlePacket request).2.mail.slot⟩,
        (e.device.handlePacket request).2.mail.accepted⟩) := rfl
  exact ⟨_,closing_lines hhandled h⟩

theorem closing_other {e : Engine} {request : Packet} (hdata : request.mt ≠ mtData)
    (hcommand : request.mt ≠ mtCommand) : e.closing request = none := by
  unfold closing
  rw [handle_packet_other e.device request hdata hcommand]
  exact if_pos ⟨rfl,rfl,rfl⟩

theorem closing_bounded {e closed : Engine} {request : Packet} (h : e.device.Bounded)
    (hclosed : e.closing request = some closed) : closed.device.Bounded := by
  by_cases hmt : request.mt = mtData ∨ request.mt = mtCommand
  · rcases handle_packet_served e.device request hmt with ⟨rc,response,posting,d',hserved,hx⟩
    have hbounded : d'.Bounded := h.served hserved
    rw [posted_finalized] at hx
    rw [closing_lines hx hclosed]
    exact hbounded
  · rcases not_or.mp hmt with ⟨hdata,hcommand⟩
    rw [closing_other hdata hcommand] at hclosed
    cases hclosed

end Engine

namespace Run

/-- Every tick of the call returns the code of success: the tick itself, or the one that
closes the packet. -/
def TicksSucceed (r : Run) : Op → Prop
  | .submit request => ∀ closed, r.engine.closing request = some closed →
      (closed.tick 0).rc = .ok
  | .tick elapsedMs => (r.engine.tick elapsedMs).rc = .ok
  | .dequeue => True

def TicksSafe (r : Run) : Op → Prop
  | .submit request => ∀ closed, r.engine.closing request = some closed →
      closed.device.TickSafe 0
  | .tick elapsedMs => r.engine.device.TickSafe elapsedMs
  | .dequeue => True

/-- What uncongested calls keep: the events fit and nothing waits without deferral. -/
structure Flowing (d : Device) : Prop where
  bounded : d.Bounded
  prompt : d.Prompt

theorem flowing_quiet {d : Device} (h : Flowing d) (hs : d.scenario ≠ .delayedNotifications) :
    d.Quiet := ⟨hs,h.prompt.resolve_left hs⟩

theorem step_flowing {r : Run} {op : Op} (h : Flowing r.engine.device) (hroom : r.Uncongested op) :
    Flowing (r.step op).engine.device := by
  constructor
  · exact r.step_device (G := fun _ _ => True) (fun _ _ hd => hd)
      (fun _ _ _ _ _ hd _ hserved => hd.served hserved)
      (fun _ _ _ _ _ hd hticked => hd.ticked hticked) op h.bounded fun _ _ => trivial
  · by_cases hs : r.engine.device.scenario = .delayedNotifications
    · exact Or.inl ((r.step_scenario op).trans hs)
    · have hq := flowing_quiet h hs
      rcases r.step_called op (hroom.fits hq) hq with ⟨-,-,hidle,-⟩
      exact Or.inr hidle

theorem closing_flowing {r : Run} {request : Packet} {closed : Engine}
    (h : Flowing r.engine.device) (hroom : r.Uncongested (.submit request))
    (hclosed : r.engine.closing request = some closed) : Flowing closed.device := by
  refine ⟨Engine.closing_bounded h.bounded hclosed,?_⟩
  by_cases hmt : request.mt = mtData ∨ request.mt = mtCommand
  swap
  · rcases not_or.mp hmt with ⟨hdata,hcommand⟩
    rw [Engine.closing_other hdata hcommand] at hclosed
    cases hclosed
  by_cases hs : r.engine.device.scenario = .delayedNotifications
  · rcases handle_packet_served r.engine.device request hmt with
      ⟨rc,response,posting,d',hserved,hx⟩
    rw [posted_finalized] at hx
    rw [Engine.closing_lines hx hclosed]
    exact Or.inl ((served_frame hserved).2.trans hs)
  · have hq := flowing_quiet h hs
    rcases handled_packet r.engine.device request hmt hq with ⟨rc,d',response,posting,m,hhandled⟩
    have hposted := posting_length hhandled.served
    have hresponse : response.toList.length ≤ 1 := by cases response <;> simp
    have houtbound : r.engine.outboundPackets.length ≤ 8 := hroom
    have hfits : r.engine.outboundPackets.length+(response.toList ++ posting.packets).length ≤
        maxOutboundPackets := by
      simp only [List.length_append, maxOutboundPackets]
      omega
    rw [Engine.closing_lines hhandled.outcome hclosed, hhandled.forwarded _ hfits]
    exact Or.inr rfl

theorem ticks_succeed_step {r : Run} {op : Op} (h : Flowing r.engine.device)
    (hroom : r.Uncongested op) : r.TicksSucceed op ↔ r.TicksSafe op := by
  cases op with
  | dequeue => exact Iff.rfl
  | tick elapsedMs =>
    exact (Engine.tick_ok _ elapsedMs h.bounded).trans (h.prompt.fits elapsedMs)
  | submit request =>
    refine forall₂_congr fun closed hclosed => ?_
    have hflows := closing_flowing h hroom hclosed
    exact (Engine.tick_ok closed 0 hflows.bounded).trans (hflows.prompt.fits 0)

end Run

/-- In an uncongested run of any scenario every tick succeeds exactly when at each of them the
event served is not a measurement the profile's template cannot report, nor, with deferred
notifications, a transmission that finds too little room in the pending queue. -/
theorem ticks_succeed_iff (profile : Profile) (scenario : Scenario) (ops : List Op)
    (h : Run.Along profile scenario Run.Uncongested ops) :
    Run.Along profile scenario Run.TicksSucceed ops ↔ Run.Along profile scenario Run.TicksSafe ops := by
  have hinit : Run.Flowing (Run.init profile scenario).engine.device :=
    ⟨Nat.zero_le _,Or.inr rfl⟩
  have hsteps : Run.Along profile scenario (fun r op => r.TicksSucceed op ↔ r.TicksSafe op) ops :=
    Runs.along_of_invariant (I := fun r : Run => Run.Flowing r.engine.device)
      (fun _ _ hr hroom => Run.step_flowing hr hroom)
      (fun _ _ hr hroom => Run.ticks_succeed_step hr hroom) _ ops hinit h
  constructor
  · intro hsucceed
    exact Runs.along_mono (fun _ _ hr => hr.2.mp hr.1) _ ops (Runs.along_and _ ops hsucceed hsteps)
  · intro hsafe
    exact Runs.along_mono (fun _ _ hr => hr.2.mpr hr.1) _ ops (Runs.along_and _ ops hsafe hsteps)

/-- A message of nine repetitions, then nothing but time. -/
def repeatedTransfer (ticks : ℕ) : List Op := [.submit (initRequest 1),
  .submit (setAppConfigRequest 1 1 [appConfigDataRepetitionCount,1,9]),
  .submit (startRequest 1), .submit (dataMessage 1 1)] ++ List.replicate ticks (.tick 2000)

/-- Without deferral the repetitions reach the host. -/
theorem repeated_transfer_succeeds :
    Run.Along defaultProfile .default Run.TicksSucceed (repeatedTransfer 3) ↔
      Run.Along defaultProfile .default Run.TicksSafe (repeatedTransfer 3) :=
  ticks_succeed_iff defaultProfile .default (repeatedTransfer 3) (by decide +kernel)

/-- With deferral eight of them wait, and the ninth finds no room. -/
theorem deferred_transfer_fails :
    Run.Along defaultProfile .delayedNotifications Run.Uncongested (repeatedTransfer 9) ∧
      ¬ Run.Along defaultProfile .delayedNotifications Run.TicksSucceed (repeatedTransfer 9) := by
  constructor
  · decide +kernel
  · intro h
    have hsplit : repeatedTransfer 9 = repeatedTransfer 8 ++ [.tick 2000] := by decide
    rw [hsplit, Run.Along, Runs.along_append] at h
    have hfails : ((Run.reached defaultProfile .delayedNotifications
        (repeatedTransfer 8)).engine.tick 2000).rc = .err := by decide +kernel
    have hsucceeds : ((Run.reached defaultProfile .delayedNotifications
        (repeatedTransfer 8)).engine.tick 2000).rc = .ok := h.2.1
    rw [hfails] at hsucceeds
    cases hsucceeds

end UciSim
