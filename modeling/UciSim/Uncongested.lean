import UciSim.EngineRuns

/-!
# Runs with room

The outbound queue has room for everything each call makes; with at most eight
packets outbound when a call starts it always has. Then nothing waits in the
device between calls, and the host is sent exactly what the calls make, in order.
-/

set_option autoImplicit false

namespace UciSim

theorem posting_length {d d' : Device} {request : Packet} {response : Option Packet}
    {posting : Posting} (h : Served d request response posting d') :
    posting.packets.length ≤ 2 := by
  cases h with
  | command response ns errors d' mt responds change error =>
    have hns : ns.length ≤ 1 := by cases change <;> simp
    have herrors : errors.length ≤ 1 := by
      obtain rfl | ⟨status,rfl⟩ := error <;> simp
    simp only [Posting.packets, List.length_append]
    omega
  | data posting d' mt change => cases change <;> simp [Posting.packets, dataCompletion]

theorem sampled_length {d d' : Device} {ns : List Packet} (h : Sampled d ns d') :
    ns.length ≤ 1 := by
  cases h <;> simp

theorem ranged_length {d d' : Device} {i : Fin maxSessions} {rc : Rc} {ns : List Packet}
    (h : Ranged d i rc ns d') : ns.length ≤ 2 := by
  cases h with
  | blocked _ _ _ _ sampled => exact Nat.le_succ_of_le (sampled_length sampled)
  | measured _ _ _ _ _ sampled => exact Nat.le_succ_of_le (sampled_length sampled)
  | finished _ ns _ _ _ _ sampled =>
    have := sampled_length sampled
    simp only [List.length_append, List.length_singleton]
    omega
  | _ => simp

theorem transferred_length {d d' : Device} {i : Fin maxSessions} {rc : Rc} {ns : List Packet}
    (h : Transferred d i rc ns d') : ns.length ≤ 2 := by
  cases h <;> simp [dataCompletion]

theorem fired_length {d d' : Device} {event : ScheduledEvent} {flushes : Bool}
    {ns : List Packet} (h : Fired d event flushes ns d') : ns.length ≤ 2 := by
  cases h with
  | rangingFailed i _ _ _ _ ranged => exact ranged_length ranged
  | rangingOver i _ _ _ _ ranged _ => exact ranged_length ranged
  | rangingOn i _ _ _ _ ranged _ => exact ranged_length ranged
  | transferFailed i _ _ _ _ _ transferred => exact transferred_length transferred
  | transferOver i _ _ _ _ _ transferred _ => exact transferred_length transferred
  | transferOn i _ _ _ _ _ transferred _ => exact transferred_length transferred
  | _ => simp

/-- With nothing pending only a broken template fails, and it posts nothing. -/
theorem ranged_failed {d d' : Device} {i : Fin maxSessions} {ns : List Packet}
    (h : Ranged d i .err ns d') (hpending : d.pendingNotifications = []) :
    ns = [] ∧ d' = d.withSequence (d.nextRangingSequence+1) ∧
      (d.profile.rangeDataPayloadLen = 0 ∨
        d.profile.rangeDataPayloadLen.toNat > maxPayload) := by
  generalize hrc : Rc.err = rc at h
  cases h with
  | exhausted rc _ _ _ room => cases hrc.trans (room (by rw [hpending]; decide))
  | unbuilt _ _ invalid => exact ⟨rfl,rfl,invalid⟩
  | blocked _ _ _ _ _ full =>
    rw [hpending] at full
    cases full
  | finished rc ns _ _ _ _ sampled _ room =>
    have hlen := sampled_length sampled
    refine absurd (hrc.trans (room ?_)) (by decide)
    rw [hpending]
    simp only [List.length_nil, maxPendingNotifications]
    omega
  | _ => cases hrc

theorem transferred_ok {d d' : Device} {i : Fin maxSessions} {rc : Rc} {ns : List Packet}
    (h : Transferred d i rc ns d') (hpending : d.pendingNotifications = []) : rc = .ok := by
  cases h with
  | repeated _ _ _ room => exact room (by rw [hpending]; decide)
  | completed _ _ _ room => exact room (by rw [hpending]; decide)

theorem fired_unflushed {d d' : Device} {event : ScheduledEvent} {ns : List Packet}
    (h : Fired d event false ns d') (hpending : d.pendingNotifications = []) : ns = [] := by
  cases h with
  | rangingFailed i _ _ _ _ ranged => exact (ranged_failed ranged hpending).1
  | transferFailed i _ _ _ _ _ transferred => cases transferred_ok transferred hpending
  | _ => rfl

theorem ticked_length {d d' : Device} {elapsedMs : UInt32} {flushes : Bool}
    {ns : List Packet} (h : Ticked d elapsedMs flushes ns d') : ns.length ≤ 2 := by
  cases h with
  | waiting _ => simp
  | served _ _ _ _ _ _ fired => exact fired_length fired

theorem ticked_unflushed {d d' : Device} {elapsedMs : UInt32} {ns : List Packet}
    (h : Ticked d elapsedMs false ns d') (hpending : d.pendingNotifications = []) :
    ns = [] := by
  cases h with
  | waiting _ => rfl
  | served event d₁ _ _ _ ready fired =>
    obtain ⟨-,rfl⟩ := Device.dequeue_ready_event_some ready
    exact fired_unflushed fired hpending

/-- The device whose events the call serves, once they have aged. -/
def Device.ticking (d : Device) : Op → Option Device
  | .submit request =>
    let (rc,x) := d.handlePacket request
    if rc = .err ∧ x.result.response = none ∧ x.result.notification = none then none
    else some (x.device.tickEvents 0)
  | .tick elapsedMs => some (d.tickEvents elapsedMs)
  | .dequeue => none

/-- The response to a packet and the notifications it makes. -/
def Device.hands (d : Device) (request : Packet) : List Packet :=
  (d.handlePacket request).2.result.response.toList ++ (d.handlePacket request).2.accepted

/-- The change of a call that finds room for everything, with what it sends. -/
inductive Called (d : Device) : Op → List Packet → Device → Prop where
  | refused (request : Packet) (data : request.mt ≠ mtData)
      (command : request.mt ≠ mtCommand) : Called d (.submit request) [] d
  | silent (request : Packet) (response : Option Packet) (posting : Posting) (d' : Device)
      (p : List Packet) (served : Served d request response posting d')
      (handled : (d.handlePacket request).2.device = d'.withPending p)
      (nothing : response.toList ++ posting.packets = [])
      (hands : d.hands request = []) : Called d (.submit request) [] d'
  | answered (request : Packet) (response : Option Packet) (posting : Posting) (d' : Device)
      (flushes : Bool) (ns : List Packet) (d'' : Device) (p : List Packet)
      (served : Served d request response posting d')
      (handled : (d.handlePacket request).2.device = d'.withPending p)
      (ticks : d.ticking (.submit request) = some ((d'.withPending p).tickEvents 0))
      (ticked : Ticked d' 0 flushes ns d'')
      (hands : d.hands request = response.toList ++ posting.packets) :
      Called d (.submit request) (response.toList ++ posting.packets ++ ns) d''
  | ticked (elapsedMs : UInt32) (flushes : Bool) (ns : List Packet) (d' : Device)
      (ticked : Ticked d elapsedMs flushes ns d') : Called d (.tick elapsedMs) ns d'
  | dequeued : Called d .dequeue [] d

theorem queued_room (l : Lines) (ns : List Packet) (hwaiting : l.waiting = [])
    (hns : ns.length ≤ 2) : queuedLines l ns = ⟨ns,l.outbound⟩ := by
  unfold queuedLines
  rw [hwaiting, Mailbox.queueAll_room _ _ ns (by
    simp only [List.length_nil, maxPendingNotifications]; omega)]
  rfl

theorem flushed_prompt (scenario : Scenario) (l : Lines)
    (hscenario : scenario ≠ .delayedNotifications) :
    flushedLines scenario l = Relay.forward maxOutboundPackets l := by
  unfold flushedLines
  rw [if_neg (by simpa [Scenario.shouldDeferNotification] using hscenario)]

/-- Nothing waits in a device that does not defer. -/
structure Device.Quiet (d : Device) : Prop where
  prompt : d.scenario ≠ .delayedNotifications
  idle : d.pendingNotifications = []

/-- A tick with nothing waiting forwards what it makes. -/
theorem tick_forwards (d : Device) (outbound : List Packet) (elapsedMs : UInt32)
    (hq : d.Quiet) :
    ∃ flushes ns d', Ticked d elapsedMs flushes ns d' ∧ d'.pendingNotifications = [] ∧
      ((d.carrying ⟨[],outbound⟩).tick elapsedMs).produced = ns ∧
      ((d.carrying ⟨[],outbound⟩).tick elapsedMs).engine =
        d'.carrying (Relay.forward maxOutboundPackets ⟨ns,outbound⟩) := by
  obtain ⟨flushes,ns,d',hticked,hengine,hproduced⟩ :=
    Engine.tick_ticked d ⟨[],outbound⟩ elapsedMs
  have hd : d.withPending [] = d := by rw [← hq.idle]; rfl
  rw [hd] at hticked
  have hns := ticked_length hticked
  refine ⟨flushes,ns,d',hticked,(ticked_frame hticked).2.2.trans hq.idle,?_,?_⟩
  · rw [hproduced, Mailbox.queueAll_room _ _ ns (by
      simp only [List.length_nil, maxPendingNotifications]; omega)]
    rfl
  · rw [hengine, queued_room ⟨[],outbound⟩ ns rfl hns]
    cases flushes with
    | true => rw [if_pos rfl, flushed_prompt _ _ hq.prompt]
    | false =>
      rw [ticked_unflushed hticked hq.idle, Relay.forward_room _ _ (Nat.zero_le _)]
      simp

/-- What serving the event that is ready after the elapsed time makes. -/
def Device.served (d : Device) (elapsedMs : UInt32) : List Packet :=
  ((Engine.mk d []).tick elapsedMs).produced

/-- How many packets the call hands to the outbound queue. -/
def Device.demand (d : Device) : Op → ℕ
  | .submit request =>
    let (rc,x) := d.handlePacket request
    let handed := x.result.response.toList ++ x.accepted
    if rc = .err ∧ x.result.response = none ∧ x.result.notification = none then handed.length
    else handed.length+((x.device.withPending []).served 0).length
  | .tick elapsedMs => (d.served elapsedMs).length
  | .dequeue => 0

theorem carrying_idle {d : Device} (h : d.pendingNotifications = []) (outbound : List Packet) :
    d.carrying ⟨[],outbound⟩ = ⟨d,outbound⟩ :=
  congrArg (fun p => Engine.mk (d.withPending p) outbound) h.symm

theorem served_carrying (d : Device) (outbound : List Packet) (elapsedMs : UInt32) :
    ((d.carrying ⟨[],outbound⟩).tick elapsedMs).produced = (d.withPending []).served elapsedMs :=
  Engine.tick_produced ⟨d.withPending [],[]⟩ (d.carrying ⟨[],outbound⟩) rfl elapsedMs

theorem forward_room (ns outbound : List Packet)
    (h : outbound.length+ns.length ≤ maxOutboundPackets) :
    Relay.forward maxOutboundPackets ⟨ns,outbound⟩ = ⟨[],outbound ++ ns⟩ :=
  Relay.forward_room _ _ (show ns.length ≤ maxOutboundPackets-outbound.length by omega)

/-- The outcome of handling a command or a data message, with nothing pending before it. -/
structure Handled (d : Device) (request : Packet) (rc : Rc) (d' : Device)
    (response : Option Packet) (posting : Posting) (m : Mail) : Prop where
  served : Served d request response posting d'
  outcome : d.handlePacket request = (rc,⟨d'.withPending m.pending,⟨response,m.slot⟩,m.accepted⟩)
  quiet : d'.Quiet
  held : Mailbox.held m = posting.packets
  accepted : m.accepted = posting.packets
  silent : m.slot = none → m.pending = []

theorem handled_packet (d : Device) (request : Packet)
    (hmt : request.mt = mtData ∨ request.mt = mtCommand)
    (hq : d.Quiet) :
    ∃ rc d' response posting m, Handled d request rc d' response posting m := by
  obtain ⟨rc,response,posting,d',hserved,hx⟩ := handle_packet_served d request hmt
  rw [posted_finalized] at hx
  have hscenario' : d'.scenario ≠ .delayedNotifications := by
    rw [(served_frame hserved).2]
    exact hq.prompt
  have hpending' : d'.pendingNotifications = [] := by
    obtain h | ⟨-,h⟩ := served_pending hserved
    · rw [h, hq.idle]
    · exact h
  obtain ⟨hheld,haccepted⟩ := settled_uncongested d' posting d.pendingNotifications.length
    hscenario' hpending' (posting_length hserved)
  refine ⟨rc,d',response,posting,_,hserved,hx,⟨hscenario',hpending'⟩,hheld,haccepted,?_⟩
  intro hslot
  have hnothing := settled_silent d' posting d.pendingNotifications.length hscenario' hslot
  rw [Mailbox.held, hslot] at hnothing
  exact hnothing

namespace Handled

variable {d d' : Device} {request : Packet} {rc : Rc} {response : Option Packet}
  {posting : Posting} {m : Mail}

theorem hands (h : Handled d request rc d' response posting m) :
    d.hands request = response.toList ++ posting.packets := by
  unfold Device.hands
  rw [h.outcome, h.accepted]

theorem demand (h : Handled d request rc d' response posting m) :
    d.demand (.submit request) =
      if rc = .err ∧ response = none ∧ m.slot = none then
        (response.toList ++ posting.packets).length
      else (response.toList ++ posting.packets).length+((d'.withPending []).served 0).length := by
  unfold Device.demand
  dsimp only
  rw [h.outcome]
  dsimp only
  rw [h.accepted]
  rfl

theorem handed_le_demand (h : Handled d request rc d' response posting m) :
    (response.toList ++ posting.packets).length ≤ d.demand (.submit request) := by
  rw [h.demand]
  split
  · exact Nat.le_refl _
  · exact Nat.le_add_right _ _

theorem waiting (h : Handled d request rc d' response posting m) (outbound : List Packet) :
    outbound ++ (response.toList ++ m.slot.toList) ++ m.pending =
      outbound ++ (response.toList ++ posting.packets) := by
  rw [← h.held]
  simp [Mailbox.held, List.append_assoc]

theorem forwarded (h : Handled d request rc d' response posting m) (outbound : List Packet)
    (hroom : outbound.length+(response.toList ++ posting.packets).length ≤
      maxOutboundPackets) :
    flushedLines d'.scenario ⟨m.pending,outbound ++ (response.toList ++ m.slot.toList)⟩ =
      ⟨[],outbound ++ (response.toList ++ posting.packets)⟩ := by
  have hlen := congrArg List.length (h.waiting outbound)
  rw [flushed_prompt _ _ h.quiet.prompt, forward_room, h.waiting]
  simp only [List.length_append] at hlen hroom ⊢
  omega

end Handled

/-- With room for what the packet hands over the call ends at once or with its tick. -/
theorem submit_queued {e : Engine} {request : Packet} {rc : Rc} {d' : Device}
    {response : Option Packet} {posting : Posting} {m : Mail}
    (h : Handled e.device request rc d' response posting m)
    (hroom : e.outboundPackets.length+(response.toList ++ posting.packets).length ≤
      maxOutboundPackets) :
    (rc = .err ∧ response = none ∧ m.slot = none ∧ e.submitPacket request =
        ⟨.err,d'.carrying ⟨m.pending,e.outboundPackets⟩,response.toList ++ m.accepted⟩) ∨
      (¬ (rc = .err ∧ response = none ∧ m.slot = none) ∧ e.submitPacket request =
        let ticked := (d'.carrying
          ⟨[],e.outboundPackets ++ (response.toList ++ posting.packets)⟩).tick 0
        { ticked with produced := response.toList ++ m.accepted ++ ticked.produced }) := by
  obtain hrefused | ⟨sent,unsent,hsent,hunsent,hfull,-⟩ | ⟨hkept,-,hout⟩ :=
    Engine.submit_cases e request rc d' response m h.outcome
  · exact Or.inl hrefused
  · exfalso
    have hlen := congrArg List.length (h.waiting e.outboundPackets)
    simp only [List.length_append] at hfull hlen hroom
    omega
  · refine Or.inr ⟨hkept,?_⟩
    rw [hout]
    unfold Engine.closingTick
    rw [h.forwarded e.outboundPackets hroom]

theorem submit_room (e : Engine) (request : Packet)
    (hq : e.device.Quiet)
    (hroom : e.outboundPackets.length+e.device.demand (.submit request) ≤ maxOutboundPackets) :
    ∃ ns d', Called e.device (.submit request) ns d' ∧ d'.pendingNotifications = [] ∧
      (e.submitPacket request).engine = ⟨d',e.outboundPackets ++ ns⟩ ∧
      (e.submitPacket request).produced = ns := by
  by_cases hmt : request.mt = mtData ∨ request.mt = mtCommand
  swap
  · obtain ⟨hdata,hcommand⟩ := not_or.mp hmt
    refine ⟨[],e.device,.refused request hdata hcommand,hq.idle,?_⟩
    rw [Engine.submit_other e request hdata hcommand, List.append_nil]
    exact ⟨rfl,rfl⟩
  obtain ⟨rc,d',response,posting,m,h⟩ := handled_packet e.device request hmt hq
  have hhandled : (e.device.handlePacket request).2.device = d'.withPending m.pending := by
    rw [h.outcome]
  have hhanded := h.handed_le_demand
  obtain ⟨hrc,hnone,hslot,hout⟩ | ⟨hkept,hout⟩ := submit_queued h (by omega)
  · have hwaiting := h.silent hslot
    have hnothing : posting.packets = [] := by rw [← h.held, Mailbox.held, hslot, hwaiting]; rfl
    have hempty : response.toList ++ posting.packets = [] := by rw [hnone, hnothing]; rfl
    refine ⟨[],d',.silent request response posting d' _ h.served hhandled hempty
      (h.hands.trans hempty),h.quiet.idle,?_⟩
    rw [hout, hwaiting, List.append_nil, hnone, h.accepted, hnothing]
    exact ⟨congrArg (fun p => Engine.mk (d'.withPending p) e.outboundPackets)
      h.quiet.idle.symm,rfl⟩
  · have hticks : e.device.ticking (.submit request) =
        some ((d'.withPending m.pending).tickEvents 0) := by
      simp only [Device.ticking, h.outcome]
      rw [if_neg hkept]
    rw [h.demand, if_neg hkept] at hroom
    obtain ⟨flushes,ns,d'',hticked,hidle,hproduced,hengine⟩ := tick_forwards d'
      (e.outboundPackets ++ (response.toList ++ posting.packets)) 0 h.quiet
    rw [← served_carrying d' (e.outboundPackets ++ (response.toList ++ posting.packets)) 0,
      hproduced] at hroom
    refine ⟨response.toList ++ posting.packets ++ ns,d'',
      .answered request response posting d' flushes ns d'' _ h.served hhandled hticks hticked
        h.hands,hidle,?_⟩
    rw [forward_room _ _ (by
      simp only [List.length_append] at hroom ⊢
      omega)] at hengine
    rw [hout, h.accepted]
    dsimp only
    rw [hengine, hproduced]
    refine ⟨?_,rfl⟩
    rw [carrying_idle hidle, List.append_assoc, List.append_assoc]

theorem demand_other (d : Device) (request : Packet) (hdata : request.mt ≠ mtData)
    (hcommand : request.mt ≠ mtCommand) : d.demand (.submit request) = 0 := by
  unfold Device.demand
  dsimp only
  rw [handle_packet_other d request hdata hcommand, if_pos ⟨rfl,rfl,rfl⟩]
  rfl

theorem served_length (d : Device) (elapsedMs : UInt32) (hq : d.Quiet) :
    (d.served elapsedMs).length ≤ 2 := by
  obtain ⟨flushes,ns,d',hticked,-,hproduced,-⟩ := tick_forwards d [] elapsedMs hq
  rw [carrying_idle hq.idle] at hproduced
  rw [Device.served]
  rw [hproduced]
  exact ticked_length hticked

namespace Run

/-- The outbound queue has room for everything the call hands it. -/
def Fits (r : Run) : Op → Prop
  | .dequeue => True
  | op => r.engine.outboundPackets.length+r.engine.device.demand op ≤ maxOutboundPackets

instance (r : Run) : (op : Op) → Decidable (r.Fits op)
  | .dequeue => isTrue trivial
  | .submit _ => inferInstanceAs (Decidable (_ ≤ _))
  | .tick _ => inferInstanceAs (Decidable (_ ≤ _))

def Uncongested (r : Run) : Op → Prop
  | .dequeue => True
  | _ => r.engine.outboundPackets.length ≤ 8

instance (r : Run) : (op : Op) → Decidable (r.Uncongested op)
  | .dequeue => isTrue trivial
  | .submit _ => inferInstanceAs (Decidable (_ ≤ _))
  | .tick _ => inferInstanceAs (Decidable (_ ≤ _))

/-- What the host has been sent, dequeued or not, in order. -/
def emitted (r : Run) : List Packet := r.delivered ++ r.engine.outboundPackets

theorem step_dequeue_emitted (r : Run) : (r.step .dequeue).emitted = r.emitted := by
  cases h : r.engine.outboundPackets with
  | nil => rw [step_dequeue_nil h]
  | cons packet rest =>
    rw [step_dequeue_cons h]
    simp [emitted, h]

/-- A call makes five packets at most: a response, two notifications and two more by the
event it serves. -/
theorem demand_le (r : Run) (op : Op) (hq : r.engine.device.Quiet) :
    r.engine.device.demand op ≤ 5 := by
  cases op with
  | dequeue => exact Nat.zero_le _
  | tick elapsedMs =>
    exact (served_length _ elapsedMs hq).trans (by decide)
  | submit request =>
    by_cases hmt : request.mt = mtData ∨ request.mt = mtCommand
    · obtain ⟨rc,d',response,posting,m,h⟩ :=
        handled_packet r.engine.device request hmt hq
      have hposted := posting_length h.served
      have hserved := served_length (d'.withPending []) 0 ⟨h.quiet.prompt,rfl⟩
      have hresponse : response.toList.length ≤ 1 := by cases response <;> simp
      rw [h.demand]
      simp only [List.length_append]
      split <;> omega
    · obtain ⟨hdata,hcommand⟩ := not_or.mp hmt
      rw [demand_other _ _ hdata hcommand]
      exact Nat.zero_le _

theorem Uncongested.fits {r : Run} {op : Op} (h : r.Uncongested op) (hq : r.engine.device.Quiet) :
    r.Fits op := by
  have hdemand := r.demand_le op hq
  cases op with
  | dequeue => trivial
  | _ =>
    have houtbound : r.engine.outboundPackets.length ≤ 8 := h
    simp only [Fits, maxOutboundPackets]
    omega

theorem step_called (r : Run) (op : Op) (hroom : r.Fits op) (hq : r.engine.device.Quiet) :
    ∃ ns, Called r.engine.device op ns (r.step op).engine.device ∧
      (r.step op).engine.device.pendingNotifications = [] ∧
      (r.step op).emitted = r.emitted ++ ns ∧ (r.step op).produced = r.produced ++ ns := by
  cases op with
  | submit request =>
    obtain ⟨ns,d',hcalled,hpending',hengine,hproduced⟩ :=
      submit_room r.engine request hq hroom
    refine ⟨ns,?_⟩
    simp only [step_submit, after, emitted, hengine, hproduced, List.append_assoc, and_true]
    exact ⟨hcalled,hpending'⟩
  | tick elapsedMs =>
    obtain ⟨flushes,ns,d',hticked,hidle,hproduced,hengine⟩ := tick_forwards r.engine.device
      r.engine.outboundPackets elapsedMs hq
    have hstep : r.step (.tick elapsedMs) = r.after (r.engine.tick elapsedMs) := rfl
    have hns : ns.length = r.engine.device.demand (.tick elapsedMs) := by
      rw [← hproduced, carrying_idle hq.idle]
      exact congrArg List.length
        (Engine.tick_produced ⟨r.engine.device,[]⟩ r.engine rfl elapsedMs)
    rw [forward_room _ _ (hns ▸ hroom), carrying_idle hq.idle, carrying_idle hidle] at hengine
    rw [carrying_idle hq.idle] at hproduced
    refine ⟨ns,?_⟩
    simp only [hstep, after, emitted, hengine, hproduced, and_true, List.append_assoc]
    exact ⟨.ticked elapsedMs flushes ns d' hticked,hidle⟩
  | dequeue =>
    refine ⟨[],?_⟩
    cases h : r.engine.outboundPackets with
    | nil =>
      rw [step_dequeue_nil h]
      exact ⟨.dequeued,hq.idle,(List.append_nil _).symm,(List.append_nil _).symm⟩
    | cons packet rest =>
      rw [step_dequeue_cons h]
      exact ⟨.dequeued,hq.idle,by simp [emitted, h],(List.append_nil _).symm⟩

end Run

end UciSim
