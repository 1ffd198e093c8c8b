import UciSim.EngineRuns

/-!
# What waits over a run

A notification that waits in the device waited there before the call, was left
waiting by the packet, or was posted by the event the call serves.
-/

set_option autoImplicit false

namespace UciSim

theorem queued_lines_mem {l : Lines} {ns : List Packet} {n : Packet}
    (h : n ∈ (queuedLines l ns).waiting) : n ∈ l.waiting ∨ n ∈ ns :=
  Mailbox.queueAll_pending_mem h

theorem flushed_lines_mem {scenario : Scenario} {l : Lines} {n : Packet}
    (h : n ∈ (flushedLines scenario l).waiting) : n ∈ l.waiting := by
  unfold flushedLines at h
  split at h
  · exact h
  · exact List.mem_of_mem_drop h

theorem settled_held (d : Device) (posting : Posting) (k : ℕ) :
    Mailbox.held (posting.settled d k) = Mailbox.held (posting.mail d) := by
  unfold Posting.settled
  split
  · exact Mailbox.settle_held _
  · rfl

/-- What a packet leaves in the mailbox waited before it, or the packet posted it. -/
theorem settled_held_mem {d : Device} {posting : Posting} {k : ℕ} {n : Packet}
    (h : n ∈ Mailbox.held (posting.settled d k)) :
    n ∈ d.pendingNotifications ∨ n ∈ posting.packets := by
  rw [settled_held] at h
  cases posting with
  | delivered ns => simpa [Mailbox.held, Posting.packets] using Mailbox.deliverAll_held_mem h
  | queued ns =>
    simp only [Posting.mail, Mailbox.held, Mailbox.queueAll_slot, Option.toList_none,
      List.nil_append] at h
    exact Mailbox.queueAll_pending_mem h
  | placed n' => simpa [Posting.mail, Mailbox.place, Mailbox.held, Posting.packets, or_comm] using h

/-- The property holds of every notification an event of the device can post. -/
structure Device.EventsPost (d : Device) (Q : Packet → Prop) : Prop where
  range : d.scenario = .rangingStream →
    ∀ payload, Q (.notification gidSessionControl d.profile.rangeDataNotificationOid payload)
  idle : d.scenario = .rangingStream → ∀ session, Q (idleStatus session)
  credit : ∀ sessionId, Q (dataCreditNotification sessionId 1)
  status : ∀ sessionId sequenceNumber status txCount,
    status = dataTransferStatusRepetitionOk ∨ status = dataTransferStatusOk →
      Q (dataTransferStatusNotification sessionId sequenceNumber status txCount)

namespace Device.EventsPost

variable {d d' : Device} {Q : Packet → Prop}

theorem congr (h : d.EventsPost Q) (hs : d'.scenario = d.scenario)
    (hp : d'.profile = d.profile) : d'.EventsPost Q :=
  ⟨hs ▸ hp ▸ h.range,hs ▸ h.idle,h.credit,h.status⟩

theorem sampled (h : d.EventsPost Q) (hs : d.scenario = .rangingStream) {ns : List Packet}
    (hx : Sampled d ns d') : ∀ n ∈ ns, Q n := by
  cases hx with
  | silent => simp
  | sent payload => simpa using h.range hs payload

theorem ranged (h : d.EventsPost Q) {i : Fin maxSessions} {rc : Rc} {ns : List Packet}
    (hx : Ranged d i rc ns d') : ∀ n ∈ ns, Q n := by
  cases hx with
  | exhausted rc scenario => simpa using h.idle scenario _
  | blocked ns d' scenario _ sampled => exact h.sampled scenario sampled
  | measured ns d' _ scenario _ sampled => exact h.sampled scenario sampled
  | finished rc ns d' _ scenario _ sampled =>
    intro n hn
    rcases List.mem_append.mp hn with hn | hn
    · exact h.sampled scenario sampled n hn
    · rw [List.mem_singleton.mp hn]
      exact h.idle scenario _
  | _ => simp

theorem transferred (h : d.EventsPost Q) {i : Fin maxSessions} {rc : Rc} {ns : List Packet}
    (hx : Transferred d i rc ns d') : ∀ n ∈ ns, Q n := by
  cases hx with
  | repeated => simpa using h.status _ _ _ _ (Or.inl rfl)
  | completed =>
    intro n hn
    rcases List.mem_pair.mp hn with rfl | rfl
    · exact h.credit _
    · exact h.status _ _ _ _ (Or.inr rfl)

theorem fired (h : d.EventsPost Q) {event : ScheduledEvent} {flushes : Bool} {ns : List Packet}
    (hx : Fired d event flushes ns d') : ∀ n ∈ ns, Q n := by
  cases hx with
  | rangingFailed i _ _ _ _ hranged => exact h.ranged hranged
  | rangingOver i _ _ _ _ hranged => exact h.ranged hranged
  | rangingOn i _ _ _ _ hranged => exact h.ranged hranged
  | transferFailed i _ _ _ _ _ htransferred => exact h.transferred htransferred
  | transferOver i _ _ _ _ _ htransferred => exact h.transferred htransferred
  | transferOn i _ _ _ _ _ htransferred => exact h.transferred htransferred
  | _ => simp

theorem ticked (h : d.EventsPost Q) {elapsedMs : UInt32} {flushes : Bool} {ns : List Packet}
    (hx : Ticked d elapsedMs flushes ns d') : ∀ n ∈ ns, Q n := by
  cases hx with
  | waiting => simp
  | served event d₁ _ _ _ ready hfired =>
    obtain ⟨-,hd₁⟩ := Device.dequeue_ready_event_some ready
    have hpost : d₁.EventsPost Q := h.congr (by rw [hd₁]; rfl) (by rw [hd₁]; rfl)
    exact hpost.fired hfired

end Device.EventsPost

theorem handle_packet_frame (d : Device) (request : Packet) :
    (d.handlePacket request).2.device.profile = d.profile ∧
      (d.handlePacket request).2.device.scenario = d.scenario := by
  by_cases hmt : request.mt = mtData ∨ request.mt = mtCommand
  · obtain ⟨rc,response,posting,d',hserved,hx⟩ := handle_packet_served d request hmt
    rw [posted_finalized] at hx
    obtain ⟨hprofile,hscenario⟩ := served_frame hserved
    rw [hx]
    exact ⟨hprofile,hscenario⟩
  · obtain ⟨hdata,hcommand⟩ := not_or.mp hmt
    rw [handle_packet_other d request hdata hcommand]
    exact ⟨rfl,rfl⟩

namespace Engine

section

variable {Q : Packet → Prop}

theorem tick_pending (d : Device) (l : Lines) (elapsedMs : UInt32) (hposted : d.EventsPost Q)
    (hl : ∀ n ∈ l.waiting, Q n) :
    ∀ n ∈ ((d.carrying l).tick elapsedMs).engine.device.pendingNotifications, Q n := by
  obtain ⟨flushes,ns,d',hticked,hengine,-⟩ := tick_ticked d l elapsedMs
  have hpost : (d.withPending l.waiting).EventsPost Q := hposted.congr rfl rfl
  have hqueued : ∀ n ∈ (queuedLines l ns).waiting, Q n := by
    intro n hn
    rcases queued_lines_mem hn with hwaiting | hns
    · exact hl n hwaiting
    · exact hpost.ticked hticked n hns
  rw [hengine]
  intro n hn
  cases flushes with
  | true => exact hqueued n (flushed_lines_mem hn)
  | false => exact hqueued n hn

theorem submit_pending (e : Engine) (request : Packet) (hposted : e.device.EventsPost Q)
    (hx : ∀ n ∈ (e.device.handlePacket request).2.device.pendingNotifications, Q n) :
    ∀ n ∈ (e.submitPacket request).engine.device.pendingNotifications, Q n := by
  have hcases := submit_cases e request (e.device.handlePacket request).1
    (e.device.handlePacket request).2.device (e.device.handlePacket request).2.result.response
    (e.device.handlePacket request).2.mail rfl
  obtain ⟨hprofile,hscenario⟩ := handle_packet_frame e.device request
  rcases hcases with ⟨-,-,-,hout⟩ | ⟨sent,-,-,-,-,hout⟩ | ⟨-,-,hout⟩
  · rw [hout]
    exact hx
  · rw [hout]
    exact hx
  · rw [hout]
    exact tick_pending _ _ 0 (hposted.congr hscenario hprofile)
      fun n hn => hx n (flushed_lines_mem hn)

end

end Engine

namespace Run

/-- A property of waiting notifications that packets leave to them and events post them with
is kept by every step. -/
theorem step_pending {Q : Packet → Prop} (r : Run) (op : Op)
    (hposted : r.engine.device.EventsPost Q)
    (hpacket : ∀ request, op = .submit request →
      ∀ n ∈ (r.engine.device.handlePacket request).2.device.pendingNotifications, Q n)
    (h : ∀ n ∈ r.engine.device.pendingNotifications, Q n) :
    ∀ n ∈ (r.step op).engine.device.pendingNotifications, Q n := by
  cases op with
  | dequeue => rwa [step_dequeue_device]
  | tick elapsedMs =>
    exact Engine.tick_pending r.engine.device r.engine.lines elapsedMs hposted h
  | submit request => exact r.engine.submit_pending request hposted (hpacket request rfl)

end Run

end UciSim
