import UciSim.General.Losses
import UciSim.PacketScripts
import UciSim.RefusedPackets

/-!
# The order of deferred notifications

With deferred notifications everything a packet or an event generates waits in the
pending queue, and each exchange hands over the oldest. What has been handed over
and what waits are, in order, what was generated, as long as the queues have room.
-/

set_option autoImplicit false

namespace UciSim

open Exchange

/-- What handling the packet generates: what it posts when nothing waits. -/
def Device.generates (d : Device) (request : Packet) : List Packet :=
  ((d.withPending []).handlePacket request).2.accepted

/-- What an event generates when notifications are deferred. -/
def Device.notices (d : Device) (event : ScheduledEvent) : List Packet :=
  match event.type, d.findSession event.sessionId with
  | .dataTransfer, some i =>
    let session := d.sessions i
    if session.state ≠ sessionStateActive ∨ session.dataTransferInProgress = false then []
    else if session.dataTransferRepetitionsRemaining > 0 then
      [dataTransferStatusNotification session.sessionId session.dataTransferSequence
        dataTransferStatusRepetitionOk session.transmit.dataTransferTxCount]
    else
      dataCompletion session.sessionId session.dataTransferSequence dataTransferStatusOk
        session.transmit.dataTransferTxCount
  | _, _ => []

def Device.tickNotices (d : Device) (elapsedMs : UInt32) : List Packet :=
  match (d.tickEvents elapsedMs).dequeueReadyEvent with
  | none => []
  | some (event,d₁) => d₁.notices event

section

variable {d d' : Device} {event : ScheduledEvent} {flushes : Bool} {ns : List Packet}

theorem ranged_deferred {i : Fin maxSessions} {rc : Rc}
    (h : Ranged d i rc ns d') (hs : d.scenario = .delayedNotifications) : ns = [] := by
  cases h with
  | idle => rfl
  | exhausted _ scenario => cases hs.symm.trans scenario
  | unbuilt => rfl
  | blocked _ _ scenario => cases hs.symm.trans scenario
  | measured _ _ _ scenario => cases hs.symm.trans scenario
  | finished _ _ _ _ scenario => cases hs.symm.trans scenario

theorem transferred_notices {i : Fin maxSessions} {rc : Rc} (type : event.type = .dataTransfer)
    (found : d.findSession event.sessionId = some i)
    (active : (d.sessions i).state = sessionStateActive) (h : Transferred d i rc ns d') :
    ns = d.notices event := by
  unfold Device.notices
  rw [type, found]
  dsimp only
  cases h with
  | repeated _ inProgress remaining =>
    rw [if_neg (by simp [active, inProgress]), if_pos remaining]
  | completed _ inProgress remaining =>
    rw [if_neg (by simp [active, inProgress]), if_neg remaining]

theorem fired_notices (h : Fired d event flushes ns d')
    (hs : d.scenario = .delayedNotifications) : ns = d.notices event := by
  have hranging : event.type = .rangeData → d.notices event = [] := by
    intro type
    unfold Device.notices
    rw [type]
  cases h with
  | unmatched h =>
    unfold Device.notices
    rcases h with type | hnone
    · rw [type]
    · rw [hnone]
      cases event.type with
      | none | rangeData | dataTransfer => rfl
  | rangingFailed i _ _ type _ ranged => rw [hranging type, ranged_deferred ranged hs]
  | rangingOver i _ _ type _ ranged => rw [hranging type, ranged_deferred ranged hs]
  | rangingOn i _ _ type _ ranged => rw [hranging type, ranged_deferred ranged hs]
  | transferIdle i type found idle =>
    unfold Device.notices
    rw [type, found]
    exact (if_pos idle).symm
  | transferFailed i _ _ type found active transferred =>
    exact transferred_notices type found active transferred
  | transferOver i _ _ type found active transferred =>
    exact transferred_notices type found active transferred
  | transferOn i _ _ type found active transferred =>
    exact transferred_notices type found active transferred

theorem ticked_notices {elapsedMs : UInt32} (h : Ticked d elapsedMs flushes ns d')
    (hs : d.scenario = .delayedNotifications) : ns = d.tickNotices elapsedMs := by
  unfold Device.tickNotices
  cases h with
  | waiting h => rw [h]
  | served event d₁ _ _ _ ready fired =>
    rw [ready]
    have hscenario : d₁.scenario = .delayedNotifications := by
      obtain ⟨-,hd₁⟩ := Device.dequeue_ready_event_some ready
      rw [hd₁]
      exact hs
    exact fired_notices fired hscenario

theorem tick_notices_waiting (d : Device) (p : List Packet) (elapsedMs : UInt32) :
    (d.withPending p).tickNotices elapsedMs = d.tickNotices elapsedMs := by
  have hready : ((d.withPending p).tickEvents elapsedMs).dequeueReadyEvent =
      ((d.tickEvents elapsedMs).dequeueReadyEvent).map fun r => (r.1,r.2.withPending p) := by
    unfold Device.dequeueReadyEvent
    rw [show ((d.withPending p).tickEvents elapsedMs).scheduledEvents =
      (d.tickEvents elapsedMs).scheduledEvents from rfl]
    cases (d.tickEvents elapsedMs).scheduledEvents.find? fun event => event.delayMs == 0 with
    | none => rfl
    | some event => rfl
  unfold Device.tickNotices
  rw [hready]
  cases (d.tickEvents elapsedMs).dequeueReadyEvent with
  | none => rfl
  | some ready => rfl

theorem notices_notify (d : Device) (event : ScheduledEvent) :
    ∀ n ∈ d.notices event, n.mt = mtNotification := by
  intro n hn
  unfold Device.notices at hn
  split at hn
  · dsimp only at hn
    split at hn
    · cases hn
    · split at hn
      · rw [List.mem_singleton.mp hn]
        rfl
      · rcases List.mem_pair.mp hn with rfl | rfl
        · rfl
        · rfl
  · cases hn

theorem tick_notices_notify (d : Device) (elapsedMs : UInt32) :
    ∀ n ∈ d.tickNotices elapsedMs, n.mt = mtNotification := by
  unfold Device.tickNotices
  split
  · exact List.forall_mem_nil _
  · exact notices_notify _ _

end

/-- What one packet leaves of the notifications: the one it hands over and those that wait are,
in order, those that waited and those there was room for. -/
structure Device.Defers (d : Device) (request : Packet) : Prop where
  held : (d.handlePacket request).2.result.notification.toList ++
    (d.handlePacket request).2.device.pendingNotifications =
      d.pendingNotifications ++ d.takes (d.generates request)
  responds : ∀ r ∈ (d.handlePacket request).2.result.response, r.mt = mtResponse
  notifies : ∀ n ∈ d.generates request, n.mt = mtNotification
  scenario : (d.handlePacket request).2.device.scenario = .delayedNotifications

theorem Device.takes_all {d : Device} {ns : List Packet}
    (h : d.pendingNotifications.length+ns.length ≤ maxPendingNotifications) : d.takes ns = ns :=
  List.take_of_length_le (by omega)

theorem mail_deferred (d : Device) {posting : Posting} (hs : d.scenario = .delayedNotifications)
    (h : (∀ n, posting ≠ .placed n) ∨ d.pendingNotifications = []) :
    Mailbox.held (posting.mail d) = d.pendingNotifications ++ d.takes posting.packets ∧
      (posting.mail d).accepted = d.takes posting.packets := by
  by_cases hposting : ∀ n, posting ≠ .placed n
  · rw [deferred_mail d hs hposting]
    exact ⟨rfl,rfl⟩
  · obtain ⟨n,hn⟩ := not_forall.mp hposting
    have hempty := h.resolve_left hposting
    have htakes : d.takes [n] = [n] :=
      Device.takes_all (by rw [hempty]; exact show 1 ≤ maxPendingNotifications by decide)
    rw [not_not.mp hn, Posting.packets, htakes, Posting.mail, hempty]
    exact ⟨rfl,rfl⟩

theorem settled_accepted (d : Device) (posting : Posting) (k : ℕ) :
    (posting.settled d k).accepted = (posting.mail d).accepted := by
  unfold Posting.settled
  split
  · exact Mailbox.settle_accepted _
  · rfl

theorem Device.defers (d : Device) (request : Packet) (hs : d.scenario = .delayedNotifications)
    (hreset : ¬ d.AcceptsReset request)
    (hdata : ¬ (d.RefusesData request ∧ d.pendingNotifications ≠ [])) : d.Defers request := by
  by_cases hmt : request.mt = mtData ∨ request.mt = mtCommand
  swap
  · obtain ⟨hother,hcommand⟩ := not_or.mp hmt
    have hx := handle_packet_other d request hother hcommand
    have hnothing : d.generates request = [] := by
      rw [generates, handle_packet_other _ request hother hcommand]
      rfl
    constructor
    · rw [hx, hnothing, takes, List.take_nil, List.append_nil]
      rfl
    · rw [hx]
      exact nofun
    · rw [hnothing]
      exact List.forall_mem_nil _
    · rw [hx]
      exact hs
  obtain ⟨response,posting,d',hscript⟩ :=
    packet_scripted (d.withPending []) d.pendingNotifications request hmt hreset
  have hs' : d'.scenario = .delayedNotifications := hscript.same.scenario.trans hs
  have hidle : d'.pendingNotifications = [] := hscript.same.pending
  have hhere : d.generates request = posting.packets := by
    rw [generates, hscript.here, posted_finalized]
    dsimp only
    rw [settled_accepted, (mail_deferred d' hs' (Or.inr hidle)).2, takes_all]
    have hshort := hscript.short
    rw [hidle, List.length_nil]
    exact le_trans (by omega) (show 2 ≤ maxPendingNotifications by decide)
  have hwaiting : (∀ n, posting ≠ .placed n) ∨ d.pendingNotifications = [] := by
    by_cases hrefuses : d.RefusesData request
    · exact Or.inr (not_not.mp fun hne => hdata ⟨hrefuses,hne⟩)
    · exact Or.inl (hscript.queues hrefuses)
  have hthere : (d.handlePacket request).2 = _ := hscript.there
  rw [posted_finalized] at hthere
  have hheld := (mail_deferred (d'.withPending d.pendingNotifications) hs' hwaiting).1
  rw [← settled_held _ _ d.pendingNotifications.length] at hheld
  constructor
  · rw [hthere, hhere]
    exact hheld
  · rw [hthere]
    exact hscript.responds
  · rw [hhere]
    exact fun n hn => (hscript.announces n hn).1
  · rw [hthere]
    exact hs'

theorem tick_deferred (d : Device) (l : Lines) (elapsedMs : UInt32)
    (hs : d.scenario = .delayedNotifications) :
    ∃ d' : Device, d'.scenario = .delayedNotifications ∧ ((d.carrying l).tick elapsedMs).engine =
      d'.carrying ⟨l.waiting ++ (d.withPending l.waiting).takes (d.tickNotices elapsedMs),
        l.outbound⟩ := by
  obtain ⟨flushes,ns,d',hticked,hengine,-⟩ := Engine.tick_ticked d l elapsedMs
  have hns := ticked_notices hticked hs
  rw [tick_notices_waiting] at hns
  refine ⟨d',(ticked_frame hticked).1.trans hs,?_⟩
  rw [hengine, hs, hns]
  have hqueued : queuedLines l (d.tickNotices elapsedMs) =
      ⟨l.waiting ++ (d.withPending l.waiting).takes (d.tickNotices elapsedMs),l.outbound⟩ := by
    unfold queuedLines
    rw [Mailbox.queueAll_takes]
    rfl
  rw [hqueued]
  cases flushes with
  | false => rfl
  | true => rfl

namespace Engine

section

variable {e : Engine} {request : Packet}

theorem fits_of_closing {closed : Engine} (hout : e.outboundPackets.length ≤ maxOutboundPackets)
    (h : e.closing request = some closed) :
    ¬ ((e.device.handlePacket request).1 = .err ∧ e.handed request = []) ∧
      e.outboundPackets.length+(e.handed request).length ≤ maxOutboundPackets := by
  unfold closing at h
  unfold handed
  generalize e.device.handlePacket request = handled at h ⊢
  rcases handled with ⟨rc,d',⟨response,slot⟩,accepted⟩
  dsimp only at h ⊢
  by_cases hsilent : rc = .err ∧ response = none ∧ slot = none
  · rw [if_pos hsilent] at h
    cases h
  rw [if_neg hsilent] at h
  constructor
  · rintro ⟨hrc,hnothing⟩
    obtain ⟨hr,hn⟩ := List.append_eq_nil_iff.mp hnothing
    exact hsilent ⟨hrc,Option.toList_eq_nil_iff.mp hr,Option.toList_eq_nil_iff.mp hn⟩
  rw [show ({ e with device := d' } : Engine) =
    d'.carrying ⟨d'.pendingNotifications,e.outboundPackets⟩ from rfl] at h
  rcases queue_optional_cases d' ⟨d'.pendingNotifications,e.outboundPackets⟩ response with
    ⟨hq,hroom⟩ | ⟨hq,-⟩
  · rw [hq] at h
    dsimp only at h
    rcases queue_optional_cases d' ⟨d'.pendingNotifications,
      e.outboundPackets ++ response.toList⟩ slot with ⟨-,hroom'⟩ | ⟨hq,-⟩
    · have hfirst := hroom hout
      have hboth := hroom' (by rw [List.length_append]; exact hfirst)
      simp only [List.length_append] at hboth ⊢
      omega
    · rw [hq] at h
      cases h
  · rw [hq] at h
    cases h

theorem overflow_responds (h : e.device.Defers request) {k : ℕ}
    (hk : k < (e.handed request).length) :
    ∀ n ∈ (e.handed request).take k, n.mt = mtResponse := by
  have hresponds := h.responds
  unfold handed at hk ⊢
  generalize (e.device.handlePacket request).2.result = result at hresponds hk ⊢
  obtain ⟨response,notification⟩ := result
  intro n hn
  have hfirst : n ∈ response.toList := by
    cases notification with
    | none =>
      have hmem := List.mem_of_mem_take hn
      rwa [Option.toList_none, List.append_nil] at hmem
    | some m =>
      rw [Option.toList_some, List.length_append, List.length_singleton] at hk
      rw [Option.toList_some, List.take_append_of_le_length (by omega)] at hn
      exact List.mem_of_mem_take hn
  exact hresponds n (Option.mem_toList.mp hfirst)

theorem submit_silent (h : (e.device.handlePacket request).1 = .err ∧ e.handed request = []) :
    (e.submitPacket request).engine =
      ⟨(e.device.handlePacket request).2.device,e.outboundPackets⟩ := by
  obtain ⟨hrc,hnothing⟩ := h
  obtain ⟨hr,hn⟩ := List.append_eq_nil_iff.mp hnothing
  unfold submitPacket
  dsimp only
  rw [if_pos ⟨hrc,Option.toList_eq_nil_iff.mp hr,Option.toList_eq_nil_iff.mp hn⟩]

/-- What the closing tick of a packet generates. -/
def closingNotices (e : Engine) (request : Packet) : List Packet :=
  match e.closing request with
  | none => []
  | some closed => (closed.device.withPending []).served 0

theorem closing_notices_none (h : e.closing request = none) : e.closingNotices request = [] := by
  unfold closingNotices
  rw [h]

end

end Engine

theorem served_deferred (d : Device) (elapsedMs : UInt32)
    (hs : d.scenario = .delayedNotifications) :
    (d.withPending []).served elapsedMs = d.tickNotices elapsedMs := by
  obtain ⟨flushes,ns,d',hticked,-,hproduced⟩ := Engine.tick_ticked d ⟨[],[]⟩ elapsedMs
  have hns := ticked_notices hticked hs
  have hlen := ticked_length hticked
  rw [tick_notices_waiting] at hns
  unfold Device.served
  refine hproduced.trans ?_
  rw [Mailbox.queueAll_room _ _ _ (by
    simp only [List.length_nil, maxPendingNotifications]; omega), ← hns]
  rfl

namespace Run

/-- The notifications handed over to the host so far, in order. -/
def notified (r : Run) : List Packet := r.emitted.filter fun n => n.mt = mtNotification

def kept (r : Run) : List Packet := r.notified ++ r.engine.device.pendingNotifications

/-- What a call generates: by its packet, then by the event it serves. -/
def generated (r : Run) : Op → List Packet
  | .submit request =>
    r.engine.device.generates request ++ r.engine.closingNotices request
  | .tick elapsedMs => (r.engine.device.withPending []).served elapsedMs
  | .dequeue => []

/-- The pending queue has room for what the call generates, and the outbound queue for what it
hands over when that includes a notification. -/
def HasRoom (r : Run) : Op → Prop
  | .submit request =>
    let x := (r.engine.device.handlePacket request).2
    r.engine.device.pendingNotifications.length+(r.engine.device.generates request).length ≤
        maxPendingNotifications ∧
      (x.result.notification ≠ none →
        r.engine.outboundPackets.length+(r.engine.handed request).length ≤ maxOutboundPackets) ∧
      x.device.pendingNotifications.length+(r.engine.closingNotices request).length ≤
        maxPendingNotifications
  | .tick elapsedMs => r.engine.device.pendingNotifications.length+
      ((r.engine.device.withPending []).served elapsedMs).length ≤ maxPendingNotifications
  | .dequeue => True

/-- The packet does not reset the device, and is not a data message refused while notifications
wait. -/
def Orderly (r : Run) : Op → Prop
  | .submit request => ¬ r.engine.device.AcceptsReset request ∧
      ¬ (r.engine.device.RefusesData request ∧ r.engine.device.pendingNotifications ≠ [])
  | _ => True

instance (r : Run) : (op : Op) → Decidable (r.HasRoom op)
  | .submit _ => inferInstanceAs (Decidable (_ ∧ _ ∧ _))
  | .tick _ => inferInstanceAs (Decidable (_ ≤ _))
  | .dequeue => isTrue trivial

instance (r : Run) : (op : Op) → Decidable (r.Orderly op)
  | .submit _ =>
    inferInstanceAs (Decidable (¬ _ ∧ ¬ (_ ∧ _)))
  | .tick _ => isTrue trivial
  | .dequeue => isTrue trivial

structure Deferring (r : Run) : Prop where
  scenario : r.engine.device.scenario = .delayedNotifications
  outbound : r.engine.outboundPackets.length ≤ maxOutboundPackets
  waiting : r.engine.device.pendingNotifications.length ≤ maxPendingNotifications
  notify : ∀ n ∈ r.engine.device.pendingNotifications, n.mt = mtNotification

end Run

theorem Device.takes_length (d : Device) (ns : List Packet)
    (h : d.pendingNotifications.length ≤ maxPendingNotifications) :
    (d.pendingNotifications ++ d.takes ns).length ≤ maxPendingNotifications := by
  rw [takes, List.length_append, List.length_take]
  omega

theorem Device.takes_mem {d : Device} {ns : List Packet} {n : Packet} (h : n ∈ d.takes ns) :
    n ∈ ns := List.mem_of_mem_take h

namespace Run

variable {r : Run}

theorem tick_stores (h : r.Deferring) (elapsedMs : UInt32) :
    (r.step (.tick elapsedMs)).Deferring ∧
      Losses.Stores step generated kept HasRoom r (.tick elapsedMs) := by
  obtain ⟨d',hs,hengine⟩ := tick_deferred r.engine.device r.engine.lines elapsedMs h.scenario
  have hstep : (r.step (.tick elapsedMs)).engine = d'.carrying
      ⟨r.engine.device.pendingNotifications ++
        r.engine.device.takes (r.engine.device.tickNotices elapsedMs),r.engine.outboundPackets⟩ :=
    hengine
  have hput : r.generated (.tick elapsedMs) = r.engine.device.tickNotices elapsedMs :=
    served_deferred r.engine.device elapsedMs h.scenario
  have hkept : (r.step (.tick elapsedMs)).kept =
      r.kept ++ r.engine.device.takes (r.engine.device.tickNotices elapsedMs) := by
    simp only [kept, notified, emitted, hstep, List.append_assoc]
    rfl
  constructor
  · constructor
    · rw [hstep]
      exact hs
    · rw [hstep]
      exact h.outbound
    · rw [hstep]
      exact r.engine.device.takes_length _ h.waiting
    · rw [hstep]
      intro n hn
      rcases List.mem_append.mp hn with hn | hn
      · exact h.notify n hn
      · exact tick_notices_notify _ _ n (Device.takes_mem hn)
  · have hroom : r.HasRoom (.tick elapsedMs) ↔ r.engine.device.pendingNotifications.length+
        (r.engine.device.tickNotices elapsedMs).length ≤ maxPendingNotifications := by
      unfold HasRoom
      dsimp only
      rw [served_deferred _ _ h.scenario]
    constructor
    · rw [hkept, hput]
      exact (List.take_sublist _ _).append_left _
    · intro hr
      rw [hkept, hput, Device.takes_all (hroom.mp hr)]
    · intro hr
      have hwaiting := h.waiting
      rw [hkept, hput]
      rw [hroom] at hr
      simp only [List.length_append, Device.takes, List.length_take]
      omega

theorem packet_deferring (h : r.Deferring) {request : Packet}
    (hd : r.engine.device.Defers request) :
    (r.engine.device.handlePacket request).2.device.pendingNotifications.length ≤
        maxPendingNotifications ∧
      (∀ n ∈ (r.engine.device.handlePacket request).2.result.notification.toList ++
        (r.engine.device.handlePacket request).2.device.pendingNotifications,
          n.mt = mtNotification) := by
  constructor
  · have hlen := r.engine.device.takes_length (r.engine.device.generates request) h.waiting
    rw [← hd.held, List.length_append] at hlen
    omega
  · rw [hd.held]
    intro n hn
    rcases List.mem_append.mp hn with hn | hn
    · exact h.notify n hn
    · exact hd.notifies n (Device.takes_mem hn)

theorem filter_notifications {ns : List Packet} (h : ∀ n ∈ ns, n.mt = mtNotification) :
    ns.filter (fun n => n.mt = mtNotification) = ns :=
  List.filter_eq_self.mpr fun n hn => decide_eq_true (h n hn)

theorem filter_responses {ns : List Packet} (h : ∀ n ∈ ns, n.mt = mtResponse) :
    ns.filter (fun n => n.mt = mtNotification) = [] :=
  List.filter_eq_nil_iff.mpr fun n hn => by
    rw [h n hn]
    decide

theorem notified_sent {r' : Run} {sent : List Packet} (hd : r'.delivered = r.delivered)
    (hout : r'.engine.outboundPackets = r.engine.outboundPackets ++ sent) :
    r'.notified = r.notified ++ sent.filter fun n => n.mt = mtNotification := by
  rw [notified, notified, emitted, emitted, hd, hout, ← List.append_assoc, List.filter_append]

theorem handed_notified (h : r.Deferring) {request : Packet}
    (hd : r.engine.device.Defers request) :
    (r.engine.handed request).filter (fun n => n.mt = mtNotification) =
      (r.engine.device.handlePacket request).2.result.notification.toList := by
  unfold Engine.handed
  rw [List.filter_append, filter_responses fun n hn => hd.responds n (Option.mem_toList.mp hn),
    filter_notifications fun n hn => (packet_deferring h hd).2 n (List.mem_append_left _ hn),
    List.nil_append]

theorem handed_stores (h : r.Deferring) {request : Packet} (hd : r.engine.device.Defers request)
    (hfits : r.engine.outboundPackets.length+(r.engine.handed request).length ≤
      maxOutboundPackets) {d' : Device} (hs : d'.scenario = .delayedNotifications)
    (hclosing : ∀ n ∈ r.engine.closingNotices request, n.mt = mtNotification)
    (hengine : (r.step (.submit request)).engine = d'.carrying
      ⟨(r.engine.device.handlePacket request).2.device.pendingNotifications ++
        (r.engine.device.handlePacket request).2.device.takes (r.engine.closingNotices request),
        r.engine.outboundPackets ++ r.engine.handed request⟩) :
    (r.step (.submit request)).Deferring ∧
      Losses.Stores step generated kept HasRoom r (.submit request) := by
  obtain ⟨hwaiting,hnotify⟩ := packet_deferring h hd
  have hkept : (r.step (.submit request)).kept = r.kept ++
      r.engine.device.takes (r.engine.device.generates request) ++
        (r.engine.device.handlePacket request).2.device.takes
          (r.engine.closingNotices request) := by
    have hwaits : (r.step (.submit request)).engine.device.pendingNotifications =
        (r.engine.device.handlePacket request).2.device.pendingNotifications ++
          (r.engine.device.handlePacket request).2.device.takes
            (r.engine.closingNotices request) := by
      rw [hengine]
      rfl
    have hsent : (r.step (.submit request)).notified = r.notified ++
        (r.engine.handed request).filter fun n => n.mt = mtNotification :=
      notified_sent rfl (by rw [hengine]; rfl)
    rw [kept, hwaits, hsent, handed_notified h hd, kept]
    calc _ = r.notified ++ ((r.engine.device.handlePacket request).2.result.notification.toList ++
          (r.engine.device.handlePacket request).2.device.pendingNotifications) ++
            (r.engine.device.handlePacket request).2.device.takes
              (r.engine.closingNotices request) := by simp only [List.append_assoc]
      _ = _ := by rw [hd.held, ← List.append_assoc]
  have hput : r.generated (.submit request) =
      r.engine.device.generates request ++ r.engine.closingNotices request := rfl
  constructor
  · constructor
    · rw [hengine]
      exact hs
    · rw [hengine]
      simpa only [Device.carrying, List.length_append] using hfits
    · rw [hengine]
      exact Device.takes_length _ _ hwaiting
    · rw [hengine]
      intro n hn
      rcases List.mem_append.mp hn with hn | hn
      · exact hnotify n (List.mem_append_right _ hn)
      · exact hclosing n (Device.takes_mem hn)
  constructor
  · rw [hkept, hput, List.append_assoc]
    exact ((List.take_sublist _ _).append (List.take_sublist _ _)).append_left _
  · rintro ⟨hpacket,-,hclose⟩
    rw [hkept, hput, Device.takes_all hpacket, Device.takes_all hclose, List.append_assoc]
  · intro hroom
    have hbefore := h.waiting
    have hfull : ¬ (r.engine.device.pendingNotifications.length+
        (r.engine.device.generates request).length ≤ maxPendingNotifications ∧
        (r.engine.device.handlePacket request).2.device.pendingNotifications.length+
          (r.engine.closingNotices request).length ≤ maxPendingNotifications) :=
      fun hr => hroom ⟨hr.1,fun _ => hfits,hr.2⟩
    rw [hkept, hput]
    simp only [List.length_append, Device.takes, List.length_take]
    omega

section

variable {request : Packet}

theorem overflow_closing (h : r.Deferring)
    (hfull : maxOutboundPackets <
      r.engine.outboundPackets.length+(r.engine.handed request).length) :
    r.engine.closing request = none := by
  cases hclosing : r.engine.closing request with
  | none => rfl
  | some closed =>
    have hfits := (Engine.fits_of_closing h.outbound hclosing).2
    omega

theorem overflow_engine (h : r.Deferring)
    (hnoisy : ¬ ((r.engine.device.handlePacket request).1 = .err ∧ r.engine.handed request = []))
    (hfull : maxOutboundPackets <
      r.engine.outboundPackets.length+(r.engine.handed request).length) :
    (r.step (.submit request)).engine =
      ⟨(r.engine.device.handlePacket request).2.device,r.engine.outboundPackets ++
        (r.engine.handed request).take (maxOutboundPackets-r.engine.outboundPackets.length)⟩ := by
  refine (Engine.submit_overflow h.outbound hnoisy hfull).2.trans ?_
  rw [List.take_append, List.take_of_length_le h.outbound]

theorem overflow_kept (h : r.Deferring) (hd : r.engine.device.Defers request)
    (hnoisy : ¬ ((r.engine.device.handlePacket request).1 = .err ∧ r.engine.handed request = []))
    (hfull : maxOutboundPackets <
      r.engine.outboundPackets.length+(r.engine.handed request).length) :
    (r.step (.submit request)).kept =
      r.notified ++ (r.engine.device.handlePacket request).2.device.pendingNotifications := by
  have hlen := h.outbound
  have hengine := overflow_engine h hnoisy hfull
  have hsent : (r.step (.submit request)).notified = r.notified ++
      ((r.engine.handed request).take
        (maxOutboundPackets-r.engine.outboundPackets.length)).filter
          fun n => n.mt = mtNotification :=
    notified_sent rfl (by rw [hengine])
  have hresponses := Engine.overflow_responds hd
    (show maxOutboundPackets-r.engine.outboundPackets.length <
      (r.engine.handed request).length by omega)
  rw [kept, hsent, filter_responses hresponses, List.append_nil, hengine]

theorem overflow_stores (h : r.Deferring) (hd : r.engine.device.Defers request)
    (hnoisy : ¬ ((r.engine.device.handlePacket request).1 = .err ∧ r.engine.handed request = []))
    (hfull : maxOutboundPackets <
      r.engine.outboundPackets.length+(r.engine.handed request).length) :
    (r.step (.submit request)).Deferring ∧
      Losses.Stores step generated kept HasRoom r (.submit request) := by
  obtain ⟨hwaiting,hnotify⟩ := packet_deferring h hd
  have hlen := h.outbound
  have hbefore := h.waiting
  have hengine := overflow_engine h hnoisy hfull
  have hkept := overflow_kept h hd hnoisy hfull
  have hnothing := Engine.closing_notices_none (overflow_closing h hfull)
  have hput : r.generated (.submit request) = r.engine.device.generates request := by
    rw [generated, hnothing, List.append_nil]
  have hheld := hd.held
  constructor
  · constructor
    · rw [hengine]
      exact hd.scenario
    · rw [hengine]
      simp only [List.length_append, List.length_take]
      omega
    · rw [hengine]
      exact hwaiting
    · rw [hengine]
      exact fun n hn => hnotify n (List.mem_append_right _ hn)
  constructor
  · have hrest : ((r.engine.device.handlePacket request).2.device.pendingNotifications).Sublist
        (r.engine.device.pendingNotifications ++
          r.engine.device.takes (r.engine.device.generates request)) := by
      rw [← hheld]
      exact List.sublist_append_right _ _
    rw [hkept, hput, kept, List.append_assoc]
    exact (hrest.trans ((List.take_sublist _ _).append_left _)).append_left _
  · rintro ⟨hpacket,hhands,-⟩
    have hslot : (r.engine.device.handlePacket request).2.result.notification = none := by
      by_contra hsome
      exact absurd (hhands hsome) (Nat.not_le_of_lt hfull)
    rw [hslot, Option.toList_none, List.nil_append, Device.takes_all hpacket] at hheld
    rw [hkept, hput, hheld, kept, List.append_assoc]
  · intro hroom
    have hlost : (r.engine.device.handlePacket request).2.result.notification ≠ none ∨
        ¬ r.engine.device.pendingNotifications.length+
          (r.engine.device.generates request).length ≤ maxPendingNotifications := by
      by_contra hkeeps
      obtain ⟨hslot,hpacket⟩ := not_or.mp hkeeps
      exact hroom ⟨not_not.mp hpacket,fun hsome => absurd hsome hslot,
        by rw [hnothing]; exact hwaiting⟩
    have hcount := congrArg List.length hheld
    rw [hkept, hput]
    simp only [kept, List.length_append, Device.takes, List.length_take] at hcount ⊢
    rcases hlost with hsome | hpacket
    · obtain ⟨n,hn⟩ := Option.ne_none_iff_exists'.mp hsome
      rw [hn, Option.toList_some, List.length_singleton] at hcount
      omega
    · omega

end

theorem step_stores (h : r.Deferring) (op : Op) (hop : r.Orderly op) :
    (r.step op).Deferring ∧ Losses.Stores step generated kept HasRoom r op := by
  cases op with
  | tick elapsedMs => exact tick_stores h elapsedMs
  | dequeue =>
    have hemitted : (r.step .dequeue).emitted = r.emitted := by
      cases hout : r.engine.outboundPackets with
      | nil => rw [step_dequeue_nil hout]
      | cons packet rest =>
        rw [step_dequeue_cons hout]
        simp [emitted, hout]
    have hkept : (r.step .dequeue).kept = r.kept ++ r.generated .dequeue := by
      rw [kept, kept, notified, notified, hemitted, step_dequeue_device]
      exact (List.append_nil _).symm
    constructor
    · constructor
      · rw [step_dequeue_device]
        exact h.scenario
      · exact step_outbound h.outbound
      · rw [step_dequeue_device]
        exact h.waiting
      · rw [step_dequeue_device]
        exact h.notify
    · exact ⟨hkept ▸ List.Sublist.refl _,fun _ => hkept,fun hroom => absurd trivial hroom⟩
  | submit request =>
    have hd := r.engine.device.defers request h.scenario hop.1 hop.2
    by_cases hsilent : (r.engine.device.handlePacket request).1 = .err ∧
        r.engine.handed request = []
    · have hclosing : r.engine.closing request = none := by
        cases hclosing : r.engine.closing request with
        | none => rfl
        | some closed => exact absurd hsilent (Engine.fits_of_closing h.outbound hclosing).1
      have hnothing := Engine.closing_notices_none hclosing
      refine handed_stores h hd (by rw [hsilent.2]; exact h.outbound) hd.scenario
        (by rw [hnothing]; exact List.forall_mem_nil _) ?_
      rw [hnothing, hsilent.2, Device.takes, List.take_nil, List.append_nil, List.append_nil]
      exact Engine.submit_silent hsilent
    by_cases hfits : r.engine.outboundPackets.length+(r.engine.handed request).length ≤
        maxOutboundPackets
    swap
    · exact overflow_stores h hd hsilent (Nat.lt_of_not_le hfits)
    have hclosing := Engine.closing_fits hsilent hfits
    rw [hd.scenario] at hclosing
    obtain ⟨d',hs,hengine⟩ := tick_deferred (r.engine.device.handlePacket request).2.device
      ⟨(r.engine.device.handlePacket request).2.device.pendingNotifications,
        r.engine.outboundPackets ++ r.engine.handed request⟩ 0 hd.scenario
    have hnotices : r.engine.closingNotices request =
        (r.engine.device.handlePacket request).2.device.tickNotices 0 := by
      unfold Engine.closingNotices
      rw [hclosing]
      exact served_deferred _ 0 hd.scenario
    refine handed_stores h hd hfits hs ?_ ?_
    · rw [hnotices]
      exact tick_notices_notify _ _
    · rw [hnotices]
      exact (Engine.submit_closed hclosing).2.trans hengine

end Run

/-- With deferred notifications, in every run without a reset and without a data message refused
while notifications wait, what was handed over and what waits are in order part of what was
generated, and all of it exactly when every call found room in the two queues. -/
theorem deferred_notifications_in_order (profile : Profile) (ops : List Op)
    (h : Run.Along profile .delayedNotifications Run.Orderly ops) :
    let r := Run.reached profile .delayedNotifications ops
    let generated := Losses.history Run.step Run.generated
      (Run.init profile .delayedNotifications) ops
    (r.notified ++ r.engine.device.pendingNotifications).Sublist generated ∧
      (r.notified ++ r.engine.device.pendingNotifications = generated ↔
        Run.Along profile .delayedNotifications Run.HasRoom ops) := by
  have hinit : (Run.init profile .delayedNotifications).Deferring :=
    ⟨rfl,Nat.zero_le _,Nat.zero_le _,List.forall_mem_nil _⟩
  have hstep : ∀ (r : Run) op, r.Deferring → r.Orderly op → (r.step op).Deferring :=
    fun _ op hr hop => (Run.step_stores hr op hop).1
  have hstores : ∀ (r : Run) op, r.Deferring → r.Orderly op →
      Losses.Stores Run.step Run.generated Run.kept Run.HasRoom r op :=
    fun _ op hr hop => (Run.step_stores hr op hop).2
  exact ⟨Losses.run_sublist hstep hstores _ ops hinit h,
    Losses.run_complete hstep hstores _ ops hinit h⟩

/-- Every packet's answers are read before the next packet is sent. -/
def readPromptly (requests : List Packet) : List Op :=
  requests.flatMap fun request => [.submit request,.dequeue,.dequeue]

/-- A streaming session that is sent data messages. -/
def messagesSent (n : ℕ) : List Op :=
  readPromptly ([initRequest 1,startRequest 1] ++ List.replicate n (dataMessage 1 1))

theorem six_messages_in_order :
    (Run.reached defaultProfile .delayedNotifications (messagesSent 6)).kept =
      Losses.history Run.step Run.generated (Run.init defaultProfile .delayedNotifications)
        (messagesSent 6) :=
  (deferred_notifications_in_order defaultProfile (messagesSent 6) (by decide +kernel)).2.mpr
    (by decide +kernel)

/-- Each message generates two notifications and hands over one: the seventh finds the queue
full. -/
theorem seventh_message_dropped :
    ¬ (Run.reached defaultProfile .delayedNotifications (messagesSent 7)).kept =
      Losses.history Run.step Run.generated (Run.init defaultProfile .delayedNotifications)
        (messagesSent 7) := by
  decide +kernel

end UciSim
