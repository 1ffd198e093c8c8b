import UciSim.CommandReplies

/-!
# Deferred notifications

With deferred notifications an exchange hands over the oldest notification that
waited before it, and what it generates itself waits behind the others. A data
message refused on the spot and a reset over waiting notifications do not obey.
-/

set_option autoImplicit false

namespace UciSim

open Exchange

namespace Device

/-- The notification handed over is the oldest one that waited, and everything the exchange
generated waits behind the others. -/
def DeliversDeferred (d : Device) (request : Packet) : Prop :=
  ∀ n, (d.handlePacket request).2.result.notification = some n →
    ∃ rest, d.pendingNotifications = n::rest ∧
      (d.handlePacket request).2.device.pendingNotifications =
        rest ++ (d.handlePacket request).2.accepted

/-- A data message with a complete header that the session does not admit. -/
def RefusesData (d : Device) (request : Packet) : Prop :=
  request.mt = mtData ∧ request.gid = dataPacketFormatSend ∧ request.oid = 0x00 ∧
    16 ≤ request.payload.length ∧
    (request.payload.length < 16+(readU16Le request.payload 14).toNat ∨
      ∀ i, d.findSession (readU32Le request.payload 0) = some i →
        (d.sessions i).state ≠ sessionStateActive ∨
          (d.sessions i).dataTransferInProgress = true)

def AcceptsReset (d : Device) (request : Packet) : Prop :=
  request.Resets ∧ d.profile.supportsCommand gidCore coreDeviceReset = true

instance (d : Device) (request : Packet) : Decidable (d.RefusesData request) :=
  inferInstanceAs (Decidable (_ ∧ _ ∧ _ ∧ _ ∧ (_ ∨ ∀ i, i ∈ d.findSession _ → _)))

instance (d : Device) (request : Packet) : Decidable (d.AcceptsReset request) :=
  inferInstanceAs (Decidable (_ ∧ _))

end Device

/-- A status of a data transfer that tells the host its message was refused. -/
def Packet.ReportsRefusal (n : Packet) : Prop :=
  byteAt n.payload 6 ≠ dataTransferStatusRepetitionOk ∧ byteAt n.payload 6 ≠ dataTransferStatusOk

theorem short_reports_nothing {n : Packet} (h : n.payload.length ≤ 6) : ¬ n.ReportsRefusal := by
  intro hn
  refine hn.1 ?_
  rw [byteAt, List.getD_eq_getElem?_getD, List.getElem?_eq_none h]
  rfl

theorem transfer_status_reports (sessionId : UInt32) (sequenceNumber : UInt16)
    (status txCount : UInt8) :
    (dataTransferStatusNotification sessionId sequenceNumber status txCount).ReportsRefusal ↔
      status ≠ dataTransferStatusRepetitionOk ∧ status ≠ dataTransferStatusOk := Iff.rfl

section

variable (d : Device) (request : Packet)

theorem queue_slot (x : Exchange) (n : Packet) :
    (x.queueNotification n).2.result = x.result := by
  unfold queueNotification
  split <;> rfl

theorem completion_slot (x : Exchange) (sessionId : UInt32) (sequenceNumber : UInt16)
    (status : UInt8) :
    (x.queueDataCompletion sessionId sequenceNumber status).2.result = x.result := by
  rw [queue_data_completion, queueAll, dataCompletion, List.foldl_cons, List.foldl_cons,
    List.foldl_nil, queue_slot, queue_slot]

theorem begin_transfer_slot (x : Exchange) (i : Fin maxSessions) (sessionId : UInt32)
    (sequenceNumber : UInt16) (count : UInt8) :
    (x.beginDataTransfer i sessionId sequenceNumber count).2.result = x.result := by
  unfold beginDataTransfer
  dsimp only
  split <;> rfl

theorem data_message_slot (hmt : request.mt = mtData) (h : ¬ d.RefusesData request) :
    ((start d).handleDataMessageSend request).2.result.notification = none := by
  unfold handleDataMessageSend
  split
  · rfl
  rename_i hformat
  split
  · rfl
  rename_i hlong
  rw [not_or, not_not, not_not] at hformat
  have hadmits : ¬ (request.payload.length < 16+(readU16Le request.payload 14).toNat ∨
      ∀ i, d.findSession (readU32Le request.payload 0) = some i →
        (d.sessions i).state ≠ sessionStateActive ∨
          (d.sessions i).dataTransferInProgress = true) :=
    fun hrefused => h ⟨hmt,hformat.1,hformat.2,Nat.le_of_not_lt hlong,hrefused⟩
  rw [not_or] at hadmits
  dsimp only
  rw [if_neg hadmits.1]
  cases hfind : d.findSession (readU32Le request.payload 0) with
  | none =>
    rw [hfind] at hadmits
    exact absurd nofun hadmits.2
  | some i =>
    rw [show (start d).device.findSession (readU32Le request.payload 0) = some i from hfind]
    have hactive : ((start d).device.sessions i).state = sessionStateActive := by
      by_contra hstate
      refine hadmits.2 fun j hj => Or.inl ?_
      rw [hfind] at hj
      cases hj
      exact hstate
    have hidle : ((start d).device.sessions i).dataTransferInProgress = false := by
      by_contra hbusy
      refine hadmits.2 fun j hj => Or.inr ?_
      rw [hfind] at hj
      cases hj
      simpa [start] using hbusy
    dsimp only
    rw [if_neg (not_not.mpr hactive), if_neg (by rw [hidle]; decide)]
    split
    · rw [completion_slot]
      rfl
    · split
      · rw [completion_slot]
        rfl
      · rw [begin_transfer_slot]
        rfl

theorem data_message_refused (h : d.RefusesData request) :
    ∃ n, n.ReportsRefusal ∧
      ((start d).handleDataMessageSend request).2 = (start d).placeNotification n := by
  rcases h with ⟨-,hgid,hoid,hlong,hcause⟩
  unfold handleDataMessageSend
  rw [if_neg (by simp [hgid, hoid]), if_neg (Nat.not_lt.mpr hlong)]
  dsimp only
  by_cases hshort : 16+(readU16Le request.payload 14).toNat > request.payload.length
  · rw [if_pos hshort]
    exact ⟨_,by rw [transfer_status_reports]; decide,rfl⟩
  rw [if_neg hshort]
  split
  · exact ⟨_,by rw [transfer_status_reports]; decide,rfl⟩
  rename_i i hfind
  split
  · exact ⟨_,by rw [transfer_status_reports]; decide,rfl⟩
  rename_i hactive
  rcases hcause with hcause | hcause
  · exact absurd hcause hshort
  have hbusy : ((start d).device.sessions i).dataTransferInProgress = true :=
    (hcause i hfind).resolve_left hactive
  rw [if_pos hbusy]
  exact ⟨_,by rw [transfer_status_reports]; decide,rfl⟩

end

/-- The notifications the pending queue has room for. -/
def Device.takes (d : Device) (ns : List Packet) : List Packet :=
  ns.take (maxPendingNotifications-d.pendingNotifications.length)

theorem deferred_mail (d : Device) {posting : Posting} (hs : d.scenario = .delayedNotifications)
    (hposting : ∀ n, posting ≠ .placed n) :
    posting.mail d = ⟨none,d.pendingNotifications ++ d.takes posting.packets,
      d.takes posting.packets⟩ := by
  have hqueued : ∀ ns, Mailbox.queueAll maxPendingNotifications
      (⟨none,d.pendingNotifications,[]⟩ : Mail) ns =
        ⟨none,d.pendingNotifications ++ d.takes ns,d.takes ns⟩ := fun ns =>
    Mailbox.queueAll_takes maxPendingNotifications ⟨none,d.pendingNotifications,[]⟩ ns
  cases posting with
  | delivered ns =>
    rw [Posting.mail, hs]
    exact (Mailbox.deliverAll_deferred _ _ ns).trans (hqueued ns)
  | queued ns => exact hqueued ns
  | placed n => exact absurd rfl (hposting n)

theorem settled_deferred (d : Device) {posting : Posting}
    (hs : d.scenario = .delayedNotifications) (hposting : ∀ n, posting ≠ .placed n) {n : Packet}
    (hn : (posting.settled d d.pendingNotifications.length).slot = some n) :
    ∃ rest, d.pendingNotifications = n::rest ∧
      (posting.settled d d.pendingNotifications.length).pending =
        rest ++ (posting.settled d d.pendingNotifications.length).accepted := by
  have hkept := deferred_mail d hs hposting
  generalize d.takes posting.packets = kept at hkept
  cases hp : d.pendingNotifications with
  | nil =>
    have hauto : d.scenario.shouldAutoDeliverPending 0 = false := by rw [hs]; rfl
    rw [hp] at hn
    simp [Posting.settled, hauto, hkept] at hn
  | cons a rest =>
    have hauto : d.scenario.shouldAutoDeliverPending (rest.length+1) = true := by rw [hs]; rfl
    rw [hp] at hn hkept
    have hsettled : posting.settled d (a::rest).length = ⟨some a,rest ++ kept,kept⟩ := by
      rw [Posting.settled, List.length_cons, if_pos hauto, hkept]
      rfl
    rw [hsettled] at hn ⊢
    cases hn
    exact ⟨rest,rfl,rfl⟩

section

variable {d : Device} {request : Packet}

/-- The exchange of a packet posts its notifications to a queue that kept what waited. -/
def Device.Posts (d : Device) (request : Packet) : Prop :=
  ∃ rc response posting d', d.handlePacket request =
      (rc,(posted d' response posting).finalizeResult d.pendingNotifications.length) ∧
    d'.pendingNotifications = d.pendingNotifications ∧ d'.scenario = d.scenario ∧
    ∀ n, posting ≠ .placed n

theorem data_message_posts (hmt : request.mt = mtData) (hdata : ¬ d.RefusesData request) :
    d.Posts request := by
  have hslot := data_message_slot d request hmt hdata
  rcases data_message_answers d request with ⟨posting,d',hx,hchange⟩
  refine ⟨((start d).handleDataMessageSend request).1,none,posting,d',?_,
    data_change_pending hchange,(served_frame (.data posting d' hmt hchange)).2,?_⟩
  · rw [← hx]
    unfold Device.handlePacket
    rw [if_pos hmt]
  · rintro n rfl
    rw [hx] at hslot
    cases hslot

theorem command_posts (hmt : request.mt = mtCommand)
    (hreset : ¬ (d.AcceptsReset request ∧ d.pendingNotifications ≠ [])) : d.Posts request := by
  by_cases hunsupported : request.Resets ∧ d.profile.supportsCommand gidCore coreDeviceReset = false
  · rcases hunsupported with ⟨⟨-,hgid,hoid,-⟩,hsupported⟩
    have hdispatch : (start d).dispatchCommand request =
        (start d).fail request statusUnknownOid := by
      rw [dispatch_core hgid, handleCore, if_pos]
      rw [hgid, hoid, show (start d).device = d from rfl, hsupported]
      rfl
    refine ⟨.err,some ⟨mtResponse,pbfComplete,request.gid,request.oid,[statusUnknownOid]⟩,
      .delivered [coreGenericErrorNotification statusUnknownOid],d,?_,rfl,rfl,nofun⟩
    rw [handle_command d request hmt, hdispatch]
    rfl
  · rcases handle_packet_served d request (Or.inr hmt) with ⟨rc,response,posting,d',hserved,hx⟩
    refine ⟨rc,response,posting,d',hx,?_,(served_frame hserved).2,?_⟩
    · rcases served_pending hserved with hkept | ⟨hresets,hempty⟩
      · exact hkept
      · have hsupported : d.profile.supportsCommand gidCore coreDeviceReset = true := by
          simpa using not_and.mp hunsupported hresets
        rw [hempty]
        exact (not_not.mp (not_and.mp hreset ⟨hresets,hsupported⟩)).symm
    · rintro n rfl
      cases hserved with
      | data _ _ mt _ => exact absurd (mt.symm.trans hmt) (by decide)

theorem reset_dispatched (h : d.AcceptsReset request) :
    (start d).dispatchCommand request =
      (.ok,posted d.resetRuntimeState
        (some ⟨mtResponse,pbfComplete,request.gid,request.oid,[statusOk]⟩)
        (.delivered [deviceStatusNotification d.resetRuntimeState.deviceState])) := by
  rcases h with ⟨⟨hmt,hgid,hoid,hvalue⟩,hsupported⟩
  rw [dispatch_core_of (.deviceReset hoid) hgid (by rw [hgid, hoid]; exact hsupported)]
  unfold handleDeviceReset
  rw [if_neg (by rw [hvalue]; decide), if_neg (by rw [hvalue]; decide)]
  rfl

theorem reset_delivers (h : d.AcceptsReset request) (hs : d.scenario = .delayedNotifications)
    (hpending : d.pendingNotifications ≠ []) :
    (d.handlePacket request).2.result.notification =
        some (deviceStatusNotification d.resetRuntimeState.deviceState) ∧
      (d.handlePacket request).2.device.pendingNotifications = [] ∧
      (d.handlePacket request).2.accepted =
        [deviceStatusNotification d.resetRuntimeState.deviceState] := by
  have hauto : d.scenario.shouldAutoDeliverPending d.pendingNotifications.length = true := by
    rw [hs]
    cases hp : d.pendingNotifications with
    | nil => exact absurd hp hpending
    | cons => rfl
  have hsettled : (Posting.delivered
      [deviceStatusNotification d.resetRuntimeState.deviceState]).settled d.resetRuntimeState
        d.pendingNotifications.length =
      ⟨some (deviceStatusNotification d.resetRuntimeState.deviceState),[],
        [deviceStatusNotification d.resetRuntimeState.deviceState]⟩ := by
    rw [Posting.settled, show d.resetRuntimeState.scenario = d.scenario from rfl, if_pos hauto,
      Posting.mail, show d.resetRuntimeState.scenario = d.scenario from rfl, hs]
    rfl
  rw [handle_command d request h.1.1, reset_dispatched h]
  dsimp only [reportError]
  rw [posted_finalized, hsettled]
  exact ⟨rfl,rfl,rfl⟩

theorem refusal_delivers (h : d.RefusesData request) :
    ∃ n, n.ReportsRefusal ∧ (d.handlePacket request).2.result.notification = some n ∧
      (d.handlePacket request).2.device = d := by
  rcases data_message_refused d request h with ⟨n,hn,hx⟩
  have hhandled : (d.handlePacket request).2 =
      ((start d).placeNotification n).finalizeResult d.pendingNotifications.length := by
    unfold Device.handlePacket
    rw [if_pos h.1, ← hx]
  rw [hhandled]
  exact ⟨n,hn,rfl,rfl⟩

end

/-- No refusal of a data message waits. -/
def Device.NoRefusalWaits (d : Device) : Prop :=
  ∀ n ∈ d.pendingNotifications, ¬ n.ReportsRefusal

theorem change_short {d d' : Device} {request : Packet} {ns : List Packet}
    (h : Change d request ns d') : ∀ n ∈ ns, n.payload.length ≤ 6 := by
  cases h with
  | housekept | edited | configured => exact List.forall_mem_nil _
  | linked | reported | opened | closed | moved | reset =>
    intro n hn
    rw [List.mem_singleton.mp hn]
    exact Nat.le_of_ble_eq_true rfl

theorem completion_reports_nothing {sessionId : UInt32} {sequenceNumber : UInt16} {status : UInt8}
    (hs : status = dataTransferStatusRepetitionOk ∨ status = dataTransferStatusOk) :
    ∀ n ∈ dataCompletion sessionId sequenceNumber status 1, ¬ n.ReportsRefusal := by
  intro n hn
  rcases List.mem_pair.mp hn with rfl | rfl
  · exact short_reports_nothing (show 5 ≤ 6 by decide)
  · rw [transfer_status_reports]
    exact fun h => hs.elim h.1 h.2

theorem Device.NoRefusalWaits.packet {d : Device} (h : d.NoRefusalWaits) (request : Packet) :
    (d.handlePacket request).2.device.NoRefusalWaits := by
  by_cases hmt : request.mt = mtData ∨ request.mt = mtCommand
  · rcases handle_packet_served d request hmt with ⟨rc,response,posting,d',hserved,hx⟩
    rw [posted_finalized] at hx
    rw [hx]
    intro n hn
    have hwaited : ∀ n ∈ d'.pendingNotifications, ¬ n.ReportsRefusal := by
      rcases served_pending hserved with hkept | ⟨-,hempty⟩
      · rwa [hkept]
      · rw [hempty]
        exact List.forall_mem_nil _
    have hposted : n ∈ d'.pendingNotifications ∨ n ∈ posting.packets :=
      settled_held_mem (List.mem_append_right _ hn)
    rcases hposted with hn' | hposted
    · exact hwaited n hn'
    · cases hserved with
      | command _ ns errors _ _ _ change error =>
        rcases List.mem_append.mp hposted with hns | herrors
        · exact short_reports_nothing (change_short change n hns)
        · rcases error with rfl | ⟨status,rfl⟩
          · cases herrors
          · rw [List.mem_singleton.mp herrors]
            exact short_reports_nothing (show 1 ≤ 6 by decide)
      | data _ _ _ change =>
        cases change with
        | refused sessionId sequenceNumber status txCount =>
          have hkept : ∀ k, ((Posting.placed (dataTransferStatusNotification sessionId
              sequenceNumber status txCount)).settled d k).pending = d.pendingNotifications := by
            intro k
            unfold Posting.settled
            split <;> rfl
          exact h n (hkept _ ▸ hn)
        | repeated => exact completion_reports_nothing (Or.inl rfl) n hposted
        | completed => exact completion_reports_nothing (Or.inr rfl) n hposted
        | ignored | begun | unscheduled => cases hposted
  · rcases not_or.mp hmt with ⟨hdata,hcommand⟩
    rw [handle_packet_other d request hdata hcommand]
    exact h

theorem events_post_no_refusal {d : Device} (hs : d.scenario = .delayedNotifications) :
    d.EventsPost (fun n => ¬ n.ReportsRefusal) where
  range h := absurd (hs.symm.trans h) (by decide)
  idle h := absurd (hs.symm.trans h) (by decide)
  credit _ := short_reports_nothing (show 5 ≤ 6 by decide)
  status _ _ _ _ h := by
    rw [transfer_status_reports]
    exact fun hn => h.elim hn.1 hn.2

theorem no_refusal_waits {profile : Profile} (ops : List Op) :
    (Run.reached profile .delayedNotifications ops).engine.device.NoRefusalWaits := by
  have hstep : ∀ (r : Run) (op : Op), r.engine.device.scenario = .delayedNotifications ∧
      r.engine.device.NoRefusalWaits →
      (r.step op).engine.device.scenario = .delayedNotifications ∧
        (r.step op).engine.device.NoRefusalWaits := by
    intro r op hr
    constructor
    · exact (r.step_scenario op).trans hr.1
    · exact r.step_pending op (events_post_no_refusal hr.1)
        (fun request _ => hr.2.packet request) hr.2
  have hinit : (Run.init profile .delayedNotifications).engine.device.NoRefusalWaits :=
    List.forall_mem_nil _
  exact (Runs.invariant_of_all_steps hstep _ ops ⟨rfl,hinit⟩).2

/-- With deferred notifications a reachable device hands over a notification deferred from an
earlier exchange exactly unless the packet is a data message it refuses, or a reset it accepts
while notifications wait. -/
theorem deferred_delivery (profile : Profile) (ops : List Op) (request : Packet) :
    let d := (Run.reached profile .delayedNotifications ops).engine.device
    d.DeliversDeferred request ↔
      ¬ d.RefusesData request ∧ ¬ (d.AcceptsReset request ∧ d.pendingNotifications ≠ []) := by
  intro d
  have hs : d.scenario = .delayedNotifications := Run.reached_scenario ops
  constructor
  · intro h
    constructor
    · intro hrefuses
      rcases refusal_delivers hrefuses with ⟨n,hn,hslot,-⟩
      rcases h n hslot with ⟨rest,hpending,-⟩
      exact no_refusal_waits ops n (hpending ▸ List.mem_cons_self) hn
    · rintro ⟨haccepts,hpending⟩
      rcases reset_delivers haccepts hs hpending with ⟨hslot,hempty,haccepted⟩
      rcases h _ hslot with ⟨rest,-,hrest⟩
      rw [hempty, haccepted] at hrest
      exact absurd hrest.symm (by simp)
  · rintro ⟨hdata,hreset⟩ n hn
    by_cases hmt : request.mt = mtData ∨ request.mt = mtCommand
    · have hposts : d.Posts request := by
        rcases hmt with hmt | hmt
        · exact data_message_posts hmt hdata
        · exact command_posts hmt hreset
      rcases hposts with ⟨rc,response,posting,d',hx,hpending,hscenario,hposting⟩
      rw [posted_finalized, ← hpending] at hx
      rw [hx] at hn ⊢
      rw [← hpending]
      exact settled_deferred d' (hscenario.trans hs) hposting hn
    · rcases not_or.mp hmt with ⟨hother,hcommand⟩
      rw [handle_packet_other d request hother hcommand] at hn
      cases hn

/-- A data message to no session, and a reset after a session was opened. -/
theorem refusal_and_reset_handed_over :
    ¬ (Run.reached defaultProfile .delayedNotifications []).engine.device.DeliversDeferred
        (dataMessage 1 0) ∧
      ¬ (Run.reached defaultProfile .delayedNotifications
        [.submit (initRequest 1)]).engine.device.DeliversDeferred
          (hostCommand gidCore coreDeviceReset [coreDeviceResetConfigValid]) := by
  constructor
  · intro h
    rcases h (dataTransferStatusNotification 1 0 dataTransferStatusErrorRejected 0)
      (by decide +kernel) with ⟨rest,hpending,-⟩
    cases hpending
  · intro h
    rcases h (deviceStatusNotification defaultProfile.defaultDeviceState)
      (by decide +kernel) with ⟨rest,hpending,-⟩
    have hhead := congrArg List.head? hpending
    revert hhead
    rw [List.head?_cons]
    decide +kernel

end UciSim
