import UciSim.Conservation
import UciSim.DataMessages
import UciSim.PendingMail
import UciSim.TickFailures

/-!
# Packets the engine refuses

The engine reports a failure before it executes a packet, or after it has
executed it and finds no room. Exactly the harmless failures leave the engine as
it was.
-/

set_option autoImplicit false

namespace UciSim

open Exchange

/-- A new message whose transfer finds the event queue full. -/
def Device.GivesUpData (d : Device) (request : Packet) : Prop :=
  request.mt = mtData ∧ ∃ i, d.AdmitsData request i ∧ ¬ (d.sessions i).Remembers request ∧
    (d.sessions i).getDataRepetitionCount ≠ 0 ∧ maxScenarioEvents ≤ d.scheduledEvents.length

instance (d : Device) (request : Packet) : Decidable (d.GivesUpData request) :=
  inferInstanceAs (Decidable (_ ∧ ∃ _, _))

namespace Engine

/-- The packets the handling of a packet hands to the outbound queue. -/
def handed (e : Engine) (request : Packet) : List Packet :=
  (e.device.handlePacket request).2.result.response.toList ++
    (e.device.handlePacket request).2.result.notification.toList

/-- A failing call leaves no trace: handled in silence the packet is not a transfer given up for
want of an event, what it hands over fits together with its closing tick, or the outbound queue
was full before and the handling changes nothing. -/
def Harmless (e : Engine) (request : Packet) : Prop :=
  if (e.device.handlePacket request).1 = .err ∧ e.handed request = [] then
    ¬ e.device.GivesUpData request
  else if e.outboundPackets.length+(e.handed request).length ≤ maxOutboundPackets then
    ∀ closed, e.closing request = some closed → closed.device.TickFits 0
  else e.outboundPackets.length = maxOutboundPackets ∧
    (e.device.handlePacket request).2.device = e.device

end Engine

theorem finalize_silent {x : Exchange} {k : ℕ}
    (h : (x.finalizeResult k).result.notification = none) : x.finalizeResult k = x := by
  rw [finalizeResult_mail] at h ⊢
  split
  · rename_i hauto
    rw [if_pos hauto] at h
    have hslot : (Mailbox.settle x.mail).slot = none := h
    have hnothing := Mailbox.settle_silent x.mail hslot
    unfold Mailbox.settle
    split
    · rename_i a rest hnone hpending
      rw [Mailbox.settle_held, Mailbox.held, hnone, hpending] at hnothing
      cases hnothing
    · rfl
  · rfl

/-- A packet that waited before, or was posted, is handed over unless the device defers and
nothing waited. -/
theorem finalize_hands {x : Exchange} {k : ℕ} (hpending : x.device.pendingNotifications ≠ [])
    (h : (x.finalizeResult k).result.notification = none) :
    x.device.scenario = .delayedNotifications ∧ k = 0 := by
  by_contra hauto
  have hdelivers : x.device.scenario.shouldAutoDeliverPending k = true := by
    rcases not_and_or.mp hauto with h | h <;> simp [Scenario.shouldAutoDeliverPending, h]
  rw [finalizeResult_mail, if_pos hdelivers] at h
  have hnothing := Mailbox.settle_silent x.mail h
  rw [Mailbox.settle_held] at hnothing
  exact hpending (List.append_eq_nil_iff.mp hnothing).2

section

variable {d : Device} {request : Packet}

theorem handle_data (hmt : request.mt = mtData) :
    d.handlePacket request = (((start d).handleDataMessageSend request).1,
      ((start d).handleDataMessageSend request).2.finalizeResult
        d.pendingNotifications.length) := by
  unfold Device.handlePacket
  rw [if_pos hmt]

theorem command_hands (hmt : request.mt = mtCommand) :
    ∃ response, (d.handlePacket request).2.result.response = some response := by
  rcases handle_packet_served d request (Or.inr hmt) with ⟨rc,response,posting,d',hserved,hx⟩
  cases hserved with
  | command response _ _ _ _ _ _ _ =>
    rw [posted_finalized] at hx
    rw [hx]
    exact ⟨response,rfl⟩
  | data _ _ mt _ => exact absurd (mt.symm.trans hmt) (by decide)

theorem given_up_changes {i : Fin maxSessions} (hnew : ¬ (d.sessions i).Remembers request) :
    d.setSession i ((d.sessions i).beginRequest request).abandonTransfer ≠ d := by
  intro h
  have hsession := congrArg (fun d : Device => d.sessions i) h
  simp only [Device.setSession_same] at hsession
  exact hnew (hsession ▸ ⟨rfl,rfl,rfl⟩)

theorem completion_pending (x : Exchange) (sessionId : UInt32) (sequenceNumber : UInt16)
    (status : UInt8) :
    ∃ kept, (x.queueDataCompletion sessionId sequenceNumber status).2.device.pendingNotifications =
      x.device.pendingNotifications ++ kept := by
  rcases Mailbox.queueAll_appends maxPendingNotifications x.mail
    (dataCompletion sessionId sequenceNumber status 1) with ⟨kept,hkept⟩
  rw [queue_data_completion, queueAll_mail, hkept]
  exact ⟨kept,rfl⟩

/-- A completion that does not fit finds others waiting, and one of them is handed over. -/
theorem failed_completion_hands {x : Exchange} {k : ℕ} {sessionId : UInt32}
    {sequenceNumber : UInt16} {status : UInt8} (hk : k = x.device.pendingNotifications.length)
    (hrc : (x.queueDataCompletion sessionId sequenceNumber status).1 = .err) :
    ((x.queueDataCompletion sessionId sequenceNumber status).2.finalizeResult
      k).result.notification ≠ none := by
  intro hslot
  have hfull : ¬ x.device.pendingNotifications.length+2 ≤ maxPendingNotifications := by
    rw [← queue_pair_ok x (dataCreditNotification sessionId 1)
      (dataTransferStatusNotification sessionId sequenceNumber status 1)]
    intro hok
    exact absurd (hok.symm.trans hrc) (by decide)
  simp only [maxPendingNotifications] at hfull
  rcases completion_pending x sessionId sequenceNumber status with ⟨kept,hkept⟩
  have hwaits : (x.queueDataCompletion sessionId sequenceNumber
      status).2.device.pendingNotifications ≠ [] := by
    rw [hkept]
    intro hnil
    rw [(List.append_eq_nil_iff.mp hnil).1, List.length_nil] at hfull
    omega
  have := (finalize_hands hwaits hslot).2
  omega

theorem silent_unchanged (hrc : (d.handlePacket request).1 = .err)
    (hresponse : (d.handlePacket request).2.result.response = none)
    (hslot : (d.handlePacket request).2.result.notification = none) :
    (d.handlePacket request).2.device = d ↔ ¬ d.GivesUpData request := by
  by_cases hdata : request.mt = mtData
  swap
  · have hother : ¬ d.GivesUpData request := fun h => hdata h.1
    by_cases hcommand : request.mt = mtCommand
    · rcases command_hands (d := d) hcommand with ⟨response,hsome⟩
      rw [hresponse] at hsome
      cases hsome
    · rw [handle_packet_other d request hdata hcommand]
      exact iff_of_true rfl hother
  rw [handle_data hdata] at hrc hslot ⊢
  have houtcome := data_message_outcome d request
  have hfinal := finalize_silent hslot
  dsimp only at hrc hfinal ⊢
  rw [hfinal]
  generalize (start d).handleDataMessageSend request = outcome at houtcome hrc hslot hfinal ⊢
  cases houtcome with
  | ignored h => exact iff_of_true rfl fun hgives => hgives.2.elim fun i hi => h hi.1.1
  | refused =>
    rw [hfinal] at hslot
    cases hslot
  | repeated => exact absurd hslot (failed_completion_hands rfl hrc)
  | completed => exact absurd hslot (failed_completion_hands rfl hrc)
  | begun => cases hrc
  | unscheduled i hadmits hnew hrepeats hfull =>
    exact iff_of_false (given_up_changes hnew)
      (not_not.mpr ⟨hdata,i,hadmits,hnew,hrepeats,hfull⟩)

end

namespace Engine

section

variable {e : Engine} {request : Packet}

theorem queue_optional_full (packet : Packet) (h : maxOutboundPackets ≤ e.outboundPackets.length) :
    e.queueOptional (some packet) = (.err,e) := if_pos h

theorem queue_optional_room (packet : Packet) (h : e.outboundPackets.length < maxOutboundPackets) :
    e.queueOptional (some packet) =
      (.ok,{ e with outboundPackets := e.outboundPackets ++ [packet] }) :=
  if_neg (Nat.not_le_of_lt h)

theorem submit_overflow (hout : e.outboundPackets.length ≤ maxOutboundPackets)
    (hnoisy : ¬ ((e.device.handlePacket request).1 = .err ∧ e.handed request = []))
    (hfull : maxOutboundPackets < e.outboundPackets.length+(e.handed request).length) :
    (e.submitPacket request).rc = .err ∧ (e.submitPacket request).engine =
      ⟨(e.device.handlePacket request).2.device,
        (e.outboundPackets ++ e.handed request).take maxOutboundPackets⟩ := by
  unfold submitPacket
  unfold handed at hnoisy hfull ⊢
  generalize e.device.handlePacket request = handled at hnoisy hfull ⊢
  rcases handled with ⟨rc,d,⟨response,notification⟩,accepted⟩
  dsimp only at hnoisy hfull ⊢
  cases response with
  | none =>
    cases notification with
    | none =>
      simp only [Option.toList_none, List.append_nil, List.length_nil] at hfull
      omega
    | some n =>
      have hlen : maxOutboundPackets ≤ e.outboundPackets.length := Nat.lt_succ_iff.mp hfull
      have hqueued : queueOptional ⟨d,e.outboundPackets⟩ (some n) = (.err,⟨d,e.outboundPackets⟩) :=
        queue_optional_full n hlen
      rw [if_neg (by simp), show queueOptional ⟨d,e.outboundPackets⟩ none =
        (.ok,⟨d,e.outboundPackets⟩) from rfl]
      dsimp only
      rw [hqueued, List.take_left' (hout.antisymm hlen)]
      exact ⟨rfl,rfl⟩
  | some r =>
    rw [if_neg (by simp)]
    by_cases hroom : e.outboundPackets.length < maxOutboundPackets
    · have hqueued : queueOptional ⟨d,e.outboundPackets⟩ (some r) =
          (.ok,⟨d,e.outboundPackets ++ [r]⟩) := queue_optional_room r hroom
      cases notification with
      | none =>
        simp only [Option.toList_some, Option.toList_none, List.append_nil,
          List.length_singleton] at hfull
        omega
      | some n =>
        have hlen : maxOutboundPackets ≤ (e.outboundPackets ++ [r]).length := by
          simp only [Option.toList_some, List.length_append, List.length_singleton] at hfull ⊢
          omega
        have hfilled : (e.outboundPackets ++ [r]).length = maxOutboundPackets := by
          refine le_antisymm ?_ hlen
          rw [List.length_append, List.length_singleton]
          exact hroom
        have hsecond : queueOptional ⟨d,e.outboundPackets ++ [r]⟩ (some n) =
            (.err,⟨d,e.outboundPackets ++ [r]⟩) := queue_optional_full n hlen
        rw [hqueued]
        dsimp only
        rw [hsecond, show e.outboundPackets ++ ((some r).toList ++ (some n).toList) =
          e.outboundPackets ++ [r] ++ [n] by simp, List.take_left' hfilled]
        exact ⟨rfl,rfl⟩
    · have hlen := Nat.le_of_not_lt hroom
      have hqueued : queueOptional ⟨d,e.outboundPackets⟩ (some r) = (.err,⟨d,e.outboundPackets⟩) :=
        queue_optional_full r hlen
      rw [hqueued, List.take_left' (hout.antisymm hlen)]
      exact ⟨rfl,rfl⟩

theorem submit_closed {closed : Engine} (h : e.closing request = some closed) :
    (e.submitPacket request).rc = (closed.tick 0).rc ∧
      (e.submitPacket request).engine = (closed.tick 0).engine := by
  unfold closing at h
  unfold submitPacket
  generalize e.device.handlePacket request = handled at h ⊢
  rcases handled with ⟨rc,x⟩
  dsimp only at h ⊢
  by_cases hsilent : rc = .err ∧ x.result.response = none ∧ x.result.notification = none
  · rw [if_pos hsilent] at h
    cases h
  rw [if_neg hsilent] at h ⊢
  generalize queueOptional _ x.result.response = answered at h ⊢
  rcases answered with ⟨rc₁,e₁⟩
  cases rc₁ with
  | err => cases h
  | ok =>
    dsimp only at h ⊢
    generalize queueOptional _ x.result.notification = notified at h ⊢
    rcases notified with ⟨rc₂,e₂⟩
    cases rc₂ with
    | err => cases h
    | ok =>
      cases h
      exact ⟨rfl,rfl⟩

theorem submit_unclosed (h : e.closing request = none) :
    ∃ l, (e.submitPacket request).engine =
      (e.device.handlePacket request).2.device.carrying l := by
  unfold closing at h
  unfold submitPacket
  generalize e.device.handlePacket request = handled at h ⊢
  rcases handled with ⟨rc,d',⟨response,slot⟩,accepted⟩
  dsimp only at h ⊢
  split
  · exact ⟨⟨d'.pendingNotifications,e.outboundPackets⟩,rfl⟩
  rename_i hspeaks
  rw [if_neg hspeaks] at h
  rw [show ({ e with device := d' } : Engine) =
    d'.carrying ⟨d'.pendingNotifications,e.outboundPackets⟩ from rfl] at h ⊢
  rcases queue_optional_cases d' ⟨d'.pendingNotifications,e.outboundPackets⟩ response with
    ⟨hq,-⟩ | ⟨hq,-⟩
  · rw [hq] at h ⊢
    dsimp only at h ⊢
    rcases queue_optional_cases d' ⟨d'.pendingNotifications,
      e.outboundPackets ++ response.toList⟩ slot with ⟨hq,-⟩ | ⟨hq,-⟩
    · rw [hq] at h
      cases h
    · rw [hq]
      exact ⟨_,rfl⟩
  · rw [hq]
    exact ⟨_,rfl⟩

theorem queue_optional_fits (e : Engine) (packet : Option Packet)
    (h : e.outboundPackets.length+packet.toList.length ≤ maxOutboundPackets) :
    e.queueOptional packet =
      (.ok,{ e with outboundPackets := e.outboundPackets ++ packet.toList }) := by
  cases packet with
  | none => simp [queueOptional]
  | some packet => exact queue_optional_room packet h

theorem closing_fits
    (hnoisy : ¬ ((e.device.handlePacket request).1 = .err ∧ e.handed request = []))
    (hfits : e.outboundPackets.length+(e.handed request).length ≤ maxOutboundPackets) :
    e.closing request = some ((e.device.handlePacket request).2.device.carrying
      (flushedLines (e.device.handlePacket request).2.device.scenario
        ⟨(e.device.handlePacket request).2.device.pendingNotifications,
          e.outboundPackets ++ e.handed request⟩)) := by
  unfold handed at hnoisy hfits
  rw [List.length_append] at hfits
  have hspeaks : ¬ ((e.device.handlePacket request).1 = .err ∧
      (e.device.handlePacket request).2.result.response = none ∧
      (e.device.handlePacket request).2.result.notification = none) :=
    fun h => hnoisy ⟨h.1,by rw [h.2.1, h.2.2]; rfl⟩
  unfold closing
  dsimp only
  rw [if_neg hspeaks, queue_optional_fits ⟨_,e.outboundPackets⟩ _ (by dsimp only; omega)]
  dsimp only
  rw [queue_optional_fits _ _ (by dsimp only; rw [List.length_append]; omega)]
  dsimp only
  rw [List.append_assoc]
  exact congrArg some (flush_lines (e.device.handlePacket request).2.device
    ⟨_,e.outboundPackets ++ e.handed request⟩)

theorem flushed_grows (scenario : Scenario) (l : Lines) :
    l.outbound.length ≤ (flushedLines scenario l).outbound.length := by
  unfold flushedLines
  split
  · exact Nat.le_refl _
  · simp only [Relay.forward, List.length_append]
    omega

theorem tick_grows (d : Device) (l : Lines) (elapsedMs : UInt32) :
    l.outbound.length ≤ ((d.carrying l).tick elapsedMs).engine.outboundPackets.length ∧
      (d.scenario = .delayedNotifications → l.waiting.length ≤
        ((d.carrying l).tick elapsedMs).engine.device.pendingNotifications.length) := by
  rcases tick_ticked d l elapsedMs with ⟨flushes,ns,d',-,hengine,-⟩
  have hqueued : l.waiting.length ≤ (queuedLines l ns).waiting.length := by
    rcases Mailbox.queueAll_appends maxPendingNotifications (⟨none,l.waiting,[]⟩ : Mail) ns with
      ⟨kept,hkept⟩
    rw [queuedLines, hkept]
    simp
  rw [hengine]
  cases flushes with
  | false => exact ⟨Nat.le_refl _,fun _ => hqueued⟩
  | true =>
    constructor
    · exact flushed_grows d.scenario (queuedLines l ns)
    · intro hs
      rw [hs]
      exact hqueued

theorem tick_memory (d : Device) (l : Lines) (elapsedMs : UInt32) :
    d.SameMemory ((d.carrying l).tick elapsedMs).engine.device := by
  rcases tick_ticked d l elapsedMs with ⟨flushes,ns,d',hticked,hengine,-⟩
  have hmemory : (d.withPending l.waiting).SameMemory d' := .ticked hticked
  rw [hengine]
  exact hmemory

theorem completion_waits {x : Exchange} {sessionId : UInt32} {sequenceNumber : UInt16}
    {status : UInt8} (hrc : (x.queueDataCompletion sessionId sequenceNumber status).1 = .ok) :
    (x.queueDataCompletion sessionId sequenceNumber status).2.device.pendingNotifications ≠ [] := by
  unfold queueDataCompletion at hrc ⊢
  split at hrc
  · cases hrc
  · unfold queueDataTransferStatusNotification at hrc ⊢
    rw [queue_ok_pending hrc]
    simp

theorem silent_message {d : Device} (hmt : request.mt = mtData)
    (hrc : (d.handlePacket request).1 = .ok)
    (hslot : (d.handlePacket request).2.result.notification = none) :
    (∃ i, ¬ (d.sessions i).Remembers request ∧
        ((d.handlePacket request).2.device.sessions i).Remembers request) ∨
      (d.scenario = .delayedNotifications ∧ d.pendingNotifications = [] ∧
        (d.handlePacket request).2.device.pendingNotifications ≠ []) := by
  rw [handle_data hmt] at hrc hslot ⊢
  have houtcome := data_message_outcome d request
  have hfinal := finalize_silent hslot
  dsimp only at hrc hfinal ⊢
  rw [hfinal]
  generalize (start d).handleDataMessageSend request = outcome at houtcome hrc hslot hfinal ⊢
  cases houtcome with
  | ignored => cases hrc
  | refused => cases hrc
  | repeated i =>
    have hwaits := completion_waits hrc
    rcases finalize_hands hwaits hslot with ⟨hs,hk⟩
    exact Or.inr ⟨by rwa [queue_data_completion, queueAll_mail] at hs,
      List.length_eq_zero_iff.mp hk,hwaits⟩
  | completed i =>
    have hwaits := completion_waits hrc
    rcases finalize_hands hwaits hslot with ⟨hs,hk⟩
    exact Or.inr ⟨by rwa [queue_data_completion, queueAll_mail] at hs,
      List.length_eq_zero_iff.mp hk,hwaits⟩
  | begun i _ _ hnew =>
    refine Or.inl ⟨i,hnew,?_⟩
    change ((d.setSession i ((d.sessions i).beginRequest request)).sessions i).Remembers request
    rw [Device.setSession_same]
    exact ⟨rfl,rfl,rfl⟩
  | unscheduled => cases hrc

theorem closed_changes {closed : Engine} (hclosed : e.closing request = some closed)
    (hnoisy : ¬ ((e.device.handlePacket request).1 = .err ∧ e.handed request = []))
    (hfits : e.outboundPackets.length+(e.handed request).length ≤ maxOutboundPackets) :
    (closed.tick 0).engine ≠ e := by
  intro hsame
  rw [closing_fits hnoisy hfits] at hclosed
  cases hclosed
  have hgrows := tick_grows (e.device.handlePacket request).2.device
    (flushedLines (e.device.handlePacket request).2.device.scenario
      ⟨(e.device.handlePacket request).2.device.pendingNotifications,
        e.outboundPackets ++ e.handed request⟩) 0
  have hmemory := tick_memory (e.device.handlePacket request).2.device
    (flushedLines (e.device.handlePacket request).2.device.scenario
      ⟨(e.device.handlePacket request).2.device.pendingNotifications,
        e.outboundPackets ++ e.handed request⟩) 0
  rw [hsame] at hgrows hmemory
  by_cases hhanded : e.handed request = []
  swap
  · have hlonger := (flushed_grows _ _).trans hgrows.1
    have hpos := List.length_pos_iff.mpr hhanded
    rw [List.length_append] at hlonger
    omega
  have hrc : (e.device.handlePacket request).1 = .ok := by
    cases hrc : (e.device.handlePacket request).1 with
    | ok => rfl
    | err => exact absurd ⟨hrc,hhanded⟩ hnoisy
  rcases List.append_eq_nil_iff.mp hhanded with ⟨hresponse,hslot⟩
  have hdata : request.mt = mtData := by
    by_contra hdata
    by_cases hcommand : request.mt = mtCommand
    · rcases command_hands (d := e.device) hcommand with ⟨response,hsome⟩
      rw [hsome] at hresponse
      cases hresponse
    · rw [handle_packet_other _ request hdata hcommand] at hrc
      cases hrc
  rcases silent_message hdata hrc (Option.toList_eq_nil_iff.mp hslot) with
    ⟨i,hnew,hknown⟩ | ⟨hs,hempty,hwaits⟩
  · exact hnew ((hmemory i request).mpr hknown)
  · have hscenario := (handle_packet_frame e.device request).2.trans hs
    have hkept := hgrows.2 hscenario
    rw [hscenario, hempty] at hkept
    exact hwaits (List.length_eq_zero_iff.mp (Nat.le_zero.mp hkept))

/-- A packet that fails leaves the engine as it was exactly when it is harmless. -/
theorem submit_unchanged (hbounded : ∀ closed, e.closing request = some closed →
      closed.device.Bounded)
    (hout : e.outboundPackets.length ≤ maxOutboundPackets) :
    ((e.submitPacket request).rc = .err → (e.submitPacket request).engine = e) ↔
      e.Harmless request := by
  have hdevice : ∀ d l, (⟨d,l⟩ : Engine) = e ↔ d = e.device ∧ l = e.outboundPackets := by
    intro d l
    rw [Engine.mk.injEq]
  unfold Harmless
  split
  · rename_i hsilent
    rcases List.append_eq_nil_iff.mp hsilent.2 with ⟨hresponse,hslot⟩
    have hresponse := Option.toList_eq_nil_iff.mp hresponse
    have hslot := Option.toList_eq_nil_iff.mp hslot
    have hsubmit : e.submitPacket request =
        ⟨.err,⟨(e.device.handlePacket request).2.device,e.outboundPackets⟩,
          (e.device.handlePacket request).2.result.response.toList ++
            (e.device.handlePacket request).2.accepted⟩ := by
      unfold submitPacket
      exact if_pos ⟨hsilent.1,hresponse,hslot⟩
    rw [hsubmit, ← silent_unchanged hsilent.1 hresponse hslot]
    simp [hdevice]
  rename_i hnoisy
  split
  · rename_i hfits
    have hclosed := closing_fits hnoisy hfits
    rcases submit_closed hclosed with ⟨hrc,hengine⟩
    have htick := tick_ok _ 0 (hbounded _ hclosed)
    rw [hrc, hengine]
    constructor
    · intro h closed hc
      rw [hclosed] at hc
      cases hc
      rw [← htick]
      by_contra herr
      exact closed_changes hclosed hnoisy hfits (h (by
        generalize (Engine.tick _ 0).rc = rc at herr ⊢
        cases rc <;> simp_all))
    · intro h herr
      exact absurd ((htick.mpr (h _ hclosed)).symm.trans herr) (by decide)
  · rename_i hfull
    rcases submit_overflow hout hnoisy (Nat.lt_of_not_le hfull) with ⟨hrc,hengine⟩
    rw [hrc, hengine, hdevice]
    constructor
    · intro h
      rcases h rfl with ⟨hkept,htake⟩
      have hlen := congrArg List.length htake
      rw [List.length_take, List.length_append] at hlen
      exact ⟨by omega,hkept⟩
    · rintro ⟨hlen,hkept⟩ -
      exact ⟨hkept,List.take_left' hlen⟩

end

end Engine

theorem reached_outbound {profile : Profile} {scenario : Scenario} (ops : List Op) :
    (Run.reached profile scenario ops).engine.outboundPackets.length ≤ maxOutboundPackets := by
  refine Runs.invariant_of_all_steps
    (I := fun r : Run => r.engine.outboundPackets.length ≤ maxOutboundPackets)
    (fun r op hr => ?_) _ ops (Nat.zero_le _)
  cases op with
  | submit request => exact Engine.submit_outbound r.engine request hr
  | tick elapsedMs => exact Engine.tick_outbound r.engine.device r.engine.lines elapsedMs hr
  | dequeue =>
    cases h : r.engine.outboundPackets with
    | nil => rwa [Run.step_dequeue_nil h]
    | cons packet rest =>
      rw [Run.step_dequeue_cons h]
      rw [h, List.length_cons] at hr
      exact Nat.le_of_succ_le hr

end UciSim
