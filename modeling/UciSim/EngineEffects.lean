import UciSim.EventEffects
import UciSim.General.Relay

/-!
# What one engine call can do

The pending and the outbound queue are two chained lines. Every call is a change
of the device without its lines, together with what it posts to them.
-/

set_option autoImplicit false

namespace UciSim

abbrev Lines := Relay.Lines Packet

/-- The engine of a device and its two lines. -/
def Device.carrying (d : Device) (l : Lines) : Engine := ⟨d.withPending l.waiting,l.outbound⟩

def Engine.lines (e : Engine) : Lines := ⟨e.device.pendingNotifications,e.outboundPackets⟩

@[simp] theorem Engine.carrying_lines (e : Engine) : e.device.carrying e.lines = e := rfl

@[simp] theorem Device.carrying_withPending (d : Device) (p : List Packet) (l : Lines) :
    (d.withPending p).carrying l = d.carrying l := rfl

/-- A flush forwards the pending line unless the scenario defers. -/
def flushedLines (scenario : Scenario) (l : Lines) : Lines :=
  if scenario.shouldDeferNotification then l else Relay.forward maxOutboundPackets l

def queuedLines (l : Lines) (ns : List Packet) : Lines :=
  { l with waiting := (Mailbox.queueAll maxPendingNotifications ⟨none,l.waiting,[]⟩ ns).pending }

namespace Engine

theorem queue_outbound_full (d : Device) (l : Lines) (packet : Packet)
    (h : maxOutboundPackets ≤ l.outbound.length) :
    (d.carrying l).queueOutboundPacket packet = (.err,d.carrying l) := if_pos h

theorem queue_outbound_room (d : Device) (l : Lines) (packet : Packet)
    (h : l.outbound.length < maxOutboundPackets) :
    (d.carrying l).queueOutboundPacket packet =
      (.ok,d.carrying { l with outbound := l.outbound ++ [packet] }) :=
  if_neg (Nat.not_le_of_lt h)

theorem flush_loop_cons (turns : ℕ) (d : Device) (packet : Packet) (rest outbound : List Packet) :
    (d.carrying ⟨packet::rest,outbound⟩).flushLoop (turns+1) =
      match (d.carrying ⟨rest,outbound⟩).queueOutboundPacket packet with
      | (.ok,engine) => flushLoop turns engine
      | (.err,engine) => engine := rfl

theorem flush_loop_lines (turns : ℕ) (d : Device) (l : Lines) (h : l.waiting.length < turns) :
    (d.carrying l).flushLoop turns = d.carrying (Relay.forward maxOutboundPackets l) := by
  induction turns generalizing l with
  | zero => omega
  | succ turns ih =>
    obtain ⟨waiting,outbound⟩ := l
    cases waiting with
    | nil => simp [flushLoop, Device.carrying, Device.dequeueNotification, Relay.forward]
    | cons a waiting =>
      rw [flush_loop_cons]
      by_cases hfull : maxOutboundPackets ≤ outbound.length
      · have hroom : maxOutboundPackets-outbound.length = 0 := by omega
        rw [queue_outbound_full d ⟨waiting,outbound⟩ a hfull]
        simp [Relay.forward, Relay.room, hroom]
      · have hroom : maxOutboundPackets-outbound.length =
            maxOutboundPackets-(outbound ++ [a]).length+1 := by
          simp only [List.length_append, List.length_singleton]
          omega
        rw [queue_outbound_room d ⟨waiting,outbound⟩ a (Nat.lt_of_not_le hfull)]
        refine (ih ⟨waiting,outbound ++ [a]⟩ (by simpa using h)).trans ?_
        simp [Relay.forward, Relay.room, hroom]

theorem flush_lines (d : Device) (l : Lines) :
    (d.carrying l).flushDeviceNotifications = d.carrying (flushedLines d.scenario l) := by
  unfold flushDeviceNotifications flushedLines
  by_cases hd : d.scenario.shouldDeferNotification = true
  · rw [if_pos hd, if_pos (show (d.carrying l).device.scenario.shouldDeferNotification = true
      from hd)]
  · rw [if_neg hd, if_neg (show ¬ (d.carrying l).device.scenario.shouldDeferNotification = true
      from hd)]
    exact flush_loop_lines _ d l (Nat.lt_succ_self _)

end Engine

/-- What the ready event removed before leaves behind, and whether the lines are flushed. -/
inductive Fired (d : Device) (event : ScheduledEvent) :
    Bool → List Packet → Device → Prop where
  | unmatched (h : event.type = .none ∨ d.findSession event.sessionId = none) :
      Fired d event false [] d
  | rangingFailed (i : Fin maxSessions) (ns : List Packet) (d' : Device)
      (type : event.type = .rangeData) (found : d.findSession event.sessionId = some i)
      (ranged : Ranged d i .err ns d') : Fired d event false ns d'
  | rangingOver (i : Fin maxSessions) (ns : List Packet) (d' : Device)
      (type : event.type = .rangeData) (found : d.findSession event.sessionId = some i)
      (ranged : Ranged d i .ok ns d') (ended : ¬ (d'.sessions i).Streaming) :
      Fired d event true ns d'
  | rangingOn (i : Fin maxSessions) (ns : List Packet) (d' : Device)
      (type : event.type = .rangeData) (found : d.findSession event.sessionId = some i)
      (ranged : Ranged d i .ok ns d') (on : (d'.sessions i).Streaming) :
      Fired d event true ns (d'.resumed .rangeData i)
  | transferIdle (i : Fin maxSessions) (type : event.type = .dataTransfer)
      (found : d.findSession event.sessionId = some i)
      (idle : (d.sessions i).state ≠ sessionStateActive ∨
        (d.sessions i).dataTransferInProgress = false) : Fired d event false [] d
  | transferFailed (i : Fin maxSessions) (ns : List Packet) (d' : Device)
      (type : event.type = .dataTransfer) (found : d.findSession event.sessionId = some i)
      (active : (d.sessions i).state = sessionStateActive)
      (transferred : Transferred d i .err ns d') : Fired d event false ns d'
  | transferOver (i : Fin maxSessions) (ns : List Packet) (d' : Device)
      (type : event.type = .dataTransfer) (found : d.findSession event.sessionId = some i)
      (active : (d.sessions i).state = sessionStateActive)
      (transferred : Transferred d i .ok ns d')
      (ended : (d'.sessions i).dataTransferInProgress = false) : Fired d event true ns d'
  | transferOn (i : Fin maxSessions) (ns : List Packet) (d' : Device)
      (type : event.type = .dataTransfer) (found : d.findSession event.sessionId = some i)
      (active : (d.sessions i).state = sessionStateActive)
      (transferred : Transferred d i .ok ns d')
      (on : (d'.sessions i).dataTransferInProgress = true) :
      Fired d event true ns (d'.resumed .dataTransfer i)

/-- The outcome of serving an event behind the change it makes. -/
def FiredOutcome (e : Engine) (event : ScheduledEvent) (outcome : Outcome) : Prop :=
  ∃ flushes ns d', Fired e.device event flushes ns d' ∧
    outcome.engine = d'.carrying (if flushes then
      flushedLines e.device.scenario (queuedLines e.lines ns) else queuedLines e.lines ns) ∧
    outcome.produced = (Mailbox.queueAll maxPendingNotifications
      ⟨none,e.device.pendingNotifications,[]⟩ ns).accepted

theorem ranged_frame {d d' : Device} {i : Fin maxSessions} {rc : Rc} {ns : List Packet}
    (h : Ranged d i rc ns d') : d'.scenario = d.scenario ∧ d'.profile = d.profile ∧
      d'.pendingNotifications = d.pendingNotifications := by
  have hsampled : ∀ {ns d'}, Sampled d ns d' → d'.scenario = d.scenario ∧
      d'.profile = d.profile ∧ d'.pendingNotifications = d.pendingNotifications := by
    intro ns d' h
    cases h <;> exact ⟨rfl,rfl,rfl⟩
  cases h with
  | blocked _ _ _ _ sampled => exact hsampled sampled
  | measured _ _ _ _ _ sampled =>
    obtain ⟨hscenario,hprofile,hpending⟩ := hsampled sampled
    exact ⟨hscenario,hprofile,hpending⟩
  | finished _ _ _ _ _ _ sampled =>
    obtain ⟨hscenario,hprofile,hpending⟩ := hsampled sampled
    exact ⟨hscenario,hprofile,hpending⟩
  | _ => exact ⟨rfl,rfl,rfl⟩

theorem transferred_frame {d d' : Device} {i : Fin maxSessions} {rc : Rc} {ns : List Packet}
    (h : Transferred d i rc ns d') : d'.scenario = d.scenario ∧ d'.profile = d.profile ∧
      d'.pendingNotifications = d.pendingNotifications := by
  cases h <;> exact ⟨rfl,rfl,rfl⟩

namespace Engine

theorem posted_engine (e : Engine) (d' : Device) (ns : List Packet)
    (hpending : d'.pendingNotifications = e.device.pendingNotifications) :
    { e with device := (Exchange.posted d' none (.queued ns)).device } =
      d'.carrying (queuedLines e.lines ns) := by
  rw [Exchange.posted_device, hpending]
  rfl

theorem posted_accepted (e : Engine) (d' : Device) (ns : List Packet)
    (hpending : d'.pendingNotifications = e.device.pendingNotifications) :
    (Exchange.posted d' none (.queued ns)).accepted =
      (Mailbox.queueAll maxPendingNotifications
        ⟨none,e.device.pendingNotifications,[]⟩ ns).accepted := by
  rw [← hpending]
  exact congrArg Exchange.accepted (Exchange.queueAll_mail ⟨d',⟨none,none⟩,[]⟩ ns)

theorem schedule_next_carrying (d : Device) (l : Lines) (produced : List Packet)
    (type : EventType) (i : Fin maxSessions) :
    ((d.carrying l).scheduleNext produced type i).engine = (d.resumed type i).carrying l ∧
      ((d.carrying l).scheduleNext produced type i).produced = produced := by
  refine ⟨?_,rfl⟩
  unfold scheduleNext Device.resumed Device.scheduleEvent
  dsimp only
  split_ifs <;> first | rfl | contradiction

theorem process_range_data_fired (e : Engine) (event : ScheduledEvent) (i : Fin maxSessions)
    (htype : event.type = .rangeData) (hfound : e.device.findSession event.sessionId = some i) :
    FiredOutcome e event (e.processRangeData i) := by
  obtain ⟨rc,ns,d',hranged,hx⟩ := Exchange.emit_ranging_stream_ranged e.device i
  obtain ⟨hscenario,-,hpending⟩ := ranged_frame hranged
  unfold processRangeData
  rw [hx]
  cases rc with
  | err => exact ⟨false,ns,d',.rangingFailed i ns d' htype hfound hranged,
      posted_engine e d' ns hpending,posted_accepted e d' ns hpending⟩
  | ok =>
    dsimp only
    rw [posted_engine e d' ns hpending, flush_lines, posted_accepted e d' ns hpending,
      hscenario]
    by_cases hon : (d'.sessions i).rangingStreamRemaining > 0 ∧
        (d'.sessions i).state = sessionStateActive
    · have hstreaming := (Session.streaming_iff _).mpr hon
      rw [if_pos (by exact hon)]
      obtain ⟨hengine,hproduced⟩ := schedule_next_carrying d'
        (flushedLines e.device.scenario (queuedLines e.lines ns)) _ .rangeData i
      exact ⟨true,ns,_,.rangingOn i ns d' htype hfound hranged hstreaming,hengine,hproduced⟩
    · rw [if_neg (by exact hon)]
      exact ⟨true,ns,d',.rangingOver i ns d' htype hfound hranged
        (fun h => hon ((Session.streaming_iff _).mp h)),rfl,rfl⟩

theorem process_data_transfer_fired (e : Engine) (event : ScheduledEvent) (i : Fin maxSessions)
    (htype : event.type = .dataTransfer)
    (hfound : e.device.findSession event.sessionId = some i) :
    FiredOutcome e event (e.processDataTransfer i) := by
  unfold processDataTransfer
  dsimp only
  by_cases hidle : (e.device.sessions i).state ≠ sessionStateActive ∨
      (e.device.sessions i).dataTransferInProgress = false
  · rw [if_pos hidle]
    exact ⟨false,[],e.device,.transferIdle i htype hfound hidle,rfl,rfl⟩
  rw [if_neg hidle]
  obtain ⟨hactive,hprogress⟩ : (e.device.sessions i).state = sessionStateActive ∧
      (e.device.sessions i).dataTransferInProgress = true := by
    simpa using hidle
  obtain ⟨rc,ns,d',htransferred,hx⟩ := Exchange.progress_data_transfer_transferred e.device i
    (Device.find_session_some hfound).1 hprogress
  obtain ⟨hscenario,-,hpending⟩ := transferred_frame htransferred
  rw [hx]
  cases rc with
  | err => exact ⟨false,ns,d',.transferFailed i ns d' htype hfound hactive htransferred,
      posted_engine e d' ns hpending,posted_accepted e d' ns hpending⟩
  | ok =>
    dsimp only
    rw [posted_engine e d' ns hpending, flush_lines, posted_accepted e d' ns hpending,
      hscenario]
    by_cases hon : (d'.sessions i).dataTransferInProgress = true
    · rw [if_pos (by exact hon)]
      obtain ⟨hengine,hproduced⟩ := schedule_next_carrying d'
        (flushedLines e.device.scenario (queuedLines e.lines ns)) _ .dataTransfer i
      exact ⟨true,ns,_,.transferOn i ns d' htype hfound hactive htransferred hon,hengine,
        hproduced⟩
    · rw [if_neg (by exact hon)]
      exact ⟨true,ns,d',.transferOver i ns d' htype hfound hactive htransferred
        (Bool.eq_false_iff.mpr hon),rfl,rfl⟩

theorem process_ready_event_fired (e : Engine) (event : ScheduledEvent) :
    FiredOutcome e event (e.processReadyEvent event) := by
  unfold processReadyEvent
  cases htype : event.type with
  | none => exact ⟨false,[],e.device,.unmatched (Or.inl htype),rfl,rfl⟩
  | rangeData =>
    dsimp only
    cases hfound : e.device.findSession event.sessionId with
    | none => exact ⟨false,[],e.device,.unmatched (Or.inr hfound),rfl,rfl⟩
    | some i => exact process_range_data_fired e event i htype hfound
  | dataTransfer =>
    dsimp only
    cases hfound : e.device.findSession event.sessionId with
    | none => exact ⟨false,[],e.device,.unmatched (Or.inr hfound),rfl,rfl⟩
    | some i => exact process_data_transfer_fired e event i htype hfound

end Engine

inductive Ticked (d : Device) (elapsedMs : UInt32) : Bool → List Packet → Device → Prop where
  | waiting (h : (d.tickEvents elapsedMs).dequeueReadyEvent = none) :
      Ticked d elapsedMs false [] (d.tickEvents elapsedMs)
  | served (event : ScheduledEvent) (d₁ : Device) (flushes : Bool) (ns : List Packet)
      (d' : Device) (ready : (d.tickEvents elapsedMs).dequeueReadyEvent = some (event,d₁))
      (fired : Fired d₁ event flushes ns d') : Ticked d elapsedMs flushes ns d'

theorem Device.dequeue_ready_event_some {d d₁ : Device} {event : ScheduledEvent}
    (h : d.dequeueReadyEvent = some (event,d₁)) :
    d.scheduledEvents.find? (fun event => event.delayMs == 0) = some event ∧
      d₁ = d.withEvents (d.scheduledEvents.eraseP (fun event => event.delayMs == 0)) := by
  unfold dequeueReadyEvent at h
  split at h
  · cases h
  · rename_i hfind
    cases h
    exact ⟨hfind,rfl⟩

namespace Engine

theorem tick_ticked (d : Device) (l : Lines) (elapsedMs : UInt32) :
    ∃ flushes ns d', Ticked (d.withPending l.waiting) elapsedMs flushes ns d' ∧
      ((d.carrying l).tick elapsedMs).engine = d'.carrying (if flushes then
        flushedLines d.scenario (queuedLines l ns) else queuedLines l ns) ∧
      ((d.carrying l).tick elapsedMs).produced = (Mailbox.queueAll maxPendingNotifications
        ⟨none,l.waiting,[]⟩ ns).accepted := by
  unfold tick
  cases hready : ((d.carrying l).device.tickEvents elapsedMs).dequeueReadyEvent with
  | none =>
    dsimp only
    rw [hready]
    exact ⟨false,[],_,.waiting hready,rfl,rfl⟩
  | some ready =>
    obtain ⟨event,d₁⟩ := ready
    obtain ⟨-,hd₁⟩ := Device.dequeue_ready_event_some hready
    obtain ⟨flushes,ns,d',hfired,hengine,hproduced⟩ :=
      process_ready_event_fired ⟨d₁,l.outbound⟩ event
    have hscenario : d₁.scenario = d.scenario := by rw [hd₁]; rfl
    have hpending : d₁.pendingNotifications = l.waiting := by rw [hd₁]; rfl
    have hlines : lines ⟨d₁,l.outbound⟩ = l := by
      rw [lines, hpending]
    dsimp only
    rw [hready]
    refine ⟨flushes,ns,d',.served event d₁ flushes ns d' hready hfired,?_,?_⟩
    · rw [← hscenario, ← hlines]
      exact hengine
    · rw [← hpending]
      exact hproduced

theorem queue_optional_cases (d : Device) (l : Lines) (packet : Option Packet) :
    ((d.carrying l).queueOptional packet =
          (.ok,d.carrying { l with outbound := l.outbound ++ packet.toList }) ∧
        (l.outbound.length ≤ maxOutboundPackets →
          l.outbound.length+packet.toList.length ≤ maxOutboundPackets)) ∨
      ((d.carrying l).queueOptional packet = (.err,d.carrying l) ∧ packet.toList ≠ [] ∧
        maxOutboundPackets < l.outbound.length+packet.toList.length) := by
  cases packet with
  | none => exact Or.inl ⟨by simp [queueOptional],id⟩
  | some packet =>
    by_cases h : l.outbound.length < maxOutboundPackets
    · exact Or.inl ⟨queue_outbound_room d l packet h,fun _ => h⟩
    · exact Or.inr ⟨queue_outbound_full d l packet (Nat.le_of_not_lt h),by simp,
        by simp only [Option.toList_some, List.length_singleton]; omega⟩

/-- The tick a packet ends with, once everything it hands over is queued. -/
def closingTick (d : Device) (l : Lines) (handed : List Packet) : Outcome :=
  (d.carrying (flushedLines d.scenario ⟨l.waiting,l.outbound ++ handed⟩)).tick 0

theorem submit_cases (e : Engine) (request : Packet) (rc : Rc) (d' : Device)
    (response : Option Packet) (m : Mail)
    (h : e.device.handlePacket request =
      (rc,⟨d'.withPending m.pending,⟨response,m.slot⟩,m.accepted⟩)) :
    (rc = .err ∧ response = none ∧ m.slot = none ∧ e.submitPacket request =
        ⟨.err,d'.carrying ⟨m.pending,e.outboundPackets⟩,response.toList ++ m.accepted⟩) ∨
      (∃ sent unsent, e.outboundPackets ++ (response.toList ++ m.slot.toList) = sent ++ unsent ∧
        unsent ≠ [] ∧ maxOutboundPackets <
          e.outboundPackets.length+(response.toList ++ m.slot.toList).length ∧
        e.submitPacket request =
          ⟨.err,d'.carrying ⟨m.pending,sent⟩,response.toList ++ m.accepted⟩) ∨
      (¬ (rc = .err ∧ response = none ∧ m.slot = none) ∧
        (e.outboundPackets.length ≤ maxOutboundPackets →
          e.outboundPackets.length+(response.toList ++ m.slot.toList).length ≤
            maxOutboundPackets) ∧
        e.submitPacket request =
        let ticked := closingTick d' ⟨m.pending,e.outboundPackets⟩
          (response.toList ++ m.slot.toList)
        { ticked with produced := response.toList ++ m.accepted ++ ticked.produced }) := by
  unfold submitPacket
  rw [h]
  dsimp only
  by_cases hrefused : rc = .err ∧ response = none ∧ m.slot = none
  · rw [if_pos hrefused]
    exact Or.inl ⟨hrefused.1,hrefused.2.1,hrefused.2.2,rfl⟩
  rw [if_neg hrefused]
  right
  have hengine : ({ e with device := d'.withPending m.pending } : Engine) =
      d'.carrying ⟨m.pending,e.outboundPackets⟩ := rfl
  rw [hengine]
  obtain ⟨hq,hroom⟩ | ⟨hq,hsome,hfull⟩ :=
    queue_optional_cases d' ⟨m.pending,e.outboundPackets⟩ response
  swap
  · rw [hq]
    change maxOutboundPackets < e.outboundPackets.length+_ at hfull
    refine Or.inl ⟨e.outboundPackets,_,rfl,?_,?_,rfl⟩
    · exact fun hnil => hsome (List.append_eq_nil_iff.mp hnil).1
    · simp only [List.length_append]
      omega
  rw [hq]
  dsimp only
  obtain ⟨hq,hroom'⟩ | ⟨hq,hsome,hfull⟩ :=
    queue_optional_cases d' ⟨m.pending,e.outboundPackets ++ response.toList⟩ m.slot
  · rw [hq]
    dsimp only
    rw [flush_lines, List.append_assoc]
    refine Or.inr ⟨hrefused,fun hle => ?_,rfl⟩
    have := hroom' (by rw [List.length_append]; exact hroom hle)
    simp only [List.length_append] at this ⊢
    omega
  · rw [hq]
    refine Or.inl ⟨e.outboundPackets ++ response.toList,m.slot.toList,
      (List.append_assoc _ _ _).symm,hsome,?_,rfl⟩
    simp only [List.length_append] at hfull ⊢
    omega

theorem submit_other (e : Engine) (request : Packet) (hdata : request.mt ≠ mtData)
    (hcommand : request.mt ≠ mtCommand) : e.submitPacket request = ⟨.err,e,[]⟩ := by
  unfold submitPacket
  rw [handle_packet_other e.device request hdata hcommand]
  exact if_pos ⟨rfl,rfl,rfl⟩

theorem process_range_data_produced (e : Engine) (i : Fin maxSessions) :
    (e.processRangeData i).produced =
      ((Exchange.start e.device).emitRangingStream i).2.accepted := by
  unfold processRangeData
  cases (Exchange.start e.device).emitRangingStream i with
  | mk rc x =>
    cases rc with
    | err => rfl
    | ok =>
      dsimp only
      split <;> rfl

theorem process_data_transfer_produced (e e' : Engine) (h : e'.device = e.device)
    (i : Fin maxSessions) :
    (e'.processDataTransfer i).produced = (e.processDataTransfer i).produced := by
  unfold processDataTransfer
  rw [h]
  dsimp only
  split
  · rfl
  cases (Exchange.start e.device).progressDataTransfer i with
  | mk rc x =>
    cases rc with
    | err => rfl
    | ok =>
      dsimp only
      split <;> split <;> rfl

theorem process_ready_event_produced (e e' : Engine) (h : e'.device = e.device)
    (event : ScheduledEvent) :
    (e'.processReadyEvent event).produced = (e.processReadyEvent event).produced := by
  unfold processReadyEvent
  rw [h]
  cases event.type with
  | none => rfl
  | rangeData =>
    cases e.device.findSession event.sessionId with
    | none => rfl
    | some i =>
      dsimp only
      rw [process_range_data_produced, process_range_data_produced, h]
  | dataTransfer =>
    cases e.device.findSession event.sessionId with
    | none => rfl
    | some i => exact process_data_transfer_produced e e' h i

theorem tick_produced (e e' : Engine) (h : e'.device = e.device) (elapsedMs : UInt32) :
    (e'.tick elapsedMs).produced = (e.tick elapsedMs).produced := by
  unfold tick
  rw [h]
  dsimp only
  cases (e.device.tickEvents elapsedMs).dequeueReadyEvent with
  | none => rfl
  | some ready =>
    exact process_ready_event_produced ⟨ready.2,e.outboundPackets⟩ ⟨ready.2,e'.outboundPackets⟩
      rfl ready.1

end Engine

theorem resumed_eq (d : Device) (type : EventType) (i : Fin maxSessions) :
    ∃ events, d.resumed type i = d.withEvents events := by
  unfold Device.resumed Device.scheduleEvent
  split_ifs <;> exact ⟨_,rfl⟩

theorem resumed_sessions (d : Device) (type : EventType) (i : Fin maxSessions) :
    (d.resumed type i).sessions = d.sessions := by
  rcases resumed_eq d type i with ⟨events,hresumed⟩
  rw [hresumed]
  rfl

theorem resumed_frame (d : Device) (type : EventType) (i : Fin maxSessions) :
    (d.resumed type i).scenario = d.scenario ∧ (d.resumed type i).profile = d.profile ∧
      (d.resumed type i).pendingNotifications = d.pendingNotifications := by
  rcases resumed_eq d type i with ⟨events,hresumed⟩
  rw [hresumed]
  exact ⟨rfl,rfl,rfl⟩

theorem fired_frame {d d' : Device} {event : ScheduledEvent} {flushes : Bool}
    {ns : List Packet} (h : Fired d event flushes ns d') : d'.scenario = d.scenario ∧
      d'.profile = d.profile ∧ d'.pendingNotifications = d.pendingNotifications := by
  cases h with
  | unmatched _ => exact ⟨rfl,rfl,rfl⟩
  | transferIdle _ _ _ _ => exact ⟨rfl,rfl,rfl⟩
  | rangingFailed i _ _ _ _ ranged => exact ranged_frame ranged
  | rangingOver i _ _ _ _ ranged _ => exact ranged_frame ranged
  | rangingOn i _ d' _ _ ranged _ =>
    obtain ⟨hscenario,hprofile,hpending⟩ := resumed_frame d' .rangeData i
    rw [hscenario, hprofile, hpending]
    exact ranged_frame ranged
  | transferFailed i _ _ _ _ _ transferred => exact transferred_frame transferred
  | transferOver i _ _ _ _ _ transferred _ => exact transferred_frame transferred
  | transferOn i _ d' _ _ _ transferred _ =>
    obtain ⟨hscenario,hprofile,hpending⟩ := resumed_frame d' .dataTransfer i
    rw [hscenario, hprofile, hpending]
    exact transferred_frame transferred

theorem ticked_frame {d d' : Device} {elapsedMs : UInt32} {flushes : Bool}
    {ns : List Packet} (h : Ticked d elapsedMs flushes ns d') : d'.scenario = d.scenario ∧
      d'.profile = d.profile ∧ d'.pendingNotifications = d.pendingNotifications := by
  cases h with
  | waiting _ => exact ⟨rfl,rfl,rfl⟩
  | served event d₁ _ _ _ ready fired =>
    obtain ⟨-,rfl⟩ := Device.dequeue_ready_event_some ready
    obtain ⟨hscenario,hprofile,hpending⟩ := fired_frame fired
    exact ⟨hscenario,hprofile,hpending⟩

end UciSim
