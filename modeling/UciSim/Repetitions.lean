import UciSim.MessageLedgers

/-!
# Repetitions of data messages

The session remembers a message when it takes it. A stop cancels the transfer, and
a full event queue gives it up, without making the session forget; the message is
then answered as a repetition of one that was never transmitted.
-/

set_option autoImplicit false

namespace UciSim

open Exchange

/-- The event that is ready after the elapsed time, if it ends a transfer, finds room for the
completion. -/
def Device.CompletionRoom (d : Device) (elapsedMs : UInt32) : Prop :=
  ∀ event ∈ (d.tickEvents elapsedMs).scheduledEvents.find? (fun event => event.delayMs == 0),
    ∀ i, d.Completes event i → d.pendingNotifications.length+2 ≤ maxPendingNotifications

/-- A message that is transmitted once finds room for its completion. -/
def Device.AtOnceRoom (d : Device) (request : Packet) : Prop :=
  ∀ i, d.AdmitsData request i → ¬ (d.sessions i).Remembers request →
    (d.sessions i).getDataRepetitionCount = 0 →
      d.pendingNotifications.length+2 ≤ maxPendingNotifications

/-- The packet stops no transfer under way and gives up no new message. -/
def Device.KeepsMessages (d : Device) (request : Packet) : Prop :=
  (∀ i, Moves d request sessionStop i → (d.sessions i).dataTransferInProgress = false) ∧
    ¬ d.GivesUpData request

/-- No message is lost to the host: the packet keeps the messages, and with deferred
notifications a completion finds room. -/
def Run.KeepsMessages (r : Run) : Op → Prop
  | .submit request => r.engine.device.KeepsMessages request ∧
      (r.engine.device.scenario = .delayedNotifications → request.mt = mtData →
        r.engine.device.AtOnceRoom request) ∧
      ∀ closed, r.engine.closing request = some closed →
        closed.device.scenario = .delayedNotifications → closed.device.CompletionRoom 0
  | .tick elapsedMs => r.engine.device.scenario = .delayedNotifications →
      r.engine.device.CompletionRoom elapsedMs
  | .dequeue => True

instance (d : Device) (elapsedMs : UInt32) : Decidable (d.CompletionRoom elapsedMs) :=
  inferInstanceAs (Decidable (∀ event, event ∈ List.find? _ _ → _))

instance (d : Device) (request : Packet) : Decidable (d.AtOnceRoom request) :=
  inferInstanceAs (Decidable (∀ _, _))

instance (d : Device) (request : Packet) : Decidable (d.KeepsMessages request) :=
  inferInstanceAs (Decidable (_ ∧ _))

instance (r : Run) : (op : Op) → Decidable (r.KeepsMessages op)
  | .submit request =>
    have : Decidable (∀ closed, r.engine.closing request = some closed →
        closed.device.scenario = .delayedNotifications → closed.device.CompletionRoom 0) :=
      inferInstanceAs (Decidable (∀ closed, closed ∈ r.engine.closing request → _))
    inferInstanceAs (Decidable (_ ∧ _ ∧ _))
  | .tick elapsedMs => inferInstanceAs (Decidable (_ → r.engine.device.CompletionRoom elapsedMs))
  | .dequeue => isTrue trivial

def Run.produces (r : Run) : Op → List Packet
  | .submit request => (r.engine.submitPacket request).produced
  | .tick elapsedMs => (r.engine.tick elapsedMs).produced
  | .dequeue => []

def Run.offered (r : Run) (op : Op) (i : Fin maxSessions) (ledger : MessageLedger) :
    MessageLedger :=
  match op with
  | .submit request => ledger.offered r.engine.device request i
  | _ => ledger

/-- A run together with a ledger for the session in each slot. -/
structure Watch where
  run : Run
  ledgers : Fin maxSessions → MessageLedger

namespace Watch

def init (profile : Profile) (scenario : Scenario) : Watch :=
  ⟨Run.init profile scenario,fun _ => .empty⟩

/-- A ledger ends with its session. -/
def step (w : Watch) (op : Op) : Watch where
  run := w.run.step op
  ledgers i :=
    let session := (w.run.step op).engine.device.sessions i
    if session.allocated = false then .empty
    else (w.run.offered op i (w.ledgers i)).observeAll session.sessionId (w.run.produces op)

abbrev reached (profile : Profile) (scenario : Scenario) (ops : List Op) : Watch :=
  Runs.run step (init profile scenario) ops

theorem reached_run (profile : Profile) (scenario : Scenario) (ops : List Op) :
    (reached profile scenario ops).run = Run.reached profile scenario ops :=
  Runs.run_map (f := Watch.run) (fun _ _ => rfl) _ ops

end Watch

section

variable {d : Device} {request : Packet} {ledger : MessageLedger} {j : Fin maxSessions}

theorem offered_taken {i : Fin maxSessions} (hmt : request.mt = mtData)
    (admits : d.AdmitsData request i) (hnew : ¬ (d.sessions i).Remembers request)
    (hrc : (d.handlePacket request).1 = .ok) :
    (ledger.offered d request i).taken = some request.dataKey :=
  congrArg MessageLedger.taken (if_pos (takes_of_fresh hmt admits hnew hrc))

theorem once_tracked {i : Fin maxSessions} (admits : d.AdmitsData request i)
    (htaken : (ledger.offered d request i).taken = some request.dataKey) {packets : List Packet}
    (hreported : dataTransferStatusNotification (readU32Le request.payload 0)
      (readU16Le request.payload 12) dataTransferStatusOk 1 ∈ packets) :
    Tracked ((d.sessions i).rememberRequest request)
      ((ledger.offered d request i).observeAll (d.sessions i).sessionId packets) := by
  rcases Device.find_session_some admits.2.2.1 with ⟨hallocated,hid⟩
  constructor
  · intro hfree
    exact absurd (hfree.symm.trans hallocated) (by decide)
  · intro _
    refine Or.inl (MessageLedger.observe_all_reported hreported htaken ?_)
    rw [hid]
    exact completion_reports _ _ 1

theorem begun_tracked {i : Fin maxSessions} (admits : d.AdmitsData request i)
    (htaken : (ledger.offered d request i).taken = some request.dataKey) (sessionId : UInt32)
    (packets : List Packet) :
    Tracked ((d.sessions i).beginRequest request)
      ((ledger.offered d request i).observeAll sessionId packets) := by
  constructor
  · intro hfree
    exact absurd (hfree.symm.trans (Device.find_session_some admits.2.2.1).1) (by decide)
  · intro _
    exact Or.inr ⟨rfl,rfl,(MessageLedger.observe_all_taken packets).trans htaken⟩

theorem data_tracked (hmt : request.mt = mtData) (hgives : ¬ d.GivesUpData request)
    (hroom : d.AtOnceRoom request) (h : Tracked (d.sessions j) ledger) {packets : List Packet}
    (hpackets : ∀ p ∈ (d.handlePacket request).2.accepted, p ∈ packets) :
    Tracked ((d.handlePacket request).2.device.sessions j)
      ((ledger.offered d request j).observeAll
        ((d.handlePacket request).2.device.sessions j).sessionId packets) := by
  rcases data_handled hmt with ⟨hrc,hsessions,haccepted⟩
  have hfailed : (d.handlePacket request).1 = .err → ledger.offered d request j = ledger :=
    fun herr => if_neg fun htakes => absurd (htakes.2.2.1.symm.trans herr) (by decide)
  have hother : ∀ i, d.AdmitsData request i → j ≠ i → ledger.offered d request j = ledger :=
    fun i hi hj => if_neg fun htakes => hj (Option.some.inj (htakes.2.1.symm.trans hi.2.2.1))
  rw [hsessions]
  rw [haccepted] at hpackets
  have houtcome := data_message_outcome d request
  generalize (start d).handleDataMessageSend request = outcome at houtcome hrc hpackets
  cases houtcome with
  | ignored =>
    rw [hfailed hrc]
    exact h.observed _ packets
  | refused =>
    rw [hfailed hrc]
    exact h.observed _ packets
  | repeated i admits =>
    rw [completion_sessions]
    show Tracked (d.sessions j) _
    by_cases hj : j = i
    · subst hj
      exact (h.offered_idle admits.2.2.2.2 d request j).observed _ packets
    · rw [hother i admits hj]
      exact h.observed _ packets
  | completed i admits hnew once =>
    have hfits := completion_room (x := (start d).setSession i
      ((d.sessions i).rememberRequest request)) (readU32Le request.payload 0)
      (readU16Le request.payload 12) dataTransferStatusOk (hroom i admits hnew once)
    rw [hfits.2] at hpackets
    rw [completion_sessions]
    show Tracked ((d.setSession i _).sessions j) (MessageLedger.observeAll
      ((d.setSession i _).sessions j).sessionId _ packets)
    by_cases hj : j = i
    · subst hj
      rw [Device.setSession_same]
      refine once_tracked admits (offered_taken hmt admits hnew (hrc.trans hfits.1)) ?_
      exact hpackets _ (List.mem_append_right _ (List.mem_cons_of_mem _ List.mem_cons_self))
    · rw [Device.setSession_other _ _ hj, hother i admits hj]
      exact h.observed _ packets
  | begun i delayMs admits hnew =>
    show Tracked ((d.setSession i _).sessions j) (MessageLedger.observeAll
      ((d.setSession i _).sessions j).sessionId _ packets)
    by_cases hj : j = i
    · subst hj
      rw [Device.setSession_same]
      exact begun_tracked admits (offered_taken hmt admits hnew hrc) _ packets
    · rw [Device.setSession_other _ _ hj, hother i admits hj]
      exact h.observed _ packets
  | unscheduled i admits hnew repeats full =>
    exact absurd ⟨hmt,i,admits,hnew,repeats,full⟩ hgives

theorem command_tracked (hmt : request.mt = mtCommand)
    (hstops : ∀ i, Moves d request sessionStop i → (d.sessions i).dataTransferInProgress = false)
    (h : Tracked (d.sessions j) ledger) :
    Tracked ((d.handlePacket request).2.device.sessions j) ledger := by
  rcases handle_packet_served d request (Or.inr hmt) with ⟨rc,response,posting,d',hserved,hx⟩
  rw [hx, finalize_sessions]
  cases hserved with
  | data _ _ mt _ => exact absurd (mt.symm.trans hmt) (by decide)
  | command response ns errors d' _ _ change _ =>
    have hmessages := change_messages hmt change j
    have hposted : (posted d' (some response) (.delivered (ns ++ errors))).device.sessions =
        d'.sessions := by
      rw [← finalize_sessions _ 0, posted_finalized]
      rfl
    rw [hposted]
    generalize d'.sessions j = session at hmessages ⊢
    cases hmessages with
    | kept _ same => exact h.same same
    | opened sessionId free =>
      refine .forgotten ledger ?_
      rw [Device.freshSession, store_defaults_eq]
      exact h.fresh free
    | cleared => exact .forgotten ledger rfl
    | stopped _ stops allocated messages =>
      exact .completed h.fresh (h.idle (hstops j stops)) allocated messages

theorem packet_tracked (hkeeps : d.KeepsMessages request)
    (hroom : request.mt = mtData → d.AtOnceRoom request) (h : Tracked (d.sessions j) ledger)
    (packets : List Packet) (hpackets : ∀ p ∈ (d.handlePacket request).2.accepted, p ∈ packets) :
    Tracked ((d.handlePacket request).2.device.sessions j)
      ((ledger.offered d request j).observeAll
        ((d.handlePacket request).2.device.sessions j).sessionId packets) := by
  by_cases hdata : request.mt = mtData
  · exact data_tracked hdata hkeeps.2 (hroom hdata) h hpackets
  · have hoffered : ledger.offered d request j = ledger :=
      if_neg fun htakes => hdata htakes.1
    rw [hoffered]
    refine Tracked.observed ?_ _ packets
    by_cases hcommand : request.mt = mtCommand
    · exact command_tracked hcommand hkeeps.1 h
    · rw [handle_packet_other d request hdata hcommand]
      exact h

theorem event_tracked {event : ScheduledEvent} {ns : List Packet} {session : Session}
    (hmessages : EventMessages d event ns j session) {waiting : List Packet}
    (hroom : d.Completes event j → waiting.length+2 ≤ maxPendingNotifications)
    (h : Tracked (d.sessions j) ledger) :
    Tracked session (ledger.observeAll session.sessionId
      (Mailbox.queueAll maxPendingNotifications ⟨none,waiting,[]⟩ ns).accepted) := by
  cases hmessages with
  | kept same => exact (h.same same).observed _ _
  | completed txCount completes allocated sessionId messages reports =>
    have hfits : waiting.length+ns.length ≤ maxPendingNotifications := by
      rw [reports]
      exact hroom completes
    rw [Mailbox.queueAll_room _ _ _ hfits]
    show Tracked session (ledger.observeAll session.sessionId ns)
    refine .completed (h.observed session.sessionId ns).fresh (fun hlast => ?_) allocated messages
    rcases h.covered hlast with hdone | ⟨-,hsequence,htaken⟩
    · exact MessageLedger.observe_all_completed ns hdone
    · have hreports : Packet.ReportsOk (dataTransferStatusNotification (d.sessions j).sessionId
          (d.sessions j).dataTransferSequence dataTransferStatusOk txCount) session.sessionId
          (d.sessions j).lastKey.1 := by
        rw [sessionId, hsequence]
        exact completion_reports _ _ txCount
      refine MessageLedger.observe_all_reported ?_ htaken hreports
      rw [reports]
      exact List.mem_cons_of_mem _ List.mem_cons_self

theorem tick_session_id (d : Device) (l : Lines) (elapsedMs : UInt32) :
    (((d.carrying l).tick elapsedMs).engine.device.sessions j).sessionId =
      (d.sessions j).sessionId := by
  rcases Engine.tick_ticked d l elapsedMs with ⟨flushes,ns,d',hticked,hengine,-⟩
  rw [hengine]
  show (d'.sessions j).sessionId = (d.sessions j).sessionId
  cases hticked with
  | waiting => rfl
  | served event d₁ _ _ _ ready fired =>
    rcases Device.dequeue_ready_event_some ready with ⟨-,rfl⟩
    exact (fired_messages fired j).same_id

theorem tick_tracked (d : Device) (l : Lines) (elapsedMs : UInt32)
    (hroom : (d.withPending l.waiting).CompletionRoom elapsedMs)
    (h : Tracked (d.sessions j) ledger) :
    Tracked (((d.carrying l).tick elapsedMs).engine.device.sessions j)
      (ledger.observeAll (((d.carrying l).tick elapsedMs).engine.device.sessions j).sessionId
        ((d.carrying l).tick elapsedMs).produced) := by
  rcases Engine.tick_ticked d l elapsedMs with ⟨flushes,ns,d',hticked,hengine,hproduced⟩
  rw [hengine, hproduced]
  show Tracked (d'.sessions j) (ledger.observeAll (d'.sessions j).sessionId _)
  cases hticked with
  | waiting => exact h.observed _ _
  | served event d₁ _ _ _ ready fired =>
    rcases Device.dequeue_ready_event_some ready with ⟨hready,rfl⟩
    exact event_tracked (fired_messages fired j) (hroom event hready j) h

end

namespace Watch

/-- What every uncongested call that keeps the messages keeps. -/
structure Accounted (w : Watch) : Prop where
  flowing : Run.Flowing w.run.engine.device
  tracked : ∀ i, Tracked (w.run.engine.device.sessions i) (w.ledgers i)

theorem Accounted.init (profile : Profile) (scenario : Scenario) :
    (Watch.init profile scenario).Accounted where
  flowing := ⟨Nat.zero_le _,Or.inr rfl⟩
  tracked _ := .forgotten _ rfl

theorem completion_room_of {d : Device} {elapsedMs : UInt32} (h : d.Prompt)
    (hdeferred : d.scenario = .delayedNotifications → d.CompletionRoom elapsedMs) :
    d.CompletionRoom elapsedMs := by
  rcases h with hs | hempty
  · exact hdeferred hs
  · intro event _ i _
    rw [hempty]
    decide

theorem at_once_room_of {d : Device} {request : Packet} (h : d.Prompt)
    (hdeferred : d.scenario = .delayedNotifications → d.AtOnceRoom request) :
    d.AtOnceRoom request := by
  rcases h with hs | hempty
  · exact hdeferred hs
  · intro i _ _ _
    rw [hempty]
    decide

theorem submit_tracked {e : Engine} {request : Packet} {ledger : MessageLedger}
    {j : Fin maxSessions} (hkeeps : e.device.KeepsMessages request)
    (hroom : request.mt = mtData → e.device.AtOnceRoom request)
    (hclosing : ∀ closed, e.closing request = some closed → closed.device.CompletionRoom 0)
    (hout : e.outboundPackets.length ≤ maxOutboundPackets)
    (h : Tracked (e.device.sessions j) ledger) :
    Tracked ((e.submitPacket request).engine.device.sessions j)
      ((ledger.offered e.device request j).observeAll
        ((e.submitPacket request).engine.device.sessions j).sessionId
        (e.submitPacket request).produced) := by
  have hcases := Engine.submit_cases e request (e.device.handlePacket request).1
    (e.device.handlePacket request).2.device (e.device.handlePacket request).2.result.response
    (e.device.handlePacket request).2.mail rfl
  have hpacket := packet_tracked hkeeps hroom h
    ((e.device.handlePacket request).2.result.response.toList ++
      (e.device.handlePacket request).2.accepted) fun p hp => List.mem_append_right _ hp
  rcases hcases with ⟨-,-,-,houtcome⟩ | ⟨sent,-,-,-,-,houtcome⟩ | ⟨hspeaks,hfits,houtcome⟩
  · rw [houtcome]
    exact hpacket
  · rw [houtcome]
    exact hpacket
  · have hnoisy : ¬ ((e.device.handlePacket request).1 = .err ∧ e.handed request = []) := by
      rintro ⟨herr,hsilent⟩
      rcases List.append_eq_nil_iff.mp hsilent with ⟨hresponse,hslot⟩
      exact hspeaks ⟨herr,Option.toList_eq_nil_iff.mp hresponse,Option.toList_eq_nil_iff.mp hslot⟩
    have hroom' := hclosing _ (Engine.closing_fits hnoisy (hfits hout))
    have hid := tick_session_id (j := j) (e.device.handlePacket request).2.device
      (flushedLines (e.device.handlePacket request).2.device.scenario
        ⟨(e.device.handlePacket request).2.device.pendingNotifications,
          e.outboundPackets ++ e.handed request⟩) 0
    have hticked := tick_tracked (j := j) _ _ 0 hroom' hpacket
    rw [hid, ← MessageLedger.observe_all_append] at hticked
    rw [houtcome]
    show Tracked _ (MessageLedger.observeAll ((Engine.tick _ 0).engine.device.sessions j).sessionId
      (ledger.offered e.device request j) _)
    rw [← hid] at hticked
    exact hticked

/-- A session whose slot is free needs no ledger. -/
theorem of_slot (session : Session) {ledger : MessageLedger} (h : Tracked session ledger) :
    Tracked session (if session.allocated = false then .empty else ledger) := by
  split
  · rename_i hfree
    exact .forgotten _ (h.fresh hfree)
  · exact h

theorem Accounted.step {w : Watch} {op : Op} (h : w.Accounted) (hroom : w.run.Uncongested op)
    (hkeeps : w.run.KeepsMessages op) : (w.step op).Accounted where
  flowing := Run.step_flowing h.flowing hroom
  tracked i := by
    refine of_slot ((w.run.step op).engine.device.sessions i) ?_
    have hprompt := h.flowing.prompt
    cases op with
    | dequeue =>
      rw [Run.step_dequeue_device]
      exact h.tracked i
    | tick elapsedMs =>
      exact tick_tracked w.run.engine.device w.run.engine.lines elapsedMs
        (completion_room_of hprompt hkeeps) (h.tracked i)
    | submit request =>
      have houtbound : w.run.engine.outboundPackets.length ≤ 8 := hroom
      refine submit_tracked hkeeps.1 (fun hdata => ?_) (fun closed hclosed => ?_)
        (houtbound.trans (by decide)) (h.tracked i)
      · exact at_once_room_of hprompt fun hs => hkeeps.2.1 hs hdata
      · exact completion_room_of (Run.closing_flowing h.flowing hroom hclosed).prompt
          (hkeeps.2.2 closed hclosed)

end Watch

/-- In every uncongested run that keeps its messages, a data message that is answered as a
repetition carries the number and length of one the same session has reported complete. -/
theorem repetitions_completed (profile : Profile) (scenario : Scenario) (ops : List Op)
    (h : Run.Along profile scenario (fun r op => r.Uncongested op ∧ r.KeepsMessages op) ops)
    (request : Packet)
    (hack : (Run.reached profile scenario ops).engine.device.Acknowledges request) :
    ∃ i, (Run.reached profile scenario ops).engine.device.findSession
        (readU32Le request.payload 0) = some i ∧
      request.dataKey ∈ ((Watch.reached profile scenario ops).ledgers i).completed := by
  have hwatched : Runs.Along Watch.step
      (fun w op => w.run.Uncongested op ∧ w.run.KeepsMessages op) (Watch.init profile scenario)
      ops := Runs.along_map (f := Watch.run)
        (fun r op => r.Uncongested op ∧ r.KeepsMessages op) (fun _ _ => rfl)
        (Watch.init profile scenario) ops h
  have haccounted := Runs.invariant_of_steps (I := Watch.Accounted)
    (fun _ _ hw hgood => hw.step hgood.1 hgood.2) _ ops (Watch.Accounted.init profile scenario)
    hwatched
  rcases acknowledges_remembered hack with ⟨i,admits,known⟩
  rcases Session.remembers_key.mp known with ⟨hlast,hkey⟩
  have htracked := haccounted.tracked i
  rw [Watch.reached_run] at htracked
  refine ⟨i,admits.2.2.1,?_⟩
  rw [← hkey]
  exact htracked.idle admits.2.2.2.2 hlast

/-- One repetition, and a message that is sent again after what comes between. -/
def resentRun (between : List Op) : List Op := [.submit (initRequest 1),
  .submit (setAppConfigRequest 1 1 [appConfigDataRepetitionCount,1,1]),
  .submit (startRequest 1), .submit (dataMessage 1 5)] ++ between

/-- The transfer runs to its end, and the session answers the message as a repetition. -/
theorem transmitted_message_repeated :
    ∃ i, (Run.reached defaultProfile .default
        (resentRun [.tick 2000, .tick 2000])).engine.device.findSession 1 = some i ∧
      (dataMessage 1 5).dataKey ∈ ((Watch.reached defaultProfile .default
        (resentRun [.tick 2000, .tick 2000])).ledgers i).completed :=
  repetitions_completed defaultProfile .default (resentRun [.tick 2000, .tick 2000])
    (by decide +kernel) (dataMessage 1 5) (by decide +kernel)

/-- The session is stopped before the first transmission and started again, and answers the
message as a repetition. -/
theorem cancelled_message_repeated :
    Run.Along defaultProfile .default Run.Uncongested
        (resentRun [.submit (stopRequest 1), .submit (startRequest 1)]) ∧
      (Run.reached defaultProfile .default (resentRun [.submit (stopRequest 1),
        .submit (startRequest 1)])).engine.device.Acknowledges (dataMessage 1 5) ∧
      ∀ i, ((Watch.reached defaultProfile .default (resentRun [.submit (stopRequest 1),
        .submit (startRequest 1)])).ledgers i).completed = [] := by
  decide +kernel

end UciSim
