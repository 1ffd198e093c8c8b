import UciSim.EngineRuns

/-!
# When a tick fails

A tick fails when the event it serves finds no room for its notifications in the
pending queue, or reports a measurement whose template has no legal length.
Scheduling the next event never fails, since the served one made room for it.
-/

set_option autoImplicit false

namespace UciSim

open Exchange

/-- The template of a range data notification has a length a packet can hold. -/
def Profile.BuildsRangeData (profile : Profile) : Prop :=
  profile.rangeDataPayloadLen ≠ 0 ∧ profile.rangeDataPayloadLen.toNat ≤ maxPayload

instance (profile : Profile) : Decidable profile.BuildsRangeData :=
  inferInstanceAs (Decidable (_ ∧ _))

namespace Device

/-- What the policy of the session decides about its next sample. -/
def samplePolicy (d : Device) (i : Fin maxSessions) : PolicyResult :=
  evaluateRangeNotificationPolicy (d.sessions i) (initRangingSample d.profile (d.sessions i))

/-- The session at slot `i` is due a measurement. -/
def Measures (d : Device) (i : Fin maxSessions) : Prop :=
  d.scenario = .rangingStream ∧ (d.sessions i).Streaming

instance (d : Device) (i : Fin maxSessions) : Decidable (d.Measures i) :=
  inferInstanceAs (Decidable (_ ∧ _))

/-- The notifications of a measurement find room. -/
def RangingFits (d : Device) (i : Fin maxSessions) : Prop :=
  d.Measures i →
    if (d.sessions i).budgetSpent then d.pendingNotifications.length < maxPendingNotifications
    else ((d.samplePolicy i).shouldEmitNotification = true →
        d.profile.BuildsRangeData ∧ d.pendingNotifications.length < maxPendingNotifications) ∧
      (((d.sessions i).countMeasurement (d.samplePolicy i)).budgetSpent = true →
        d.pendingNotifications.length+(d.samplePolicy i).shouldEmitNotification.toNat <
          maxPendingNotifications)

/-- The notifications of a transmission find room: one for a repetition, two for the last. -/
def TransferFits (d : Device) (i : Fin maxSessions) : Prop :=
  (d.sessions i).state = sessionStateActive → (d.sessions i).dataTransferInProgress = true →
    d.pendingNotifications.length+
      (if (d.sessions i).dataTransferRepetitionsRemaining > 0 then 1 else 2) ≤
        maxPendingNotifications

def EventFits (d : Device) (event : ScheduledEvent) : Prop :=
  ∀ i, d.findSession event.sessionId = some i →
    (event.type = .rangeData → d.RangingFits i) ∧ (event.type = .dataTransfer → d.TransferFits i)

/-- The event that is ready after the elapsed time, if any, finds room. -/
def TickFits (d : Device) (elapsedMs : UInt32) : Prop :=
  ∀ event ∈ (d.tickEvents elapsedMs).scheduledEvents.find? (fun event => event.delayMs == 0),
    d.EventFits event

end Device

section

variable (d : Device) (i : Fin maxSessions)

theorem finish_ranging_ok (x : Exchange) :
    (x.finishRanging i).1 = .ok ↔
      x.device.pendingNotifications.length < maxPendingNotifications := by
  rw [finish_ranging_eq, queueNotification_ok]
  rfl

theorem emit_range_data_ok (sample : Measurement) (policyResult : PolicyResult) :
    ((start d).emitRangeData sample policyResult).1 = .ok ↔
      (policyResult.shouldEmitNotification = true →
        d.profile.BuildsRangeData ∧ d.pendingNotifications.length < maxPendingNotifications) := by
  by_cases hemit : policyResult.shouldEmitNotification = true
  · rw [emit_range_data_eq d sample policyResult hemit]
    by_cases hlen : d.profile.rangeDataPayloadLen = 0 ∨
        d.profile.rangeDataPayloadLen.toNat > maxPayload
    · have hbroken : ¬ d.profile.BuildsRangeData :=
        fun h => hlen.elim h.1 (Nat.not_lt.mpr h.2)
      rw [build_range_data_none _ _ _ _ hlen]
      simp [hemit, hbroken]
    · have hbuilds : d.profile.BuildsRangeData :=
        ⟨(not_or.mp hlen).1,Nat.le_of_not_lt (not_or.mp hlen).2⟩
      rcases build_range_data_some d.profile
        { sample with sequenceNumber := d.nextRangingSequence } policyResult
        d.profile.rangeDataNotificationOid hlen with ⟨payload,hbuild⟩
      rw [hbuild]
      dsimp only
      rw [queueNotification_ok]
      simp only [hemit, hbuilds, true_and, forall_const]
      rfl
  · have hsilent : (start d).emitRangeData sample policyResult = (.ok,start d) := if_neg hemit
    simp [hsilent, hemit]

theorem queue_ok_pending {x : Exchange} {n : Packet} (h : (x.queueNotification n).1 = .ok) :
    (x.queueNotification n).2.device.pendingNotifications =
      x.device.pendingNotifications ++ [n] := by
  have hroom := (queueNotification_ok x n).mp h
  rw [queueNotification, if_neg (Nat.not_le.mpr hroom)]

theorem emit_range_data_pending (sample : Measurement) (policyResult : PolicyResult)
    (h : ((start d).emitRangeData sample policyResult).1 = .ok) :
    ((start d).emitRangeData sample policyResult).2.device.pendingNotifications.length =
      d.pendingNotifications.length+policyResult.shouldEmitNotification.toNat := by
  by_cases hemit : policyResult.shouldEmitNotification = true
  · rw [emit_range_data_eq d sample policyResult hemit] at h ⊢
    split at h
    · cases h
    · rw [queue_ok_pending h, List.length_append, hemit]
      rfl
  · have hsilent : (start d).emitRangeData sample policyResult = (.ok,start d) := if_neg hemit
    rw [hsilent]
    simp [hemit, start]

theorem emit_ranging_stream_ok :
    ((start d).emitRangingStream i).1 = .ok ↔ d.RangingFits i := by
  unfold emitRangingStream Device.RangingFits
  dsimp only
  rw [show (start d).device = d from rfl]
  split
  · rename_i hidle
    have hmeasures : ¬ d.Measures i := by
      unfold Device.Measures Session.Streaming
      tauto
    simp [hmeasures]
  rename_i hstreams
  have hmeasures : d.Measures i := by
    unfold Device.Measures Session.Streaming
    tauto
  rw [forall_prop_of_true hmeasures]
  by_cases hspent : (d.sessions i).budgetSpent = true
  · rw [if_pos hspent, if_pos hspent, finish_ranging_ok]
    rfl
  rw [if_neg hspent, if_neg hspent]
  rw [show evaluateRangeNotificationPolicy (d.sessions i)
    (initRangingSample d.profile (d.sessions i)) = d.samplePolicy i from rfl]
  have hok := emit_range_data_ok d (initRangingSample d.profile (d.sessions i)) (d.samplePolicy i)
  have hpending := emit_range_data_pending d (initRangingSample d.profile (d.sessions i))
    (d.samplePolicy i)
  generalize (start d).emitRangeData _ (d.samplePolicy i) = emitted at hok hpending ⊢
  rw [← hok]
  rcases emitted with ⟨rc,x⟩
  cases rc with
  | err => simp
  | ok =>
    rw [← hpending rfl]
    dsimp only
    split
    · rename_i hdone
      rw [finish_ranging_ok, forall_prop_of_true hdone]
      simp [setSession]
    · rename_i hgoes
      simp [hgoes]

theorem queue_pair_ok (x : Exchange) (n m : Packet) :
    (match x.queueNotification n with
      | (.err,x) => (Rc.err,x)
      | (.ok,x) => x.queueNotification m).1 = .ok ↔
      x.device.pendingNotifications.length+2 ≤ maxPendingNotifications := by
  unfold queueNotification
  by_cases hfull : x.device.pendingNotifications.length ≥ maxPendingNotifications
  · rw [if_pos hfull]
    simp
    omega
  · rw [if_neg hfull]
    dsimp only
    split
    · rename_i hfull'
      simp only [List.length_append, List.length_singleton] at hfull'
      simp
      omega
    · rename_i hroom
      simp only [List.length_append, List.length_singleton] at hroom
      simp
      omega

theorem progress_data_transfer_ok (ha : (d.sessions i).allocated = true)
    (hactive : (d.sessions i).state = sessionStateActive)
    (hp : (d.sessions i).dataTransferInProgress = true) :
    ((start d).progressDataTransfer i).1 = .ok ↔ d.TransferFits i := by
  have hserved :
      ¬ (!(d.sessions i).allocated || !(d.sessions i).dataTransferInProgress) = true := by
    rw [ha, hp]
    decide
  unfold progressDataTransfer Device.TransferFits
  dsimp only
  rw [show (start d).device = d from rfl, forall_prop_of_true hactive, forall_prop_of_true hp,
    if_neg hserved]
  by_cases hremaining : (d.sessions i).dataTransferRepetitionsRemaining > 0
  · rw [if_pos hremaining, if_pos hremaining]
    exact queueNotification_ok _ _
  · rw [if_neg hremaining, if_neg hremaining]
    exact queue_pair_ok _ _ _

end

/-- The event queue does not exceed its capacity. -/
def Device.Bounded (d : Device) : Prop := d.scheduledEvents.length ≤ maxScenarioEvents

theorem sampled_events {d d' : Device} {ns : List Packet} (h : Sampled d ns d') :
    d'.scheduledEvents = d.scheduledEvents := by
  cases h <;> rfl

/-- Serving an event schedules nothing itself. -/
theorem ranged_events {d d' : Device} {i : Fin maxSessions} {rc : Rc} {ns : List Packet}
    (h : Ranged d i rc ns d') : d'.scheduledEvents.length ≤ d.scheduledEvents.length := by
  cases h with
  | exhausted => exact List.length_filter_le _ _
  | blocked _ _ _ _ sampled => rw [sampled_events sampled]
  | measured _ d₁ _ _ _ sampled =>
    rw [← sampled_events sampled]
    rfl
  | finished _ _ d₁ _ _ _ sampled =>
    rw [← sampled_events sampled]
    exact List.length_filter_le _ _
  | _ => exact Nat.le_refl _

theorem transferred_events {d d' : Device} {i : Fin maxSessions} {rc : Rc} {ns : List Packet}
    (h : Transferred d i rc ns d') : d'.scheduledEvents.length ≤ d.scheduledEvents.length := by
  cases h <;> exact Nat.le_refl _

namespace Device.Bounded

variable {d : Device}

theorem scheduled (h : d.Bounded) (type : EventType) (sessionId delayMs : UInt32) :
    (d.scheduleEvent type sessionId delayMs).2.Bounded := by
  unfold scheduleEvent
  split
  · exact h
  · split
    · exact h
    · rename_i hroom
      simp only [Bounded, List.length_append, List.length_singleton]
      omega

theorem rescheduled (h : d.Bounded) (sessionId delayMs : UInt32) :
    (d.rescheduleSessionEvent .rangeData sessionId delayMs).2.Bounded := by
  have hkept : (d.eventsWithout .rangeData sessionId).length ≤ maxScenarioEvents :=
    (List.length_filter_le _ _).trans h
  rw [reschedule_session_event_snd _ _ _ _ (by decide)]
  simp only [Bounded, withEvents_events, rescheduledEvents]
  split
  · exact hkept
  · simp only [List.length_append, List.length_singleton]
    omega

theorem reconfigured {i : Fin maxSessions} {d' : Device} (h : d.Bounded)
    (hd : Reconfigured i d d') : d'.Bounded := by
  induction hd with
  | same => exact h
  | stored _ _ _ _ _ _ _ _ ih => exact ih
  | rescheduled _ _ _ _ _ ih => exact ih.rescheduled _ _

theorem entered (h : d.Bounded) (oid : UInt8) (i : Fin maxSessions) (nextState : UInt8) :
    (d.entered oid i nextState).Bounded := by
  unfold Device.entered reactToTransition
  rw [started_eq]
  split
  · split
    · simp only [Bounded, withEvents_events, streamEvents]
      split
      · exact h
      · rename_i hroom
        simp only [List.length_append, List.length_singleton]
        have hfree := not_or.mp hroom
        omega
    · exact h
  · split
    · exact (List.length_filter_le _ _).trans h
    · exact h

theorem changed {request : Packet} {ns : List Packet} {d' : Device} (h : d.Bounded)
    (hd : Change d request ns d') : d'.Bounded := by
  cases hd with
  | housekept _ same => exact (congrArg List.length same.events).trans_le h
  | configured i _ _ _ _ steps => exact h.reconfigured steps
  | moved i => exact h.entered _ i _
  | reset => exact Nat.zero_le _
  | _ => exact h

theorem served {request : Packet} {response : Option Packet} {posting : Posting} {d' : Device}
    (h : d.Bounded) (hd : Served d request response posting d') : d'.Bounded := by
  cases hd with
  | command _ _ _ _ _ _ change _ => exact h.changed change
  | data _ _ _ change =>
    cases change with
    | begun i _ _ _ _ _ _ room =>
      simp only [Bounded, withEvents_events, List.length_append, List.length_singleton]
      omega
    | _ => exact h

theorem ranged {i : Fin maxSessions} {rc : Rc} {ns : List Packet} {d' : Device} (h : d.Bounded)
    (hd : Ranged d i rc ns d') : d'.Bounded := (ranged_events hd).trans h

theorem transferred {i : Fin maxSessions} {rc : Rc} {ns : List Packet} {d' : Device}
    (h : d.Bounded) (hd : Transferred d i rc ns d') : d'.Bounded :=
  (transferred_events hd).trans h

theorem resumed (h : d.Bounded) (type : EventType) (i : Fin maxSessions) :
    (d.resumed type i).Bounded := h.scheduled _ _ _

theorem fired {event : ScheduledEvent} {flushes : Bool} {ns : List Packet} {d' : Device}
    (h : d.Bounded) (hd : Fired d event flushes ns d') : d'.Bounded := by
  cases hd with
  | unmatched => exact h
  | transferIdle => exact h
  | rangingFailed _ _ _ _ _ ranged => exact h.ranged ranged
  | rangingOver _ _ _ _ _ ranged => exact h.ranged ranged
  | rangingOn i _ _ _ _ ranged => exact (h.ranged ranged).resumed _ i
  | transferFailed _ _ _ _ _ _ transferred => exact h.transferred transferred
  | transferOver _ _ _ _ _ _ transferred => exact h.transferred transferred
  | transferOn i _ _ _ _ _ transferred => exact (h.transferred transferred).resumed _ i

theorem ticked {elapsedMs : UInt32} {flushes : Bool} {ns : List Packet} {d' : Device}
    (h : d.Bounded) (hd : Ticked d elapsedMs flushes ns d') : d'.Bounded := by
  have haged : (d.tickEvents elapsedMs).Bounded := (List.length_map _).trans_le h
  cases hd with
  | waiting => exact haged
  | served event d₁ _ _ _ ready fired =>
    rcases Device.dequeue_ready_event_some ready with ⟨-,rfl⟩
    have hserved : Device.Bounded ((d.tickEvents elapsedMs).withEvents
        ((d.tickEvents elapsedMs).scheduledEvents.eraseP (fun event => event.delayMs == 0))) :=
      List.length_eraseP_le.trans haged
    exact hserved.fired fired

end Device.Bounded

theorem Run.reached_bounded {profile : Profile} {scenario : Scenario} (ops : List Op) :
    (Run.reached profile scenario ops).engine.device.Bounded := by
  refine Runs.invariant_of_all_steps (I := fun r : Run => r.engine.device.Bounded)
    (fun r op hr => ?_) _ ops (Nat.zero_le _)
  exact r.step_device (G := fun _ _ => True) (fun _ _ hd => hd)
    (fun _ _ _ _ _ hd _ hserved => hd.served hserved)
    (fun _ _ _ _ _ hd hticked => hd.ticked hticked) op hr fun _ _ => trivial

namespace Engine

theorem schedule_next_ok (e : Engine) (produced : List Packet) {type : EventType}
    (i : Fin maxSessions) (ht : type ≠ .none)
    (h : e.device.scheduledEvents.length < maxScenarioEvents) :
    (e.scheduleNext produced type i).rc = .ok := by
  unfold scheduleNext
  dsimp only
  rw [Device.schedule_event_room _ _ _ _ ht h]

theorem process_range_data_ok (e : Engine) (i : Fin maxSessions)
    (h : e.device.scheduledEvents.length < maxScenarioEvents) :
    (e.processRangeData i).rc = .ok ↔ e.device.RangingFits i := by
  rw [← emit_ranging_stream_ok]
  rcases emit_ranging_stream_ranged e.device i with ⟨rc,ns,d',hranged,hx⟩
  rcases ranged_frame hranged with ⟨-,-,hpending⟩
  unfold processRangeData
  rw [hx]
  cases rc with
  | err => simp
  | ok =>
    dsimp only
    rw [posted_engine e d' ns hpending, flush_lines]
    split
    · rw [schedule_next_ok _ _ i (by decide) ((ranged_events hranged).trans_lt h)]
    · rfl

theorem process_data_transfer_ok (e : Engine) (i : Fin maxSessions)
    (ha : (e.device.sessions i).allocated = true)
    (h : e.device.scheduledEvents.length < maxScenarioEvents) :
    (e.processDataTransfer i).rc = .ok ↔ e.device.TransferFits i := by
  unfold processDataTransfer
  dsimp only
  by_cases hidle : (e.device.sessions i).state ≠ sessionStateActive ∨
      (e.device.sessions i).dataTransferInProgress = false
  · rw [if_pos hidle]
    simp only [Device.TransferFits, true_iff]
    intro hactive hprogress
    rcases hidle with hidle | hidle
    · exact absurd hactive hidle
    · exact absurd (hidle.symm.trans hprogress) (by decide)
  rw [if_neg hidle]
  rcases not_or.mp hidle with ⟨hactive,hprogress⟩
  have hactive := not_not.mp hactive
  have hprogress : (e.device.sessions i).dataTransferInProgress = true := by simpa using hprogress
  rw [← progress_data_transfer_ok e.device i ha hactive hprogress]
  rcases progress_data_transfer_transferred e.device i ha hprogress with
    ⟨rc,ns,d',htransferred,hx⟩
  rcases transferred_frame htransferred with ⟨-,-,hpending⟩
  rw [hx]
  cases rc with
  | err => simp
  | ok =>
    dsimp only
    rw [posted_engine e d' ns hpending, flush_lines]
    split
    · rw [schedule_next_ok _ _ i (by decide) ((transferred_events htransferred).trans_lt h)]
    · rfl

theorem process_ready_event_ok (e : Engine) (event : ScheduledEvent)
    (h : e.device.scheduledEvents.length < maxScenarioEvents) :
    (e.processReadyEvent event).rc = .ok ↔ e.device.EventFits event := by
  unfold processReadyEvent Device.EventFits
  cases htype : event.type with
  | none => simp
  | rangeData =>
    cases hfound : e.device.findSession event.sessionId with
    | none => simp
    | some i => simp [process_range_data_ok e i h]
  | dataTransfer =>
    cases hfound : e.device.findSession event.sessionId with
    | none => simp
    | some i =>
      simp [process_data_transfer_ok e i (Device.find_session_some hfound).1 h]

/-- A tick fails exactly when the event it serves finds no room. -/
theorem tick_ok (e : Engine) (elapsedMs : UInt32) (h : e.device.Bounded) :
    (e.tick elapsedMs).rc = .ok ↔ e.device.TickFits elapsedMs := by
  unfold tick Device.TickFits
  dsimp only
  cases hready : (e.device.tickEvents elapsedMs).dequeueReadyEvent with
  | none =>
    unfold Device.dequeueReadyEvent at hready
    split at hready
    · rename_i hnone
      rw [hnone]
      simp
    · cases hready
  | some ready =>
    rcases ready with ⟨event,d₁⟩
    rcases Device.dequeue_ready_event_some hready with ⟨hfind,hd₁⟩
    have hroom : d₁.scheduledEvents.length < maxScenarioEvents := by
      have hmem := List.mem_of_find?_eq_some hfind
      have hpos := List.length_pos_of_mem hmem
      have herase := List.length_eraseP_of_mem hmem (List.find?_some hfind)
      have haged : (e.device.tickEvents elapsedMs).scheduledEvents.length ≤ maxScenarioEvents :=
        (List.length_map _).trans_le h
      rw [hd₁, Device.withEvents_events]
      omega
    rw [hfind]
    dsimp only
    rw [process_ready_event_ok ⟨d₁,e.outboundPackets⟩ event hroom, hd₁]
    have hsame : Device.EventFits ((e.device.tickEvents elapsedMs).withEvents
        ((e.device.tickEvents elapsedMs).scheduledEvents.eraseP (fun event => event.delayMs == 0)))
        event ↔ e.device.EventFits event := Iff.rfl
    simp [hsame]

end Engine

end UciSim
