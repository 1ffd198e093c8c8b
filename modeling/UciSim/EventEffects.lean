import UciSim.PacketEffects

/-!
# What one ready event can do

A ranging event takes a measurement or ends the stream, a transfer event repeats
or completes the message, and a session that goes on is scheduled again. All
notifications of an event are queued.
-/

set_option autoImplicit false

namespace UciSim

namespace Device

/-- The session at slot `i` once its stream is over. -/
def rangingFinished (d : Device) (i : Fin maxSessions) : Device :=
  (d.setSession i (d.sessions i).endStream).cancelSessionEvents (d.sessions i).sessionId

def withSequence (d : Device) (sequence : UInt32) : Device :=
  { d with nextRangingSequence := sequence }

@[simp] theorem withSequence_sessions (d : Device) (sequence : UInt32) :
    (d.withSequence sequence).sessions = d.sessions := rfl

/-- The next event of a session that goes on. -/
def resumed (d : Device) (type : EventType) (i : Fin maxSessions) : Device :=
  (d.scheduleEvent type (d.sessions i).sessionId
    ((d.sessions i).getRangingIntervalMs d.profile)).2

end Device

def Session.Streaming (session : Session) : Prop :=
  session.rangingStreamRemaining ≠ 0 ∧ session.state = sessionStateActive

instance (session : Session) : Decidable session.Streaming :=
  inferInstanceAs (Decidable (_ ∧ _))

theorem Session.streaming_iff (session : Session) :
    session.Streaming ↔
      session.rangingStreamRemaining > 0 ∧ session.state = sessionStateActive := by
  simp [Streaming, UInt8.pos_iff_ne_zero]

def idleStatus (session : Session) : Packet :=
  sessionStatusNotification session.sessionId sessionStateIdle
    reasonMaxNumberOfMeasurementsReached

/-- The sequence numbers and notifications of one sample that was not refused. -/
inductive Sampled (d : Device) : List Packet → Device → Prop where
  | silent : Sampled d [] d
  | sent (payload : List UInt8) : Sampled d
      [.notification gidSessionControl d.profile.rangeDataNotificationOid payload]
      (d.withSequence (d.nextRangingSequence+1))

inductive Ranged (d : Device) (i : Fin maxSessions) : Rc → List Packet → Device → Prop where
  | idle (h : d.scenario ≠ .rangingStream ∨ ¬ (d.sessions i).Streaming) :
      Ranged d i .ok [] d
  | exhausted (rc : Rc) (scenario : d.scenario = .rangingStream)
      (streaming : (d.sessions i).Streaming)
      (spent : (d.sessions i).budgetSpent = true)
      (room : d.pendingNotifications.length < maxPendingNotifications → rc = .ok) :
      Ranged d i rc [idleStatus (d.sessions i)] (d.rangingFinished i)
  | unbuilt (scenario : d.scenario = .rangingStream) (streaming : (d.sessions i).Streaming)
      (invalid : d.profile.rangeDataPayloadLen = 0 ∨
        d.profile.rangeDataPayloadLen.toNat > maxPayload) :
      Ranged d i .err [] (d.withSequence (d.nextRangingSequence+1))
  | blocked (ns : List Packet) (d' : Device) (scenario : d.scenario = .rangingStream)
      (streaming : (d.sessions i).Streaming) (sampled : Sampled d ns d')
      (full : maxPendingNotifications ≤ d.pendingNotifications.length) :
      Ranged d i .err ns d'
  | measured (ns : List Packet) (d' : Device) (policyResult : PolicyResult)
      (scenario : d.scenario = .rangingStream) (streaming : (d.sessions i).Streaming)
      (sampled : Sampled d ns d')
      (kept : ((d.sessions i).countMeasurement policyResult).budgetSpent = false) :
      Ranged d i .ok ns (d'.setSession i ((d.sessions i).countMeasurement policyResult))
  | finished (rc : Rc) (ns : List Packet) (d' : Device) (policyResult : PolicyResult)
      (scenario : d.scenario = .rangingStream) (streaming : (d.sessions i).Streaming)
      (sampled : Sampled d ns d')
      (spent : ((d.sessions i).countMeasurement policyResult).budgetSpent = true)
      (room : d.pendingNotifications.length+ns.length < maxPendingNotifications → rc = .ok) :
      Ranged d i rc (ns ++ [idleStatus (d.sessions i)])
        ((d'.setSession i ((d.sessions i).countMeasurement policyResult)).rangingFinished i)

inductive Transferred (d : Device) (i : Fin maxSessions) :
    Rc → List Packet → Device → Prop where
  | repeated (rc : Rc) (allocated : (d.sessions i).allocated = true)
      (inProgress : (d.sessions i).dataTransferInProgress = true)
      (remaining : (d.sessions i).dataTransferRepetitionsRemaining > 0)
      (room : d.pendingNotifications.length < maxPendingNotifications → rc = .ok) :
      Transferred d i rc
        [dataTransferStatusNotification (d.sessions i).sessionId
          (d.sessions i).dataTransferSequence dataTransferStatusRepetitionOk
          (d.sessions i).transmit.dataTransferTxCount]
        (d.setSession i (d.sessions i).repeatTransfer)
  | completed (rc : Rc) (allocated : (d.sessions i).allocated = true)
      (inProgress : (d.sessions i).dataTransferInProgress = true)
      (remaining : ¬ (d.sessions i).dataTransferRepetitionsRemaining > 0)
      (room : d.pendingNotifications.length+1 < maxPendingNotifications → rc = .ok) :
      Transferred d i rc
        (dataCompletion (d.sessions i).sessionId (d.sessions i).dataTransferSequence
          dataTransferStatusOk (d.sessions i).transmit.dataTransferTxCount)
        (d.setSession i (d.sessions i).finishTransfer)

namespace Exchange

theorem queueAll_append (x : Exchange) (ns : List Packet) (n : Packet) :
    ((x.queueAll ns).queueNotification n).2 = x.queueAll (ns ++ [n]) := by
  simp [queueAll, List.foldl_append]

theorem queueAll_mapDevice (f : Device → Device) (x : Exchange) (ns : List Packet)
    (hpending : (f x.device).pendingNotifications = x.device.pendingNotifications)
    (hframe : ∀ p, f (x.device.withPending p) = (f x.device).withPending p) :
    (x.queueAll ns).mapDevice f = (x.mapDevice f).queueAll ns := by
  have hm : (x.mapDevice f).mail = x.mail := by
    simp [mail, mapDevice, hpending]
  rw [queueAll_mail x, queueAll_mail (x.mapDevice f), hm]
  simp only [mapDevice, withMail, hframe]

theorem posted_setSession (d : Device) (i : Fin maxSessions) (session : Session)
    (ns : List Packet) :
    (posted d none (.queued ns)).setSession i session =
      posted (d.setSession i session) none (.queued ns) :=
  queueAll_mapDevice (fun d => d.setSession i session) ⟨d,⟨none,none⟩,[]⟩ ns rfl fun _ => rfl

theorem posted_rangingFinished (d : Device) (i : Fin maxSessions) (ns : List Packet) :
    (posted d none (.queued ns)).mapDevice (fun d => d.rangingFinished i) =
      posted (d.rangingFinished i) none (.queued ns) :=
  queueAll_mapDevice (fun d => d.rangingFinished i) ⟨d,⟨none,none⟩,[]⟩ ns rfl fun _ => rfl

theorem posted_device (d : Device) (ns : List Packet) :
    (posted d none (.queued ns)).device = d.withPending
      (Mailbox.queueAll maxPendingNotifications ⟨none,d.pendingNotifications,[]⟩ ns).pending :=
  congrArg Exchange.device (queueAll_mail ⟨d,⟨none,none⟩,[]⟩ ns)

theorem queue_room {x : Exchange} (n : Packet)
    (h : x.device.pendingNotifications.length < maxPendingNotifications) :
    (x.queueNotification n).1 = .ok :=
  (queueNotification_ok x n).mpr h

theorem posted_length (d : Device) (ns : List Packet) :
    (posted d none (.queued ns)).device.pendingNotifications.length ≤
      d.pendingNotifications.length+ns.length := by
  rw [posted_device]
  exact Mailbox.queueAll_length _ _ _

theorem queue_pair_room {x : Exchange} (n m : Packet)
    (h : x.device.pendingNotifications.length+1 < maxPendingNotifications) :
    (match x.queueNotification n with
      | (.err,x) => (Rc.err,x)
      | (.ok,x) => x.queueNotification m).1 = .ok := by
  have hn : x.queueNotification n = (.ok,(x.queueNotification n).2) :=
    Prod.ext (queue_room n (by omega)) rfl
  rw [hn]
  refine queue_room m ?_
  have hlen := Mailbox.queueAll_length maxPendingNotifications x.mail [n]
  rw [queueNotification_mail]
  exact Nat.lt_of_le_of_lt hlen h

theorem finish_ranging_eq (x : Exchange) (i : Fin maxSessions) :
    x.finishRanging i = (x.mapDevice (fun d => d.rangingFinished i)).queueNotification
      (idleStatus (x.device.sessions i)) := rfl

theorem finish_ranging_posted (d : Device) (i : Fin maxSessions) (ns : List Packet) :
    ∃ rc, (posted d none (.queued ns)).finishRanging i =
        (rc,posted (d.rangingFinished i) none (.queued (ns ++ [idleStatus (d.sessions i)]))) ∧
      (d.pendingNotifications.length+ns.length < maxPendingNotifications → rc = .ok) := by
  have hsession : (posted d none (.queued ns)).device.sessions i = d.sessions i := by
    rw [posted_device]
    rfl
  have hq : (posted d none (.queued ns)).finishRanging i =
      (posted (d.rangingFinished i) none (.queued ns)).queueNotification
        (idleStatus (d.sessions i)) := by
    rw [finish_ranging_eq, posted_rangingFinished, hsession]
  refine ⟨_,(hq.trans (Prod.ext rfl (queueAll_append _ ns _))),?_⟩
  intro hroom
  have hlen := posted_length (d.rangingFinished i) ns
  refine queue_room _ (Nat.lt_of_le_of_lt hlen ?_)
  exact hroom

theorem build_range_data_none (profile : Profile) (sample : Measurement)
    (policyResult : PolicyResult) (oid : UInt8)
    (h : profile.rangeDataPayloadLen = 0 ∨ profile.rangeDataPayloadLen.toNat > maxPayload) :
    buildRangeDataNotification profile sample policyResult oid = none := if_pos h

theorem build_range_data_some (profile : Profile) (sample : Measurement)
    (policyResult : PolicyResult) (oid : UInt8)
    (h : ¬ (profile.rangeDataPayloadLen = 0 ∨
      profile.rangeDataPayloadLen.toNat > maxPayload)) :
    ∃ payload, buildRangeDataNotification profile sample policyResult oid =
      some (.notification gidSessionControl oid payload) := ⟨_,if_neg h⟩

theorem emit_range_data_eq (d : Device) (sample : Measurement) (policyResult : PolicyResult)
    (h : policyResult.shouldEmitNotification = true) :
    (start d).emitRangeData sample policyResult =
      match buildRangeDataNotification d.profile
          { sample with sequenceNumber := d.nextRangingSequence } policyResult
          d.profile.rangeDataNotificationOid with
      | none => (.err,start (d.withSequence (d.nextRangingSequence+1)))
      | some notification =>
        (start (d.withSequence (d.nextRangingSequence+1))).queueNotification notification :=
  if_pos h

theorem emit_range_data_sampled (d : Device) (sample : Measurement) (policyResult : PolicyResult) :
    ((start d).emitRangeData sample policyResult =
        (.err,posted (d.withSequence (d.nextRangingSequence+1)) none (.queued [])) ∧
      (d.profile.rangeDataPayloadLen = 0 ∨
        d.profile.rangeDataPayloadLen.toNat > maxPayload)) ∨
    ∃ rc ns d', (start d).emitRangeData sample policyResult =
        (rc,posted d' none (.queued ns)) ∧ Sampled d ns d' ∧
      (d.pendingNotifications.length < maxPendingNotifications → rc = .ok) := by
  by_cases hemit : policyResult.shouldEmitNotification = true
  swap
  · exact Or.inr ⟨.ok,[],d,if_neg hemit,.silent,fun _ => rfl⟩
  rw [emit_range_data_eq d sample policyResult hemit]
  by_cases hlen : d.profile.rangeDataPayloadLen = 0 ∨
      d.profile.rangeDataPayloadLen.toNat > maxPayload
  · rw [build_range_data_none _ _ _ _ hlen]
    exact Or.inl ⟨rfl,hlen⟩
  · obtain ⟨payload,hbuild⟩ := build_range_data_some d.profile
      { sample with sequenceNumber := d.nextRangingSequence } policyResult
      d.profile.rangeDataNotificationOid hlen
    rw [hbuild]
    exact Or.inr ⟨_,[_],d.withSequence (d.nextRangingSequence+1),Prod.ext rfl rfl,
      .sent payload,fun hroom => queue_room _ hroom⟩

theorem sampled_sessions {d d' : Device} {ns : List Packet} (h : Sampled d ns d') :
    d'.sessions = d.sessions ∧ d'.pendingNotifications = d.pendingNotifications := by
  cases h with
  | silent => exact ⟨rfl,rfl⟩
  | sent payload => exact ⟨rfl,rfl⟩

/-- The outcome queues its notifications behind one effect. -/
def Queues (effect : Rc → List Packet → Device → Prop) (outcome : Rc × Exchange) : Prop :=
  ∃ rc ns d', effect rc ns d' ∧ outcome = (rc,posted d' none (.queued ns))

theorem emit_ranging_stream_ranged (d : Device) (i : Fin maxSessions) :
    Queues (Ranged d i) ((start d).emitRangingStream i) := by
  unfold emitRangingStream
  dsimp only
  split
  · rename_i hidle
    refine ⟨.ok,[],d,.idle ?_,rfl⟩
    change d.scenario ≠ .rangingStream ∨ (d.sessions i).rangingStreamRemaining = 0 ∨
      (d.sessions i).state ≠ sessionStateActive at hidle
    unfold Session.Streaming
    tauto
  rename_i hstreams
  obtain ⟨hscenario,hstreaming⟩ : d.scenario = .rangingStream ∧ (d.sessions i).Streaming := by
    change ¬ (d.scenario ≠ .rangingStream ∨ (d.sessions i).rangingStreamRemaining = 0 ∨
      (d.sessions i).state ≠ sessionStateActive) at hstreams
    unfold Session.Streaming
    tauto
  split
  · rename_i hspent
    obtain ⟨rc,hfinish,hroom⟩ := finish_ranging_posted d i []
    exact ⟨rc,_,_,.exhausted rc hscenario hstreaming hspent hroom,hfinish⟩
  generalize initRangingSample _ _ = sample
  generalize evaluateRangeNotificationPolicy _ sample = policyResult
  obtain ⟨hemit,hinvalid⟩ | ⟨rc,ns,d',hemit,hsampled,hroom⟩ :=
    emit_range_data_sampled d sample policyResult
  · rw [hemit]
    exact ⟨.err,[],_,.unbuilt hscenario hstreaming hinvalid,rfl⟩
  rw [hemit]
  obtain ⟨hsessions,hpending⟩ := sampled_sessions hsampled
  cases rc with
  | err =>
    refine ⟨.err,ns,d',.blocked ns d' hscenario hstreaming hsampled ?_,rfl⟩
    by_contra hfull
    cases hroom (Nat.lt_of_not_le hfull)
  | ok =>
    dsimp only
    rw [posted_setSession]
    split
    · rename_i hdone
      obtain ⟨rc,hfinish,hfree⟩ := finish_ranging_posted
        (d'.setSession i ((d.sessions i).countMeasurement policyResult)) i ns
      rw [Device.setSession_same] at hfinish
      exact ⟨rc,_,_,.finished rc ns d' policyResult hscenario hstreaming hsampled hdone
        (by rwa [Device.setSession_pending, hpending] at hfree),hfinish⟩
    · rename_i hdone
      exact ⟨.ok,ns,_,.measured ns d' policyResult hscenario hstreaming hsampled
        (Bool.eq_false_iff.mpr hdone),rfl⟩

theorem progress_data_transfer_transferred (d : Device) (i : Fin maxSessions)
    (ha : (d.sessions i).allocated = true)
    (hp : (d.sessions i).dataTransferInProgress = true) :
    Queues (Transferred d i) ((start d).progressDataTransfer i) := by
  unfold progressDataTransfer
  dsimp only
  split
  · rename_i hidle
    simp [start, ha, hp] at hidle
  split
  · rename_i hremaining
    exact ⟨_,_,_,.repeated _ ha hp hremaining (fun hroom => queue_room _ hroom),
      Prod.ext rfl rfl⟩
  · rename_i hremaining
    exact ⟨_,_,_,.completed _ ha hp hremaining (fun hroom => queue_pair_room _ _ hroom),
      Prod.ext rfl (queue_pair ((start d).setSession i (d.sessions i).finishTransfer) _ _)⟩

end Exchange

end UciSim
