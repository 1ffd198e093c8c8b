import UciSim.ControlEffects

/-!
# The outcome of a packet

Whatever a packet is, the device it leaves behind, its response and its posted
notifications come from one change.
-/

set_option autoImplicit false

namespace UciSim

namespace Exchange

def queueAll (x : Exchange) (ns : List Packet) : Exchange :=
  ns.foldl (fun x n => (x.queueNotification n).2) x

theorem queueAll_mail (x : Exchange) (ns : List Packet) :
    x.queueAll ns = x.withMail (Mailbox.queueAll maxPendingNotifications x.mail ns) := by
  induction ns generalizing x with
  | nil => rfl
  | cons n ns ih =>
    have h : x.queueAll (n::ns) = (x.queueNotification n).2.queueAll ns := rfl
    rw [h, ih, queueNotification_mail]
    rfl

theorem queue_full {x : Exchange} {n : Packet} (h : (x.queueNotification n).1 = .err) :
    x.queueNotification n = (.err,x) := by
  unfold queueNotification at h ⊢
  by_cases hf : x.device.pendingNotifications.length ≥ maxPendingNotifications
  · rw [if_pos hf]
  · rw [if_neg hf] at h
    cases h

theorem queue_full_again {x : Exchange} {n : Packet} (h : (x.queueNotification n).1 = .err)
    (m : Packet) : (x.queueNotification m).2 = x := by
  unfold queueNotification at h ⊢
  by_cases hf : x.device.pendingNotifications.length ≥ maxPendingNotifications
  · rw [if_pos hf]
  · rw [if_neg hf] at h
    cases h

/-- A pair is queued in order; when the first finds no room neither does the second. -/
theorem queue_pair (x : Exchange) (n m : Packet) :
    (match x.queueNotification n with
      | (.err,x) => (Rc.err,x)
      | (.ok,x) => x.queueNotification m).2 = x.queueAll [n,m] := by
  have h : x.queueAll [n,m] = ((x.queueNotification n).2.queueNotification m).2 := rfl
  rw [h]
  cases hq : x.queueNotification n with
  | mk rc y =>
    cases rc with
    | ok => rfl
    | err =>
      have he : (x.queueNotification n).1 = .err := by rw [hq]
      rw [queue_full he] at hq
      cases hq
      exact (queue_full_again he m).symm

def posted (d : Device) (response : Option Packet) : Posting → Exchange
  | .delivered ns => Exchange.emitAll ⟨d,⟨response,none⟩,[]⟩ ns
  | .queued ns => Exchange.queueAll ⟨d,⟨response,none⟩,[]⟩ ns
  | .placed n => Exchange.placeNotification ⟨d,⟨response,none⟩,[]⟩ n

end Exchange

open Exchange

theorem queue_data_completion (x : Exchange) (sessionId : UInt32) (sequenceNumber : UInt16)
    (status : UInt8) :
    (x.queueDataCompletion sessionId sequenceNumber status).2 =
      x.queueAll (dataCompletion sessionId sequenceNumber status 1) :=
  queue_pair x _ _

def DataAnswers (d : Device) (request : Packet) (x : Exchange) : Prop :=
  ∃ posting d', x = posted d' none posting ∧ DataChange d request posting d'

/-- Beginning a transfer is one change of the session, with its event or without. -/
theorem begin_data_transfer_eq (d : Device) (i : Fin maxSessions) (session : Session)
    (sessionId : UInt32) (sequenceNumber : UInt16) (dataRepetitionCount : UInt8) :
    let begun := session.beginTransfer dataRepetitionCount sequenceNumber
    ((start d).setSession i session).beginDataTransfer i sessionId sequenceNumber
        dataRepetitionCount =
      match (d.setSession i begun).scheduleEvent .dataTransfer sessionId
        (begun.getRangingIntervalMs d.profile) with
      | (.ok,device) => (.ok,start device)
      | (.err,_) => (.err,start (d.setSession i begun.abandonTransfer)) := by
  intro begun
  have hsession : ((start d).setSession i session).device.sessions i = session :=
    Device.setSession_same _ _ _
  have htwice : ∀ s s', ((start d).setSession i s).setSession i s' = (start d).setSession i s' :=
    fun s s' => congrArg start (Device.setSession_setSession d i s s')
  unfold beginDataTransfer
  rw [hsession]
  dsimp only
  rw [htwice, htwice]
  rfl

theorem begin_data_transfer_answers (d : Device) (request : Packet) (i : Fin maxSessions)
    (sequenceNumber declaredLength : UInt16)
    (hfound : d.findSession (readU32Le request.payload 0) = some i)
    (hactive : (d.sessions i).state = sessionStateActive)
    (hidle : (d.sessions i).dataTransferInProgress = false) :
    DataAnswers d request
      (((start d).setSession i
        ((d.sessions i).rememberData sequenceNumber declaredLength)).beginDataTransfer
          i (readU32Le request.payload 0) sequenceNumber
          (d.sessions i).getDataRepetitionCount).2 := by
  rw [begin_data_transfer_eq]
  by_cases hroom : maxScenarioEvents ≤ d.scheduledEvents.length
  · rw [Device.schedule_event_full (d.setSession i _) _ _ _ hroom]
    exact ⟨.queued [],_,rfl,.unscheduled i _ _ hfound hactive hidle hroom⟩
  · rw [Device.schedule_event_room (d.setSession i _) .dataTransfer _ _ (by decide)
      (Nat.lt_of_not_le hroom)]
    exact ⟨.queued [],_,rfl,.begun i _ _ _ hfound hactive hidle (Nat.lt_of_not_le hroom)⟩

theorem data_message_answers (d : Device) (request : Packet) :
    DataAnswers d request ((start d).handleDataMessageSend request).2 := by
  unfold handleDataMessageSend
  split
  · exact ⟨.queued [],d,rfl,.ignored⟩
  split
  · exact ⟨.queued [],d,rfl,.ignored⟩
  dsimp only
  split
  · exact ⟨.placed _,d,rfl,.refused _ _ _ _⟩
  split
  · exact ⟨.placed _,d,rfl,.refused _ _ _ _⟩
  rename_i i hfound
  split
  · exact ⟨.placed _,d,rfl,.refused _ _ _ _⟩
  rename_i hactive
  have ha : (d.sessions i).state = sessionStateActive := not_not.mp hactive
  split
  · exact ⟨.placed _,d,rfl,.refused _ _ _ _⟩
  rename_i hidle
  have hi : (d.sessions i).dataTransferInProgress = false := by simpa [start] using hidle
  split
  · exact ⟨.queued _,d,queue_data_completion _ _ _ _,.repeated i _ hfound ha⟩
  split
  · exact ⟨.queued _,_,queue_data_completion _ _ _ _,.completed i _ _ hfound ha hi⟩
  · exact begin_data_transfer_answers d request i _ _ hfound ha hi

inductive Served (d : Device) (request : Packet) : Option Packet → Posting → Device → Prop where
  | command (response : Packet) (ns errors : List Packet) (d' : Device)
      (mt : request.mt = mtCommand) (responds : response.mt = mtResponse)
      (change : Change d request ns d')
      (error : errors = [] ∨ ∃ status, errors = [coreGenericErrorNotification status]) :
      Served d request (some response) (.delivered (ns ++ errors)) d'
  | data (posting : Posting) (d' : Device) (mt : request.mt = mtData)
      (change : DataChange d request posting d') : Served d request none posting d'

theorem report_error_answers (d : Device) (request : Packet) (outcome : Rc × Exchange)
    (hmt : request.mt = mtCommand) (h : Answers d request outcome.2) :
    ∃ response posting d', Exchange.reportError outcome = posted d' response posting ∧
      Served d request response posting d' := by
  obtain ⟨rc,x⟩ := outcome
  obtain ⟨response,ns,d',rfl,hresponse,hchange⟩ := h
  have hkept : ∃ r posting d'', answered d' response ns = posted d'' r posting ∧
      Served d request r posting d'' :=
    ⟨some response,.delivered (ns ++ []),d',by simp [answered, posted],
      .command response ns [] d' hmt hresponse hchange (Or.inl rfl)⟩
  cases rc with
  | ok => exact hkept
  | err =>
    unfold reportError
    simp only [answered_response]
    cases hp : response.payload with
    | nil => exact hkept
    | cons status rest =>
      refine ⟨some response,.delivered (ns ++ [coreGenericErrorNotification status]),d',?_,
        .command response ns _ d' hmt hresponse hchange (Or.inr ⟨status,rfl⟩)⟩
      exact answered_append d' response ns _

theorem handle_packet_other (d : Device) (request : Packet) (hdata : request.mt ≠ mtData)
    (hcommand : request.mt ≠ mtCommand) : d.handlePacket request = (.err,start d) := by
  simp [Device.handlePacket, hdata, hcommand]

/-- A command or a data message is one change whose notifications are posted and settled. -/
theorem handle_packet_served (d : Device) (request : Packet)
    (h : request.mt = mtData ∨ request.mt = mtCommand) :
    ∃ rc response posting d', Served d request response posting d' ∧
      d.handlePacket request =
        (rc,(posted d' response posting).finalizeResult d.pendingNotifications.length) := by
  unfold Device.handlePacket
  by_cases hdata : request.mt = mtData
  · obtain ⟨posting,d',hx,hchange⟩ := data_message_answers d request
    refine ⟨((start d).handleDataMessageSend request).1,none,posting,d',
      .data posting d' hdata hchange,?_⟩
    rw [if_pos hdata, ← hx]
  · have hcommand : request.mt = mtCommand := h.resolve_left hdata
    obtain ⟨response,posting,d',hx,hserved⟩ := report_error_answers d request
      ((start d).dispatchCommand request) hcommand (dispatch_command_answers d request)
    refine ⟨((start d).dispatchCommand request).1,response,posting,d',hserved,?_⟩
    rw [if_neg hdata, if_neg (not_not.mpr hcommand), ← hx]

theorem reconfigured_frame {i : Fin maxSessions} {d d' : Device} (h : Reconfigured i d d') :
    d'.profile = d.profile ∧ d'.scenario = d.scenario ∧
      d'.pendingNotifications = d.pendingNotifications ∧
      d'.nextRangingSequence = d.nextRangingSequence := by
  induction h with
  | same => exact ⟨rfl,rfl,rfl,rfl⟩
  | stored d' configId value session before admitted supported stored ih => exact ih
  | rescheduled d' delayMs before active streaming ih =>
    rw [Device.reschedule_session_event_snd _ .rangeData _ _ (by decide)]
    exact ih

theorem entered_frame (d : Device) (oid : UInt8) (i : Fin maxSessions) (nextState : UInt8) :
    (d.entered oid i nextState).profile = d.profile ∧
      (d.entered oid i nextState).scenario = d.scenario ∧
      (d.entered oid i nextState).pendingNotifications = d.pendingNotifications ∧
      (d.entered oid i nextState).nextRangingSequence = d.nextRangingSequence := by
  unfold Device.entered Device.reactToTransition
  rw [started_eq]
  split_ifs <;> exact ⟨rfl,rfl,rfl,rfl⟩

theorem change_frame {d d' : Device} {request : Packet} {ns : List Packet}
    (h : Change d request ns d') : d'.profile = d.profile ∧ d'.scenario = d.scenario := by
  cases h with
  | housekept _ same => exact ⟨same.profile,same.scenario⟩
  | configured i _ _ _ _ steps =>
    exact ⟨(reconfigured_frame steps).1,(reconfigured_frame steps).2.1⟩
  | moved i => exact ⟨(entered_frame d _ i _).1,(entered_frame d _ i _).2.1⟩
  | _ => exact ⟨rfl,rfl⟩

theorem served_frame {d d' : Device} {request : Packet} {response : Option Packet}
    {posting : Posting} (h : Served d request response posting d') :
    d'.profile = d.profile ∧ d'.scenario = d.scenario := by
  cases h with
  | command response ns errors d' mt responds change error => exact change_frame change
  | data posting d' mt change => cases change <;> exact ⟨rfl,rfl⟩

/-- An accepted reset, the only packet that empties the pending queue. -/
def Packet.Resets (request : Packet) : Prop :=
  request.mt = mtCommand ∧ request.gid = gidCore ∧ request.oid = coreDeviceReset ∧
    request.payload = [coreDeviceResetConfigValid]

instance (request : Packet) : Decidable request.Resets :=
  inferInstanceAs (Decidable (_ ∧ _ ∧ _ ∧ _))

theorem served_pending {d d' : Device} {request : Packet} {response : Option Packet}
    {posting : Posting} (h : Served d request response posting d') :
    d'.pendingNotifications = d.pendingNotifications ∨
      (request.Resets ∧ d'.pendingNotifications = []) := by
  cases h with
  | command response ns errors d' mt responds change error =>
    cases change with
    | housekept _ same => exact Or.inl same.pending
    | configured i _ _ _ _ steps => exact Or.inl (reconfigured_frame steps).2.2.1
    | moved i => exact Or.inl (entered_frame d _ i _).2.2.1
    | reset command value => exact Or.inr ⟨⟨mt,command.1,command.2,value⟩,rfl⟩
    | _ => exact Or.inl rfl
  | data posting d' mt change => cases change <;> exact Or.inl rfl

namespace Posting

def mail (d : Device) : Posting → Mail
  | .delivered ns => Mailbox.deliverAll maxPendingNotifications
      d.scenario.shouldDeferNotification ⟨none,d.pendingNotifications,[]⟩ ns
  | .queued ns => Mailbox.queueAll maxPendingNotifications ⟨none,d.pendingNotifications,[]⟩ ns
  | .placed n => Mailbox.place ⟨none,d.pendingNotifications,[]⟩ n

def settled (d : Device) (pendingCountBefore : ℕ) (posting : Posting) : Mail :=
  if d.scenario.shouldAutoDeliverPending pendingCountBefore then
    Mailbox.settle (posting.mail d)
  else posting.mail d

end Posting

theorem posted_finalized (d : Device) (response : Option Packet) (posting : Posting) (k : ℕ) :
    (posted d response posting).finalizeResult k =
      ⟨d.withPending (posting.settled d k).pending,
        ⟨response,(posting.settled d k).slot⟩,(posting.settled d k).accepted⟩ := by
  have hposted : posted d response posting =
      Exchange.withMail ⟨d,⟨response,none⟩,[]⟩ (posting.mail d) := by
    cases posting with
    | delivered ns => exact emitAll_mail _ ns
    | queued ns => exact queueAll_mail _ ns
    | placed n => rfl
  rw [hposted, finalizeResult_mail]
  unfold Posting.settled
  by_cases h : d.scenario.shouldAutoDeliverPending k = true
  · rw [if_pos h]
    exact if_pos h
  · rw [if_neg h]
    exact if_neg h

theorem settled_balanced (d : Device) (posting : Posting) (k : ℕ) :
    Mailbox.Balanced d.pendingNotifications (posting.settled d k) := by
  have hstart : Mailbox.Balanced d.pendingNotifications
      (⟨none,d.pendingNotifications,[]⟩ : Mail) := by
    simp [Mailbox.Balanced, Mailbox.held]
  have hmail : Mailbox.Balanced d.pendingNotifications (posting.mail d) := by
    cases posting with
    | delivered ns => exact Mailbox.deliverAll_balanced _ _ _ _ ns hstart
    | queued ns => exact Mailbox.queueAll_balanced _ _ _ ns hstart
    | placed n => exact Mailbox.place_balanced _ _ n rfl hstart
  unfold Posting.settled
  split
  · exact Mailbox.settle_balanced _ _ hmail
  · exact hmail

theorem settled_silent (d : Device) (posting : Posting) (k : ℕ)
    (hscenario : d.scenario ≠ .delayedNotifications) (h : (posting.settled d k).slot = none) :
    Mailbox.held (posting.settled d k) = [] := by
  have hauto : d.scenario.shouldAutoDeliverPending k = true := by
    simp [Scenario.shouldAutoDeliverPending, hscenario]
  unfold Posting.settled at h ⊢
  rw [if_pos hauto] at h ⊢
  exact Mailbox.settle_silent _ h

/-- With nothing pending and no deferral the mailbox hands over the notifications in order. -/
theorem settled_uncongested (d : Device) (posting : Posting) (k : ℕ)
    (hscenario : d.scenario ≠ .delayedNotifications) (hpending : d.pendingNotifications = [])
    (hlen : posting.packets.length ≤ 2) :
    Mailbox.held (posting.settled d k) = posting.packets ∧
      (posting.settled d k).accepted = posting.packets := by
  have hdefer : d.scenario.shouldDeferNotification = false := by
    simpa [Scenario.shouldDeferNotification] using hscenario
  have hauto : d.scenario.shouldAutoDeliverPending k = true := by
    simp [Scenario.shouldAutoDeliverPending, hscenario]
  have hmail : Mailbox.held (posting.mail d) = posting.packets ∧
      (posting.mail d).accepted = posting.packets := by
    cases posting with
    | delivered ns =>
      have hns : ns.length ≤ 2 := hlen
      simp only [Posting.mail, hdefer, hpending]
      rw [Mailbox.deliverAll_empty _ ns (by simp only [maxPendingNotifications]; omega)]
      cases ns <;> simp [Mailbox.held, Posting.packets]
    | queued ns =>
      have hns : ns.length ≤ 2 := hlen
      simp only [Posting.mail, hpending]
      rw [Mailbox.queueAll_room _ _ ns (by
        simp only [List.length_nil, maxPendingNotifications]; omega)]
      simp [Mailbox.held, Posting.packets]
    | placed n => simp [Posting.mail, Mailbox.place, Mailbox.held, Posting.packets, hpending]
  unfold Posting.settled
  rw [if_pos hauto, Mailbox.settle_held, Mailbox.settle_accepted]
  exact hmail

end UciSim
