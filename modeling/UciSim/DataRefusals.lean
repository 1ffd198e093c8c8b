import UciSim.CommandReplies
import UciSim.MessageLedgers
import UciSim.StreamEvents

/-!
# Data messages that fail

A data message fails before the session has taken it, or after: when its
notifications find no room in the pending queue, or its event none in the event
queue, the session has already noted the message as its last one.
-/

set_option autoImplicit false

namespace UciSim

open Exchange

theorem Rc.failed {rc : Rc} (h : rc ≠ .ok) : rc = .err := by
  cases rc with
  | ok => exact absurd rfl h
  | err => rfl

namespace Device

/-- A data message that fails leaves the sessions and the events as they were, so a session
recognises it later just when it did before. -/
def DataUntouched (d : Device) (request : Packet) : Prop :=
  (d.handlePacket request).1 = .err →
    (d.handlePacket request).2.device.sessions = d.sessions ∧
      (d.handlePacket request).2.device.scheduledEvents = d.scheduledEvents ∧
      ∀ i, ((d.handlePacket request).2.device.sessions i).Remembers request ↔
        (d.sessions i).Remembers request

/-- A session takes the message as a new one, but the queue it needs next is too full: two
notifications complete it at once, an event begins its transfer. -/
def StrandsData (d : Device) (request : Packet) : Prop :=
  ∃ i, d.AdmitsData request i ∧ ¬ (d.sessions i).Remembers request ∧
    if (d.sessions i).getDataRepetitionCount = 0 then
      maxPendingNotifications < d.pendingNotifications.length+2
    else maxScenarioEvents ≤ d.scheduledEvents.length

variable {d : Device} {request : Packet}

theorem AdmitsData.unique {i j : Fin maxSessions} (h : d.AdmitsData request i)
    (h' : d.AdmitsData request j) : j = i :=
  Option.some.inj (h'.2.2.1.symm.trans h.2.2.1)

theorem data_device (hmt : request.mt = mtData) :
    ∃ pending, (d.handlePacket request).2.device =
      ((start d).handleDataMessageSend request).2.device.withPending pending := by
  rw [handle_data hmt]
  exact finalize_device _ _

theorem completion_device (x : Exchange) (sessionId : UInt32) (sequenceNumber : UInt16)
    (status : UInt8) : ∃ pending,
      (x.queueDataCompletion sessionId sequenceNumber status).2.device =
        x.device.withPending pending := by
  rw [queue_data_completion, queueAll_mail]
  exact ⟨_,rfl⟩

theorem remembered_changes {i : Fin maxSessions} {d' : Device}
    (new : ¬ (d.sessions i).Remembers request) (known : (d'.sessions i).Remembers request) :
    ¬ ∀ j, (d'.sessions j).Remembers request ↔ (d.sessions j).Remembers request :=
  fun h => new ((h i).mp known)

theorem remembered_in (i : Fin maxSessions) {session : Session} {pending : List Packet}
    (h : session.Remembers request) :
    (((d.setSession i session).withPending pending).sessions i).Remembers request := by
  rw [withPending_sessions, setSession_same]
  exact h

/-- Of every device and every data message: a failure leaves no trace exactly when no session
takes the message in front of a full queue. -/
theorem data_untouched_iff (hmt : request.mt = mtData) :
    d.DataUntouched request ↔ ¬ d.StrandsData request := by
  rcases data_device (d := d) hmt with ⟨pending,hdevice⟩
  have hrc := (data_handled (d := d) hmt).1
  have houtcome := data_message_outcome d request
  unfold DataUntouched
  rw [hrc, hdevice]
  generalize (start d).handleDataMessageSend request = outcome at houtcome
  cases houtcome with
  | ignored h =>
    refine iff_of_true (fun _ => ⟨rfl,rfl,fun _ => Iff.rfl⟩) ?_
    rintro ⟨i,hadmits,-⟩
    exact h hadmits.1
  | refused h none status txCount =>
    refine iff_of_true (fun _ => ⟨rfl,rfl,fun _ => Iff.rfl⟩) ?_
    rintro ⟨i,hadmits,-⟩
    exact none i hadmits
  | repeated i admits known =>
    rcases completion_device (start d) (readU32Le request.payload 0)
      (readU16Le request.payload 12) dataTransferStatusRepetitionOk with ⟨p,hp⟩
    rw [hp]
    refine iff_of_true (fun _ => ⟨rfl,rfl,fun _ => Iff.rfl⟩) ?_
    rintro ⟨j,hadmits,new,-⟩
    rw [admits.unique hadmits] at new
    exact new known
  | completed i admits new once =>
    have hrc := queue_pair_ok
      ((start d).setSession i ((d.sessions i).rememberRequest request))
      (dataCreditNotification (readU32Le request.payload 0) 1)
      (dataTransferStatusNotification (readU32Le request.payload 0)
        (readU16Le request.payload 12) dataTransferStatusOk 1)
    by_cases hroom : d.pendingNotifications.length+2 ≤ maxPendingNotifications
    · refine iff_of_true (fun herr => absurd ((hrc.mpr hroom).symm.trans herr) nofun) ?_
      rintro ⟨j,hadmits,-,hfull⟩
      rw [admits.unique hadmits, if_pos once] at hfull
      omega
    · rcases completion_device ((start d).setSession i ((d.sessions i).rememberRequest request))
        (readU32Le request.payload 0) (readU16Le request.payload 12) dataTransferStatusOk with
        ⟨p,hp⟩
      rw [hp]
      refine iff_of_false (fun h => ?_) ?_
      · refine remembered_changes new ?_ (h (Rc.failed fun hok => hroom (hrc.mp hok))).2.2
        exact remembered_in i (Session.remembers_request _ _)
      · exact fun h => h ⟨i,admits,new,by rw [if_pos once]; omega⟩
  | begun i delayMs admits new repeats room =>
    refine iff_of_true nofun ?_
    rintro ⟨j,hadmits,-,hfull⟩
    rw [admits.unique hadmits, if_neg repeats] at hfull
    omega
  | unscheduled i admits new repeats full =>
    refine iff_of_false (fun h => ?_) ?_
    · refine remembered_changes new ?_ (h rfl).2.2
      exact remembered_in i ⟨rfl,rfl,rfl⟩
    · exact fun h => h ⟨i,admits,new,by rw [if_neg repeats]; exact full⟩

end Device

/-- In every reachable state a data message that fails leaves the sessions and the events alone
exactly when no session takes it in front of a full queue. -/
theorem failed_data_untouched (profile : Profile) (scenario : Scenario) (ops : List Op)
    (request : Packet) (hmt : request.mt = mtData) :
    (Run.reached profile scenario ops).engine.device.DataUntouched request ↔
      ¬ (Run.reached profile scenario ops).engine.device.StrandsData request :=
  Device.data_untouched_iff hmt

/-- A message to a session whose transfer is in progress fails beside the events of two streams
and two transfers. -/
theorem busy_session_untouched :
    let d := (Run.reached defaultProfile .rangingStream
      (busySession 1 ++ busySession 2)).engine.device
    d.scheduledEvents.length = 4 ∧ (d.handlePacket (dataMessage 1 6)).1 = .err ∧
      d.DataUntouched (dataMessage 1 6) := by
  intro d
  refine ⟨by decide +kernel,by decide +kernel,?_⟩
  refine (failed_data_untouched defaultProfile .rangingStream (busySession 1 ++ busySession 2)
    (dataMessage 1 6) rfl).mpr ?_
  rintro ⟨i,hadmits,-⟩
  revert i
  decide +kernel

/-- Four sessions fill the event queue, and a fifth one is offered a message to repeat. -/
def fifthTransfer : List Op := [1,2,3,4].flatMap busySession ++ [.submit (initRequest 9),
  .submit (setAppConfigRequest 9 1 [appConfigDataRepetitionCount,1,1]),
  .submit (startRequest 9)]

/-- The message fails, and sent again it is acknowledged as one transmitted before. -/
theorem failed_data_acknowledged :
    ¬ (Run.reached defaultProfile .rangingStream fifthTransfer).engine.device.DataUntouched
        (dataMessage 9 5) ∧
      ¬ (Run.reached defaultProfile .rangingStream fifthTransfer).engine.device.Acknowledges
        (dataMessage 9 5) ∧
      (Run.reached defaultProfile .rangingStream (fifthTransfer ++
        [.submit (dataMessage 9 5)])).engine.device.Acknowledges (dataMessage 9 5) := by
  refine ⟨fun h => ?_,by decide +kernel,by decide +kernel⟩
  have hnew : ¬ ((Run.reached defaultProfile .rangingStream
      fifthTransfer).engine.device.sessions 4).Remembers (dataMessage 9 5) := by decide +kernel
  have hknown : (((Run.reached defaultProfile .rangingStream
      fifthTransfer).engine.device.handlePacket (dataMessage 9 5)).2.device.sessions 4).Remembers
        (dataMessage 9 5) := by decide +kernel
  exact hnew (((h (by decide +kernel)).2.2 4).mp hknown)

end UciSim
