import UciSim.Scripts

/-!
# The script of a packet

What a packet answers, posts and changes is settled before it is known what waits.
A data message the session refuses is answered past the queue; every other
notification is posted to it.
-/

set_option autoImplicit false

namespace UciSim

open Exchange

section

variable {d : Device} {p : List Packet} {request : Packet} {i : Fin maxSessions}

/-- One script for a data message and for the message while `p` waits. -/
def DataScripted (d : Device) (p : List Packet) (request : Packet) (o o' : Rc × Exchange) :
    Prop :=
  ∃ posting d', o.2 = posted d' none posting ∧ o'.2 = posted (d'.withPending p) none posting ∧
    DataChange d request posting d'

theorem begin_data_transfer_blind {sequenceNumber declaredLength : UInt16}
    (hfound : d.findSession (readU32Le request.payload 0) = some i)
    (hactive : (d.sessions i).state = sessionStateActive)
    (hidle : (d.sessions i).dataTransferInProgress = false) :
    DataScripted d p request
      (((start d).setSession i
        ((d.sessions i).rememberData sequenceNumber declaredLength)).beginDataTransfer
          i (readU32Le request.payload 0) sequenceNumber (d.sessions i).getDataRepetitionCount)
      (((start (d.withPending p)).setSession i
        ((d.sessions i).rememberData sequenceNumber declaredLength)).beginDataTransfer
          i (readU32Le request.payload 0) sequenceNumber
          (d.sessions i).getDataRepetitionCount) := by
  rw [begin_data_transfer_eq, begin_data_transfer_eq]
  by_cases hroom : maxScenarioEvents ≤ d.scheduledEvents.length
  · rw [Device.schedule_event_full (d.setSession i _) _ _ _ hroom,
      Device.schedule_event_full ((d.withPending p).setSession i _) _ _ _ hroom]
    exact ⟨.queued [],_,rfl,rfl,.unscheduled i _ _ hfound hactive hidle hroom⟩
  · rw [Device.schedule_event_room (d.setSession i _) .dataTransfer _ _ (by decide)
        (Nat.lt_of_not_le hroom),
      Device.schedule_event_room ((d.withPending p).setSession i _) .dataTransfer _ _ (by decide)
        (Nat.lt_of_not_le hroom)]
    exact ⟨.queued [],_,rfl,rfl,.begun i _ _ _ hfound hactive hidle (Nat.lt_of_not_le hroom)⟩

theorem data_message_blind (d : Device) (p : List Packet) (request : Packet) :
    DataScripted d p request ((start d).handleDataMessageSend request)
      ((start (d.withPending p)).handleDataMessageSend request) := by
  have hrefused : ∀ status txCount, DataScripted d p request
      (.err,(start d).placeNotification (dataTransferStatusNotification
        (readU32Le request.payload 0) (readU16Le request.payload 12) status txCount))
      (.err,(start (d.withPending p)).placeNotification (dataTransferStatusNotification
        (readU32Le request.payload 0) (readU16Le request.payload 12) status txCount)) :=
    fun _ _ => ⟨.placed _,d,rfl,rfl,.refused _ _ _ _⟩
  unfold handleDataMessageSend
  refine ite_related Iff.rfl (fun _ => ⟨.queued [],d,rfl,rfl,.ignored⟩) fun _ => ?_
  refine ite_related Iff.rfl (fun _ => ⟨.queued [],d,rfl,rfl,.ignored⟩) fun _ => ?_
  refine ite_related Iff.rfl (fun _ => hrefused _ _) fun _ => ?_
  rw [start_device, start_device, find_session_waiting]
  cases hfound : d.findSession (readU32Le request.payload 0) with
  | none => exact hrefused _ _
  | some i =>
    dsimp only
    refine ite_related Iff.rfl (fun _ => hrefused _ _) fun hactive => ?_
    refine ite_related Iff.rfl (fun _ => hrefused _ _) fun hidle => ?_
    have ha : (d.sessions i).state = sessionStateActive := not_not.mp hactive
    have hi : (d.sessions i).dataTransferInProgress = false := Bool.eq_false_iff.mpr hidle
    refine ite_related Iff.rfl (fun _ => ?_) fun _ => ?_
    · exact ⟨.queued _,d,queue_data_completion _ _ _ _,queue_data_completion _ _ _ _,
        .repeated i _ hfound ha⟩
    refine ite_related Iff.rfl (fun _ => ?_) fun _ => begin_data_transfer_blind hfound ha hi
    exact ⟨.queued _,_,queue_data_completion _ _ _ _,queue_data_completion _ _ _ _,
      .completed i _ _ hfound ha hi⟩

/-- The generic error behind a refused command. -/
def errorNotifications (rc : Rc) (response : Packet) : List Packet :=
  match rc, response.payload with
  | .err, status::_ => [coreGenericErrorNotification status]
  | _, _ => []

theorem report_error_answered (rc : Rc) (d : Device) (response : Packet) (ns : List Packet) :
    reportError (rc,answered d response ns) =
      answered d response (ns ++ errorNotifications rc response) := by
  obtain ⟨mt,pbf,gid,oid,payload⟩ := response
  unfold reportError errorNotifications
  cases rc with
  | ok => rw [List.append_nil]
  | err =>
    dsimp only
    rw [answered_response]
    cases payload with
    | nil =>
      dsimp only
      rw [List.append_nil]
    | cons status rest => exact answered_append d _ ns _

theorem errors_announce (rc : Rc) (response : Packet) :
    (errorNotifications rc response).length ≤ 1 ∧
      ∀ n ∈ errorNotifications rc response, n.Announces := by
  unfold errorNotifications
  split
  · refine ⟨Nat.le_refl _,fun n hn => ?_⟩
    rw [List.mem_singleton.mp hn]
    exact ⟨rfl,fun h => absurd h (show ¬ gidCore = gidSessionControl by decide)⟩
  · exact ⟨Nat.zero_le _,List.forall_mem_nil _⟩

theorem transfer_status_announces (sessionId : UInt32) (sequenceNumber : UInt16)
    (status txCount : UInt8) :
    (dataTransferStatusNotification sessionId sequenceNumber status txCount).Announces :=
  ⟨rfl,fun _ => show sessionDataTransferStatusNtf ∈ _ by decide⟩

theorem completion_announces (sessionId : UInt32) (sequenceNumber : UInt16)
    (status txCount : UInt8) :
    ∀ n ∈ dataCompletion sessionId sequenceNumber status txCount, n.Announces := by
  intro n hn
  rcases List.mem_pair.mp hn with rfl | rfl
  · exact ⟨rfl,fun _ => show sessionDataCreditNtf ∈ _ by decide⟩
  · exact transfer_status_announces _ _ _ _

theorem data_change_announces {posting : Posting} {d' : Device}
    (h : DataChange d request posting d') :
    d.SameQueue d' ∧ posting.packets.length ≤ 2 ∧ ∀ n ∈ posting.packets, n.Announces := by
  cases h with
  | ignored => exact ⟨⟨rfl,rfl,rfl,rfl⟩,Nat.zero_le _,List.forall_mem_nil _⟩
  | refused => exact ⟨⟨rfl,rfl,rfl,rfl⟩,Nat.le_succ _,
      fun n hn => List.mem_singleton.mp hn ▸ transfer_status_announces _ _ _ _⟩
  | repeated => exact ⟨⟨rfl,rfl,rfl,rfl⟩,Nat.le_refl _,completion_announces _ _ _ _⟩
  | completed => exact ⟨⟨rfl,rfl,rfl,rfl⟩,Nat.le_refl _,completion_announces _ _ _ _⟩
  | begun => exact ⟨⟨rfl,rfl,rfl,rfl⟩,Nat.zero_le _,List.forall_mem_nil _⟩
  | unscheduled => exact ⟨⟨rfl,rfl,rfl,rfl⟩,Nat.zero_le _,List.forall_mem_nil _⟩

/-- What a packet does here and in the same device while `p` waits. -/
structure PacketScript (d : Device) (p : List Packet) (request : Packet)
    (response : Option Packet) (posting : Posting) (d' : Device) : Prop where
  here : (d.handlePacket request).2 =
    (posted d' response posting).finalizeResult d.pendingNotifications.length
  there : ((d.withPending p).handlePacket request).2 =
    (posted (d'.withPending p) response posting).finalizeResult p.length
  same : d.SameQueue d'
  responds : ∀ r ∈ response, r.mt = mtResponse
  short : posting.packets.length ≤ 2
  announces : ∀ n ∈ posting.packets, n.Announces
  queues : ¬ d.RefusesData request → ∀ n, posting ≠ .placed n

theorem packet_scripted (d : Device) (p : List Packet) (request : Packet)
    (hmt : request.mt = mtData ∨ request.mt = mtCommand) (hreset : ¬ d.AcceptsReset request) :
    ∃ response posting d', PacketScript d p request response posting d' := by
  by_cases hdata : request.mt = mtData
  · obtain ⟨posting,d',hx,hx',hchange⟩ := data_message_blind d p request
    obtain ⟨hsame,hshort,hannounces⟩ := data_change_announces hchange
    refine ⟨none,posting,d',?_,?_,hsame,(by simp),hshort,hannounces,?_⟩
    · unfold Device.handlePacket
      rw [if_pos hdata, ← hx]
    · unfold Device.handlePacket
      rw [if_pos hdata, ← hx']
      rfl
    · rintro hrefuses n rfl
      have hslot := data_message_slot d request hdata hrefuses
      rw [hx] at hslot
      cases hslot
  · have hcommand := hmt.resolve_left hdata
    have hdispatch : Scripted d p ((start d).dispatchCommand request)
        ((start (d.withPending p)).dispatchCommand request) :=
      dispatch_command_blind fun h => hreset ⟨⟨hcommand,h.1,h.2.1,h.2.2.1⟩,h.2.2.2⟩
    obtain ⟨rc,response,ns,d',ho,ho',hsame,hresponds,hshort,hannounces⟩ := hdispatch
    obtain ⟨herrors,hannounced⟩ := errors_announce rc response
    refine ⟨some response,.delivered (ns ++ errorNotifications rc response),d',?_,?_,hsame,?_,?_,
      ?_,fun _ _ => nofun⟩
    · rw [handle_command d request hcommand, ho, report_error_answered]
      rfl
    · rw [handle_command (d.withPending p) request hcommand, ho', report_error_answered]
      rfl
    · intro r hr
      cases hr
      exact hresponds
    · simp only [Posting.packets, List.length_append]
      omega
    · intro n hn
      exact (List.mem_append.mp hn).elim (hannounces n) (hannounced n)

end

end UciSim
