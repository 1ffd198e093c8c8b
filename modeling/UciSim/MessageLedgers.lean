import UciSim.MessageMoves
import UciSim.RefusedPackets
import UciSim.StreamEvents

/-!
# Ledgers of messages

A ledger records what the host sees of one session: the message taken last and the
messages reported complete. A session that remembers a message is covered by its
ledger when the message is reported complete, or is the one under way.
-/

set_option autoImplicit false

namespace UciSim

open Exchange

/-- The sequence number and the length of the message in the request. -/
def Packet.dataKey (request : Packet) : UInt16 × UInt16 :=
  (readU16Le request.payload 12,readU16Le request.payload 14)

def Session.lastKey (session : Session) : UInt16 × UInt16 :=
  (session.lastDataSequence,session.lastDataLength)

theorem Session.remembers_key {session : Session} {request : Packet} :
    session.Remembers request ↔
      session.hasLastDataMessage = true ∧ session.lastKey = request.dataKey := by
  unfold Session.Remembers Session.lastKey Packet.dataKey
  rw [Prod.mk.injEq]

/-- The packet reports the last transmission of a message of the session. -/
def Packet.ReportsOk (p : Packet) (sessionId : UInt32) (sequenceNumber : UInt16) : Prop :=
  p = dataTransferStatusNotification sessionId sequenceNumber dataTransferStatusOk
    (byteAt p.payload 7)

instance (p : Packet) (sessionId : UInt32) (sequenceNumber : UInt16) :
    Decidable (p.ReportsOk sessionId sequenceNumber) := inferInstanceAs (Decidable (_ = _))

/-- The data message is answered at once as one transmitted before. -/
def Device.Acknowledges (d : Device) (request : Packet) : Prop :=
  request.mt = mtData ∧
    dataCreditNotification (readU32Le request.payload 0) 1 ∈
      (d.handlePacket request).2.accepted ∧
    dataTransferStatusNotification (readU32Le request.payload 0) (readU16Le request.payload 12)
      dataTransferStatusRepetitionOk 1 ∈ (d.handlePacket request).2.accepted

instance (d : Device) (request : Packet) : Decidable (d.Acknowledges request) :=
  inferInstanceAs (Decidable (_ ∧ _ ∧ _))

/-- The session at slot `i` takes the data message as a new one. -/
def Device.Takes (d : Device) (request : Packet) (i : Fin maxSessions) : Prop :=
  request.mt = mtData ∧ d.findSession (readU32Le request.payload 0) = some i ∧
    (d.handlePacket request).1 = .ok ∧ ¬ d.Acknowledges request

instance (d : Device) (request : Packet) (i : Fin maxSessions) :
    Decidable (d.Takes request i) := inferInstanceAs (Decidable (_ ∧ _ ∧ _ ∧ _))

/-- What the host has seen of the messages of a session. -/
structure MessageLedger where
  taken : Option (UInt16 × UInt16)
  completed : List (UInt16 × UInt16)

namespace MessageLedger

def empty : MessageLedger := ⟨none,[]⟩

def take (ledger : MessageLedger) (key : UInt16 × UInt16) : MessageLedger :=
  { ledger with taken := some key }

def observe (sessionId : UInt32) (ledger : MessageLedger) (p : Packet) : MessageLedger :=
  match ledger.taken with
  | some key =>
    if p.ReportsOk sessionId key.1 then { ledger with completed := key::ledger.completed }
    else ledger
  | none => ledger

def observeAll (sessionId : UInt32) (ledger : MessageLedger) (packets : List Packet) :
    MessageLedger := packets.foldl (observe sessionId) ledger

/-- The ledger of slot `i` once the request is answered. -/
def offered (ledger : MessageLedger) (d : Device) (request : Packet) (i : Fin maxSessions) :
    MessageLedger :=
  if d.Takes request i then ledger.take request.dataKey else ledger

variable {sessionId : UInt32} {ledger : MessageLedger} {key : UInt16 × UInt16}

theorem observe_taken (p : Packet) : (observe sessionId ledger p).taken = ledger.taken := by
  unfold observe
  split
  · split <;> rfl
  · rfl

theorem observe_completed (p : Packet) (h : key ∈ ledger.completed) :
    key ∈ (observe sessionId ledger p).completed := by
  unfold observe
  split
  · split
    · exact List.mem_cons_of_mem _ h
    · exact h
  · exact h

theorem observe_all_taken (packets : List Packet) :
    (observeAll sessionId ledger packets).taken = ledger.taken := by
  induction packets generalizing ledger with
  | nil => rfl
  | cons p packets ih => exact ih.trans (observe_taken p)

theorem observe_all_completed (packets : List Packet) (h : key ∈ ledger.completed) :
    key ∈ (observeAll sessionId ledger packets).completed := by
  induction packets generalizing ledger with
  | nil => exact h
  | cons p packets ih => exact ih (observe_completed p h)

theorem observe_all_append (packets rest : List Packet) :
    observeAll sessionId ledger (packets ++ rest) =
      observeAll sessionId (observeAll sessionId ledger packets) rest :=
  List.foldl_append

/-- The report of the message taken last completes it. -/
theorem observe_all_reported {packets : List Packet} {p : Packet} (hp : p ∈ packets)
    (htaken : ledger.taken = some key) (hreports : p.ReportsOk sessionId key.1) :
    key ∈ (observeAll sessionId ledger packets).completed := by
  induction packets generalizing ledger with
  | nil => cases hp
  | cons p' packets ih =>
    rcases List.mem_cons.mp hp with rfl | hp
    · refine observe_all_completed packets ?_
      unfold observe
      rw [htaken]
      dsimp only
      rw [if_pos hreports]
      exact List.mem_cons_self
    · exact ih hp ((observe_taken p').trans htaken)

end MessageLedger

/-- The ledger accounts for the message the session remembers. -/
structure Tracked (session : Session) (ledger : MessageLedger) : Prop where
  fresh : session.allocated = false → session.hasLastDataMessage = false
  covered : session.hasLastDataMessage = true → session.lastKey ∈ ledger.completed ∨
    (session.dataTransferInProgress = true ∧
      session.dataTransferSequence = session.lastDataSequence ∧
      ledger.taken = some session.lastKey)

namespace Tracked

variable {session session' : Session} {ledger : MessageLedger}

theorem forgotten (ledger : MessageLedger) (h : session.hasLastDataMessage = false) :
    Tracked session ledger :=
  ⟨fun _ => h,fun hlast => absurd (h.symm.trans hlast) (by decide)⟩

theorem observed (h : Tracked session ledger) (sessionId : UInt32) (packets : List Packet) :
    Tracked session (ledger.observeAll sessionId packets) := by
  constructor
  · exact h.fresh
  · intro hlast
    rcases h.covered hlast with hdone | ⟨hprogress,hsequence,htaken⟩
    · exact Or.inl (MessageLedger.observe_all_completed packets hdone)
    · exact Or.inr ⟨hprogress,hsequence,(MessageLedger.observe_all_taken packets).trans htaken⟩

theorem same_key (h : session.SameMessages session') : session'.lastKey = session.lastKey := by
  unfold Session.lastKey
  rw [h.sequence, h.length]

theorem same (h : Tracked session ledger) (hsame : session.SameTransfer session') :
    Tracked session' ledger := by
  constructor
  · intro hfree
    rw [hsame.messages.taken]
    exact h.fresh (hsame.allocated.symm.trans hfree)
  · intro hlast
    rw [same_key hsame.messages, hsame.inProgress, hsame.messages.transfer,
      hsame.messages.sequence]
    exact h.covered (hsame.messages.taken.symm.trans hlast)

/-- A session that remembers its message as complete may lose its transfer. -/
theorem completed (hfresh : session.allocated = false → session.hasLastDataMessage = false)
    (hdone : session.hasLastDataMessage = true → session.lastKey ∈ ledger.completed)
    (hallocated : session'.allocated = session.allocated)
    (hmessages : session.SameMessages session') : Tracked session' ledger := by
  constructor
  · intro hfree
    rw [hmessages.taken]
    exact hfresh (hallocated.symm.trans hfree)
  · intro hlast
    rw [same_key hmessages]
    exact Or.inl (hdone (hmessages.taken.symm.trans hlast))

theorem idle (h : Tracked session ledger) (hidle : session.dataTransferInProgress = false)
    (hlast : session.hasLastDataMessage = true) : session.lastKey ∈ ledger.completed := by
  rcases h.covered hlast with hdone | ⟨hprogress,-,-⟩
  · exact hdone
  · exact absurd (hidle.symm.trans hprogress) (by decide)

theorem offered_idle (h : Tracked session ledger)
    (hidle : session.dataTransferInProgress = false) (d : Device) (request : Packet)
    (i : Fin maxSessions) : Tracked session (ledger.offered d request i) := by
  refine completed h.fresh (fun hlast => ?_) rfl (.refl _)
  unfold MessageLedger.offered
  split
  · exact h.idle hidle hlast
  · exact h.idle hidle hlast

end Tracked

section

variable {d : Device} {request : Packet}

theorem data_handled (hmt : request.mt = mtData) :
    (d.handlePacket request).1 = ((start d).handleDataMessageSend request).1 ∧
      (d.handlePacket request).2.device.sessions =
        ((start d).handleDataMessageSend request).2.device.sessions ∧
      (d.handlePacket request).2.accepted =
        ((start d).handleDataMessageSend request).2.accepted := by
  rw [handle_data hmt]
  exact ⟨rfl,finalize_sessions _ _,finalize_accepted _ _⟩

theorem completion_sessions (x : Exchange) (sessionId : UInt32) (sequenceNumber : UInt16)
    (status : UInt8) :
    (x.queueDataCompletion sessionId sequenceNumber status).2.device.sessions =
      x.device.sessions := by
  rw [queue_data_completion, queueAll_mail]
  rfl

theorem completion_room {x : Exchange} (sessionId : UInt32) (sequenceNumber : UInt16)
    (status : UInt8) (h : x.device.pendingNotifications.length+2 ≤ maxPendingNotifications) :
    (x.queueDataCompletion sessionId sequenceNumber status).1 = .ok ∧
      (x.queueDataCompletion sessionId sequenceNumber status).2.accepted =
        x.accepted ++ dataCompletion sessionId sequenceNumber status 1 := by
  constructor
  · exact (queue_pair_ok x _ _).mpr h
  · rw [queue_data_completion, queueAll_mail, Mailbox.queueAll_room _ _ _ (by exact h)]
    rfl

theorem completion_accepted_mem {x : Exchange} {sessionId : UInt32} {sequenceNumber : UInt16}
    {status : UInt8} {p : Packet}
    (h : p ∈ (x.queueDataCompletion sessionId sequenceNumber status).2.accepted) :
    p ∈ x.accepted ∨ p ∈ dataCompletion sessionId sequenceNumber status 1 := by
  rw [queue_data_completion, queueAll_mail] at h
  exact Mailbox.queueAll_accepted_mem h

theorem credit_not_status (sessionId sessionId' : UInt32) (availability : UInt8)
    (sequenceNumber : UInt16) (status txCount : UInt8) :
    dataCreditNotification sessionId availability ≠
      dataTransferStatusNotification sessionId' sequenceNumber status txCount :=
  fun h => absurd (congrArg Packet.oid h) (show ¬ sessionDataCreditNtf =
    sessionDataTransferStatusNtf by decide)

/-- The status of a completion tells a repetition from a message transmitted. -/
theorem completion_status {sessionId : UInt32} {sequenceNumber : UInt16}
    {status txCount : UInt8} {status' txCount' : UInt8}
    (h : dataTransferStatusNotification sessionId sequenceNumber status txCount ∈
      dataCompletion sessionId sequenceNumber status' txCount') : status = status' := by
  rcases List.mem_pair.mp h with hcredit | hstatus
  · exact absurd hcredit.symm (credit_not_status _ _ _ _ _ _)
  · exact congrArg (fun p : Packet => byteAt p.payload 6) hstatus

theorem completion_reports (sessionId : UInt32) (sequenceNumber : UInt16) (txCount : UInt8) :
    Packet.ReportsOk (dataTransferStatusNotification sessionId sequenceNumber
      dataTransferStatusOk txCount) sessionId sequenceNumber := rfl

/-- Only a message the session remembers is answered as a repetition. -/
theorem acknowledges_remembered (h : d.Acknowledges request) :
    ∃ i, d.AdmitsData request i ∧ (d.sessions i).Remembers request := by
  rcases h with ⟨hmt,hcredit,hstatus⟩
  rw [(data_handled hmt).2.2] at hcredit hstatus
  have houtcome := data_message_outcome d request
  generalize (start d).handleDataMessageSend request = outcome at houtcome hcredit hstatus
  cases houtcome with
  | ignored => cases hcredit
  | refused =>
    exact absurd (List.mem_singleton.mp hcredit) (credit_not_status _ _ _ _ _ _)
  | repeated i admits known => exact ⟨i,admits,known⟩
  | completed i =>
    rcases completion_accepted_mem hstatus with hstart | hqueued
    · cases hstart
    · exact absurd (completion_status hqueued) (by decide)
  | begun => cases hcredit
  | unscheduled => cases hcredit

theorem takes_of_fresh {i : Fin maxSessions} (hmt : request.mt = mtData)
    (admits : d.AdmitsData request i) (hnew : ¬ (d.sessions i).Remembers request)
    (hrc : (d.handlePacket request).1 = .ok) : d.Takes request i := by
  refine ⟨hmt,admits.2.2.1,hrc,fun hack => ?_⟩
  rcases acknowledges_remembered hack with ⟨j,hj,hknown⟩
  have hsame : j = i := Option.some.inj (hj.2.2.1.symm.trans admits.2.2.1)
  subst hsame
  exact hnew hknown

end

end UciSim
