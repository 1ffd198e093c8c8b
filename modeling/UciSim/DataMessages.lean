import UciSim.EngineEffects

/-!
# Data messages

A complete data message is refused, recognised as a repetition of the last one,
completed at once, or begun as a transfer. A transfer that finds no room in the
event queue is given up again, but the session remembers its message.
-/

set_option autoImplicit false

namespace UciSim

open Exchange

/-- The last message the session took has the sequence number and length of the request. -/
def Session.Remembers (session : Session) (request : Packet) : Prop :=
  session.hasLastDataMessage = true ∧ session.lastDataSequence = readU16Le request.payload 12 ∧
    session.lastDataLength = readU16Le request.payload 14

instance (session : Session) (request : Packet) : Decidable (session.Remembers request) :=
  inferInstanceAs (Decidable (_ ∧ _ ∧ _))

/-- A data message with a complete header. -/
def Packet.CarriesData (request : Packet) : Prop :=
  request.gid = dataPacketFormatSend ∧ request.oid = 0x00 ∧ 16 ≤ request.payload.length

instance (request : Packet) : Decidable request.CarriesData :=
  inferInstanceAs (Decidable (_ ∧ _ ∧ _))

/-- The session at slot `i` takes the message of the request. -/
def Device.AdmitsData (d : Device) (request : Packet) (i : Fin maxSessions) : Prop :=
  request.CarriesData ∧ 16+(readU16Le request.payload 14).toNat ≤ request.payload.length ∧
    d.findSession (readU32Le request.payload 0) = some i ∧
    (d.sessions i).state = sessionStateActive ∧ (d.sessions i).dataTransferInProgress = false

instance (d : Device) (request : Packet) (i : Fin maxSessions) :
    Decidable (d.AdmitsData request i) := inferInstanceAs (Decidable (_ ∧ _ ∧ _ ∧ _ ∧ _))

namespace Session

/-- The session once it has taken the message of the request. -/
def rememberRequest (session : Session) (request : Packet) : Session :=
  session.rememberData (readU16Le request.payload 12) (readU16Le request.payload 14)

/-- The session once the message of the request is being transferred. -/
def beginRequest (session : Session) (request : Packet) : Session :=
  (session.rememberRequest request).beginTransfer session.getDataRepetitionCount
    (readU16Le request.payload 12)

theorem remembers_request (session : Session) (request : Packet) :
    (session.rememberRequest request).Remembers request := ⟨rfl,rfl,rfl⟩

end Session

inductive DataOutcome (d : Device) (request : Packet) : Rc × Exchange → Prop where
  | ignored (h : ¬ request.CarriesData) : DataOutcome d request (.err,start d)
  | refused (h : request.CarriesData) (none : ∀ i, ¬ d.AdmitsData request i)
      (status txCount : UInt8) : DataOutcome d request
        (.err,(start d).placeNotification (dataTransferStatusNotification
          (readU32Le request.payload 0) (readU16Le request.payload 12) status txCount))
  | repeated (i : Fin maxSessions) (admits : d.AdmitsData request i)
      (known : (d.sessions i).Remembers request) : DataOutcome d request
        ((start d).queueDataCompletion (readU32Le request.payload 0)
          (readU16Le request.payload 12) dataTransferStatusRepetitionOk)
  | completed (i : Fin maxSessions) (admits : d.AdmitsData request i)
      (new : ¬ (d.sessions i).Remembers request)
      (once : (d.sessions i).getDataRepetitionCount = 0) : DataOutcome d request
        (((start d).setSession i ((d.sessions i).rememberRequest request)).queueDataCompletion
          (readU32Le request.payload 0) (readU16Le request.payload 12) dataTransferStatusOk)
  | begun (i : Fin maxSessions) (delayMs : UInt32) (admits : d.AdmitsData request i)
      (new : ¬ (d.sessions i).Remembers request)
      (repeats : (d.sessions i).getDataRepetitionCount ≠ 0)
      (room : d.scheduledEvents.length < maxScenarioEvents)
      (delay : delayMs = (d.sessions i).getRangingIntervalMs d.profile) : DataOutcome d request
        (.ok,start ((d.setSession i ((d.sessions i).beginRequest request)).withEvents
          (d.scheduledEvents ++ [⟨.dataTransfer,readU32Le request.payload 0,delayMs⟩])))
  | unscheduled (i : Fin maxSessions) (admits : d.AdmitsData request i)
      (new : ¬ (d.sessions i).Remembers request)
      (repeats : (d.sessions i).getDataRepetitionCount ≠ 0)
      (full : maxScenarioEvents ≤ d.scheduledEvents.length) : DataOutcome d request
        (.err,start (d.setSession i ((d.sessions i).beginRequest request).abandonTransfer))

theorem data_message_outcome (d : Device) (request : Packet) :
    DataOutcome d request ((start d).handleDataMessageSend request) := by
  unfold handleDataMessageSend
  split
  · rename_i hformat
    exact .ignored fun h => hformat.elim (absurd h.1) (absurd h.2.1)
  rename_i hformat
  split
  · rename_i hshort
    exact .ignored fun h => absurd h.2.2 (Nat.not_le.mpr hshort)
  rename_i hlong
  have hcarries : request.CarriesData :=
    ⟨not_not.mp (not_or.mp hformat).1,not_not.mp (not_or.mp hformat).2,Nat.le_of_not_lt hlong⟩
  dsimp only
  split
  · rename_i hlength
    exact .refused hcarries (fun i hi => absurd hi.2.1 (Nat.not_le.mpr hlength)) _ _
  rename_i hlength
  split
  · rename_i hfind
    exact .refused hcarries (fun i hi => absurd (hfind.symm.trans hi.2.2.1) nofun) _ _
  rename_i i hfind
  have hsame : ∀ j, d.AdmitsData request j → j = i := by
    intro j hj
    exact Option.some.inj (hj.2.2.1.symm.trans hfind)
  split
  · rename_i hidle
    exact .refused hcarries (fun j hj => absurd (hsame j hj ▸ hj.2.2.2.1) hidle) _ _
  rename_i hactive
  split
  · rename_i hbusy
    exact .refused hcarries (fun j hj =>
      absurd (hbusy.symm.trans (hsame j hj ▸ hj.2.2.2.2)) (by decide)) _ _
  rename_i hidle
  have hadmits : d.AdmitsData request i :=
    ⟨hcarries,Nat.le_of_not_lt hlength,hfind,not_not.mp hactive,Bool.eq_false_iff.mpr hidle⟩
  split
  · exact .repeated i hadmits ‹_›
  rename_i hnew
  split
  · exact .completed i hadmits hnew ‹_›
  rename_i hrepeats
  change DataOutcome d request (((start d).setSession i
    ((d.sessions i).rememberRequest request)).beginDataTransfer i _ _
      (d.sessions i).getDataRepetitionCount)
  rw [begin_data_transfer_eq]
  by_cases hroom : d.scheduledEvents.length < maxScenarioEvents
  · rw [Device.schedule_event_room (d.setSession i _) _ _ _ (by decide) hroom]
    exact .begun i _ hadmits hnew hrepeats hroom rfl
  · rw [Device.schedule_event_full (d.setSession i _) _ _ _ (Nat.le_of_not_lt hroom)]
    exact .unscheduled i hadmits hnew hrepeats (Nat.le_of_not_lt hroom)

theorem remembers_congr {s s' : Session} {request : Packet}
    (hlast : s'.hasLastDataMessage = s.hasLastDataMessage)
    (hsequence : s'.lastDataSequence = s.lastDataSequence)
    (hlength : s'.lastDataLength = s.lastDataLength) :
    s'.Remembers request ↔ s.Remembers request := by
  unfold Session.Remembers
  rw [hlast, hsequence, hlength]

/-- Both devices remember the same message in every slot. -/
def Device.SameMemory (d d' : Device) : Prop :=
  ∀ i request, (d'.sessions i).Remembers request ↔ (d.sessions i).Remembers request

namespace Device.SameMemory

variable {d d' d'' : Device}

theorem refl (d : Device) : d.SameMemory d := fun _ _ => Iff.rfl

theorem trans (h : d.SameMemory d') (h' : d'.SameMemory d'') : d.SameMemory d'' :=
  fun i request => (h' i request).trans (h i request)

theorem of_sessions (h : d'.sessions = d.sessions) : d.SameMemory d' := by
  intro i request
  rw [h]

theorem setSession {i : Fin maxSessions} {session : Session}
    (h : ∀ request, session.Remembers request ↔ (d.sessions i).Remembers request) :
    d.SameMemory (d.setSession i session) := by
  intro j request
  by_cases hj : j = i
  · subst hj
    rw [Device.setSession_same]
    exact h request
  · rw [Device.setSession_other _ _ hj]

theorem rangingFinished (i : Fin maxSessions) : d.SameMemory (d.rangingFinished i) :=
  setSession fun _ => remembers_congr rfl rfl rfl

theorem sampled {ns : List Packet} (h : Sampled d ns d') : d.SameMemory d' :=
  of_sessions (sampled_sessions h).1

theorem ranged {i : Fin maxSessions} {rc : Rc} {ns : List Packet} (h : Ranged d i rc ns d') :
    d.SameMemory d' := by
  cases h with
  | idle => exact refl d
  | exhausted => exact rangingFinished i
  | unbuilt => exact of_sessions rfl
  | blocked _ _ _ _ sampled => exact .sampled sampled
  | measured _ d₁ policyResult _ _ sampled =>
    refine (SameMemory.sampled sampled).trans (setSession fun request => ?_)
    rw [(sampled_sessions sampled).1]
    exact remembers_congr rfl rfl rfl
  | finished _ _ d₁ policyResult _ _ sampled =>
    refine ((SameMemory.sampled sampled).trans (setSession fun request => ?_)).trans
      (rangingFinished i)
    rw [(sampled_sessions sampled).1]
    exact remembers_congr rfl rfl rfl

theorem transferred {i : Fin maxSessions} {rc : Rc} {ns : List Packet}
    (h : Transferred d i rc ns d') : d.SameMemory d' := by
  cases h with
  | repeated => exact setSession fun _ => remembers_congr rfl rfl rfl
  | completed => exact setSession fun _ => remembers_congr rfl rfl rfl

theorem resumed (type : EventType) (i : Fin maxSessions) : d.SameMemory (d.resumed type i) :=
  of_sessions (resumed_sessions d type i)

theorem fired {event : ScheduledEvent} {flushes : Bool} {ns : List Packet}
    (h : Fired d event flushes ns d') : d.SameMemory d' := by
  cases h with
  | unmatched => exact refl d
  | transferIdle => exact refl d
  | rangingFailed _ _ _ _ _ hranged => exact .ranged hranged
  | rangingOver _ _ _ _ _ hranged => exact .ranged hranged
  | rangingOn i _ _ _ _ hranged => exact (SameMemory.ranged hranged).trans (resumed _ i)
  | transferFailed _ _ _ _ _ _ htransferred => exact .transferred htransferred
  | transferOver _ _ _ _ _ _ htransferred => exact .transferred htransferred
  | transferOn i _ _ _ _ _ htransferred =>
    exact (SameMemory.transferred htransferred).trans (resumed _ i)

theorem ticked {elapsedMs : UInt32} {flushes : Bool} {ns : List Packet}
    (h : Ticked d elapsedMs flushes ns d') : d.SameMemory d' := by
  cases h with
  | waiting => exact of_sessions rfl
  | served event d₁ _ _ _ ready hfired =>
    rcases Device.dequeue_ready_event_some ready with ⟨-,hd₁⟩
    have hserved : d.SameMemory d₁ := of_sessions (by rw [hd₁]; rfl)
    exact hserved.trans (.fired hfired)

end Device.SameMemory

end UciSim
