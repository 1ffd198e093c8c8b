import UciSim.DataMessages
import UciSim.ConfigTables
import UciSim.PacketActions

/-!
# What moves the messages of a session

A session keeps the last message it took and the transfer under way until it is
opened, closed or stopped, takes another message, or completes its transfer.
-/

set_option autoImplicit false

namespace UciSim

open Exchange

structure Session.SameTransfer (s s' : Session) : Prop where
  allocated : s'.allocated = s.allocated
  sessionId : s'.sessionId = s.sessionId
  inProgress : s'.dataTransferInProgress = s.dataTransferInProgress
  messages : s.SameMessages s'

theorem Session.SameMessages.refl (s : Session) : s.SameMessages s := ⟨rfl,rfl,rfl,rfl⟩

theorem Session.SameMessages.trans {s s' s'' : Session} (h : s.SameMessages s')
    (h' : s'.SameMessages s'') : s.SameMessages s'' :=
  ⟨h'.taken.trans h.taken,h'.sequence.trans h.sequence,h'.length.trans h.length,
    h'.transfer.trans h.transfer⟩

theorem Session.SameTransfer.refl (s : Session) : s.SameTransfer s := ⟨rfl,rfl,rfl,.refl s⟩

theorem Session.SameTransfer.trans {s s' s'' : Session} (h : s.SameTransfer s')
    (h' : s'.SameTransfer s'') : s.SameTransfer s'' :=
  ⟨h'.allocated.trans h.allocated,h'.sessionId.trans h.sessionId,
    h'.inProgress.trans h.inProgress,h.messages.trans h'.messages⟩

theorem Session.SameLifecycle.transfer {s s' : Session} (h : s.SameLifecycle s') :
    s.SameTransfer s' := ⟨h.allocated,h.sessionId,h.inProgress,h.messages⟩

def Device.SameTransfers (d d' : Device) : Prop :=
  ∀ i, (d.sessions i).SameTransfer (d'.sessions i)

namespace Device.SameTransfers

variable {d d' d'' : Device}

theorem of_sessions (h : d'.sessions = d.sessions) : d.SameTransfers d' := by
  intro i
  rw [h]
  exact .refl _

theorem refl (d : Device) : d.SameTransfers d := of_sessions rfl

theorem trans (h : d.SameTransfers d') (h' : d'.SameTransfers d'') : d.SameTransfers d'' :=
  fun i => (h i).trans (h' i)

theorem setSession {i : Fin maxSessions} {session : Session}
    (h : (d.sessions i).SameTransfer session) : d.SameTransfers (d.setSession i session) := by
  intro j
  by_cases hj : j = i
  · subst hj
    rwa [Device.setSession_same]
  · rw [Device.setSession_other _ _ hj]
    exact .refl _

theorem reconfigured {i : Fin maxSessions} (h : Reconfigured i d d') : d.SameTransfers d' := by
  induction h with
  | same => exact refl d
  | stored d' configId value session before admitted supported stored ih =>
    refine ih.trans (setSession ?_)
    rw [store_config_eq stored, Session.forgetProximity]
    split <;> exact ⟨rfl,rfl,rfl,rfl,rfl,rfl,rfl⟩
  | rescheduled d' delayMs before active streaming ih =>
    rw [Device.reschedule_session_event_snd _ .rangeData _ _ (by decide)]
    exact ih

theorem started (i : Fin maxSessions) : d.SameTransfers (d.onSessionStarted i).2 := by
  rw [started_eq]
  split
  · exact setSession ⟨rfl,rfl,rfl,rfl,rfl,rfl,rfl⟩
  · exact refl d

theorem entering (oid : UInt8) (i : Fin maxSessions) (nextState : UInt8) :
    d.SameTransfers (d.setSession i (d.entering oid i nextState)) := by
  refine setSession ?_
  unfold Device.entering
  dsimp only
  split <;> exact ⟨rfl,rfl,rfl,rfl,rfl,rfl,rfl⟩

theorem sampled {ns : List Packet} (h : Sampled d ns d') : d.SameTransfers d' :=
  of_sessions (sampled_sessions h).1

theorem rangingFinished (i : Fin maxSessions) : d.SameTransfers (d.rangingFinished i) :=
  setSession ⟨rfl,rfl,rfl,rfl,rfl,rfl,rfl⟩

theorem ranged {i : Fin maxSessions} {rc : Rc} {ns : List Packet} (h : Ranged d i rc ns d') :
    d.SameTransfers d' := by
  cases h with
  | idle => exact refl d
  | exhausted => exact rangingFinished i
  | unbuilt => exact of_sessions rfl
  | blocked _ _ _ _ sampled => exact .sampled sampled
  | measured _ d₁ policyResult _ _ sampled =>
    refine (SameTransfers.sampled sampled).trans (setSession ?_)
    rw [(sampled_sessions sampled).1]
    exact ⟨rfl,rfl,rfl,rfl,rfl,rfl,rfl⟩
  | finished _ _ d₁ policyResult _ _ sampled =>
    refine ((SameTransfers.sampled sampled).trans (setSession ?_)).trans (rangingFinished i)
    rw [(sampled_sessions sampled).1]
    exact ⟨rfl,rfl,rfl,rfl,rfl,rfl,rfl⟩

theorem resumed (type : EventType) (i : Fin maxSessions) :
    d.SameTransfers (d.resumed type i) := of_sessions (resumed_sessions d type i)

end Device.SameTransfers

/-- What a command does to the messages of the slot `i`. -/
inductive CommandMessages (d : Device) (request : Packet) (i : Fin maxSessions) : Session → Prop where
  | kept (session : Session) (same : (d.sessions i).SameTransfer session) :
      CommandMessages d request i session
  | opened (sessionId : UInt32) (free : (d.sessions i).allocated = false) :
      CommandMessages d request i (d.freshSession i sessionId)
  | cleared : CommandMessages d request i Session.zero
  | stopped (session : Session) (stops : Moves d request sessionStop i)
      (allocated : session.allocated = (d.sessions i).allocated)
      (messages : (d.sessions i).SameMessages session) : CommandMessages d request i session

theorem CommandMessages.setSession {d : Device} {request : Packet} (i j : Fin maxSessions)
    {session : Session} (h : CommandMessages d request i session) :
    CommandMessages d request j ((d.setSession i session).sessions j) := by
  by_cases hj : j = i
  · subst hj
    rwa [Device.setSession_same]
  · rw [Device.setSession_other d session hj]
    exact .kept _ (.refl _)

theorem entered_messages {d : Device} {request : Packet} {i : Fin maxSessions} {nextState : UInt8}
    (hmoves : request.oid = sessionStop → Moves d request sessionStop i) (j : Fin maxSessions) :
    CommandMessages d request j ((d.entered request.oid i nextState).sessions j) := by
  have hentering := Device.SameTransfers.entering (d := d) request.oid i nextState
  unfold Device.entered Device.reactToTransition
  split
  · exact .kept _ (hentering.trans (.started i) j)
  split
  · rename_i hstop
    by_cases hj : j = i
    · subst hj
      have hsame := hentering j
      refine .stopped _ (hmoves hstop) ?_ ?_
      · exact (congrArg Session.allocated (Device.setSession_same _ j _)).trans hsame.allocated
      · show (d.sessions j).SameMessages (((d.setSession j (d.entering request.oid j
          nextState)).setSession j _).sessions j)
        rw [Device.setSession_same]
        exact ⟨hsame.messages.taken,hsame.messages.sequence,hsame.messages.length,
          hsame.messages.transfer⟩
    · refine .kept _ ?_
      show (d.sessions j).SameTransfer (((d.setSession i (d.entering request.oid i
        nextState)).setSession i _).sessions j)
      rw [Device.setSession_other _ _ hj]
      exact hentering j
  · exact .kept _ (hentering j)

theorem change_messages {d d' : Device} {request : Packet} {ns : List Packet}
    (hmt : request.mt = mtCommand) (h : Change d request ns d') (j : Fin maxSessions) :
    CommandMessages d request j (d'.sessions j) := by
  cases h with
  | housekept _ same => exact .kept _ (Device.SameTransfers.of_sessions same.sessions j)
  | edited i session allocated lifecycle =>
    exact .setSession i j (.kept _ lifecycle.transfer)
  | linked i session _ _ _ _ allocated lifecycle =>
    exact .setSession i j (.kept _ lifecycle.transfer)
  | configured i command supported long found steps =>
    exact .kept _ (Device.SameTransfers.reconfigured steps j)
  | reported => exact .kept _ (.refl _)
  | opened sessionId i reason absent free =>
    exact .setSession i j (.opened sessionId (Device.free_session_some free))
  | closed i => exact .setSession i j .cleared
  | moved i reason transition command supported long found listed allowed =>
    refine entered_messages (fun hoid => ?_) j
    rw [hoid] at listed
    exact ⟨hmt,command,hoid,supported,long,found,transition,listed,allowed⟩
  | reset => exact .cleared

/-- The event makes the last transmission of the message under way at slot `i`. -/
def Device.Completes (d : Device) (event : ScheduledEvent) (i : Fin maxSessions) : Prop :=
  event.type = .dataTransfer ∧ d.findSession event.sessionId = some i ∧
    (d.sessions i).state = sessionStateActive ∧ (d.sessions i).dataTransferInProgress = true ∧
    ¬ (d.sessions i).dataTransferRepetitionsRemaining > 0

instance (d : Device) (event : ScheduledEvent) (i : Fin maxSessions) :
    Decidable (d.Completes event i) := inferInstanceAs (Decidable (_ ∧ _ ∧ _ ∧ _ ∧ _))

/-- What an event does to the messages of the slot `i`. -/
inductive EventMessages (d : Device) (event : ScheduledEvent) (ns : List Packet)
    (i : Fin maxSessions) (session : Session) : Prop where
  | kept (same : (d.sessions i).SameTransfer session)
  | completed (txCount : UInt8) (completes : d.Completes event i)
      (allocated : session.allocated = (d.sessions i).allocated)
      (sessionId : session.sessionId = (d.sessions i).sessionId)
      (messages : (d.sessions i).SameMessages session)
      (reports : ns = dataCompletion (d.sessions i).sessionId (d.sessions i).dataTransferSequence
        dataTransferStatusOk txCount)

theorem EventMessages.then_same {d : Device} {event : ScheduledEvent} {ns : List Packet}
    {i : Fin maxSessions} {session session' : Session} (h : EventMessages d event ns i session)
    (hsame : session.SameTransfer session') : EventMessages d event ns i session' := by
  cases h with
  | kept same => exact .kept (same.trans hsame)
  | completed txCount completes allocated sessionId messages reports =>
    exact .completed txCount completes (hsame.allocated.trans allocated)
      (hsame.sessionId.trans sessionId) (messages.trans hsame.messages) reports

theorem EventMessages.same_id {d : Device} {event : ScheduledEvent} {ns : List Packet}
    {i : Fin maxSessions} {session : Session} (h : EventMessages d event ns i session) :
    session.sessionId = (d.sessions i).sessionId := by
  cases h with
  | kept same => exact same.sessionId
  | completed _ _ _ sessionId => exact sessionId

theorem transferred_messages {d d' : Device} {event : ScheduledEvent} {i : Fin maxSessions}
    {rc : Rc} {ns : List Packet} (htype : event.type = .dataTransfer)
    (hfound : d.findSession event.sessionId = some i)
    (hactive : (d.sessions i).state = sessionStateActive) (h : Transferred d i rc ns d')
    (j : Fin maxSessions) : EventMessages d event ns j (d'.sessions j) := by
  by_cases hj : j = i
  · subst hj
    cases h with
    | repeated =>
      rw [Device.setSession_same]
      exact .kept ⟨rfl,rfl,rfl,rfl,rfl,rfl,rfl⟩
    | completed _ inProgress remaining =>
      rw [Device.setSession_same]
      exact .completed _ ⟨htype,hfound,hactive,inProgress,remaining⟩ rfl rfl ⟨rfl,rfl,rfl,rfl⟩ rfl
  · cases h with
    | repeated | completed =>
      rw [Device.setSession_other _ _ hj]
      exact .kept (.refl _)

theorem fired_messages {d d' : Device} {event : ScheduledEvent} {flushes : Bool}
    {ns : List Packet} (h : Fired d event flushes ns d') (j : Fin maxSessions) :
    EventMessages d event ns j (d'.sessions j) := by
  cases h with
  | unmatched => exact .kept (.refl _)
  | transferIdle => exact .kept (.refl _)
  | rangingFailed _ _ _ _ _ hranged => exact .kept (Device.SameTransfers.ranged hranged j)
  | rangingOver _ _ _ _ _ hranged => exact .kept (Device.SameTransfers.ranged hranged j)
  | rangingOn i _ _ _ _ hranged =>
    exact .kept (((Device.SameTransfers.ranged hranged).trans (.resumed _ i)) j)
  | transferFailed _ _ _ type found active htransferred =>
    exact transferred_messages type found active htransferred j
  | transferOver _ _ _ type found active htransferred =>
    exact transferred_messages type found active htransferred j
  | transferOn i _ _ type found active htransferred =>
    exact (transferred_messages type found active htransferred j).then_same
      (Device.SameTransfers.resumed _ i j)

end UciSim
