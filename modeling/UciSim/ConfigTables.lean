import UciSim.AppConfigEntries
import UciSim.EngineRuns

/-!
# The parameter tables over a run

Only three commands touch the parameters of a session: its creation fills them
with the defaults, its removal and a reset clear them, and a set request stores
entries.
-/

set_option autoImplicit false

namespace UciSim

structure Session.SameTable (s s' : Session) : Prop where
  allocated : s'.allocated = s.allocated
  configs : s'.configs = s.configs

theorem Session.SameTable.refl (s : Session) : s.SameTable s := ⟨rfl,rfl⟩

theorem Session.SameTable.trans {s s' s'' : Session} (h : s.SameTable s')
    (h' : s'.SameTable s'') : s.SameTable s'' :=
  ⟨h'.allocated.trans h.allocated,h'.configs.trans h.configs⟩

def Device.SameTables (d d' : Device) : Prop :=
  ∀ i, (d.sessions i).SameTable (d'.sessions i)

namespace Device.SameTables

theorem of_sessions {d d' : Device} (h : d'.sessions = d.sessions) : d.SameTables d' :=
  fun i => by rw [h]; exact .refl _

theorem trans {d d' d'' : Device} (h : d.SameTables d') (h' : d'.SameTables d'') :
    d.SameTables d'' := fun i => (h i).trans (h' i)

theorem setSession (d : Device) (i : Fin maxSessions) (session : Session)
    (h : (d.sessions i).SameTable session) : d.SameTables (d.setSession i session) := by
  intro j
  by_cases hj : j = i
  · subst hj
    rwa [setSession_same]
  · rw [setSession_other d session hj]
    exact .refl _

theorem rangingFinished (d : Device) (i : Fin maxSessions) : d.SameTables (d.rangingFinished i) :=
  .setSession d i _ ⟨rfl,rfl⟩

theorem scheduleEvent (d : Device) (type : EventType) (sessionId delayMs : UInt32) :
    d.SameTables (d.scheduleEvent type sessionId delayMs).2 := by
  refine .of_sessions ?_
  unfold Device.scheduleEvent
  split_ifs <;> rfl

theorem sampled {d d' : Device} {ns : List Packet} (h : Sampled d ns d') : d.SameTables d' :=
  .of_sessions (Exchange.sampled_sessions h).1

theorem measured {d d' : Device} {ns : List Packet} (i : Fin maxSessions)
    (policyResult : PolicyResult) (h : Sampled d ns d') :
    d.SameTables (d'.setSession i ((d.sessions i).countMeasurement policyResult)) := by
  refine (sampled h).trans (.setSession d' i _ ?_)
  rw [(Exchange.sampled_sessions h).1]
  exact ⟨rfl,rfl⟩

theorem ranged {d d' : Device} {i : Fin maxSessions} {rc : Rc} {ns : List Packet}
    (h : Ranged d i rc ns d') : d.SameTables d' := by
  cases h with
  | idle => exact .of_sessions rfl
  | exhausted => exact .rangingFinished d i
  | unbuilt => exact .of_sessions rfl
  | blocked ns d' scenario streaming hsampled => exact .sampled hsampled
  | measured ns d' policyResult scenario streaming hsampled =>
    exact .measured i policyResult hsampled
  | finished rc ns d' policyResult scenario streaming hsampled =>
    exact (measured i policyResult hsampled).trans (.rangingFinished _ i)

theorem transferred {d d' : Device} {i : Fin maxSessions} {rc : Rc} {ns : List Packet}
    (h : Transferred d i rc ns d') : d.SameTables d' := by
  cases h with
  | repeated => exact .setSession d i _ ⟨rfl,rfl⟩
  | completed => exact .setSession d i _ ⟨rfl,rfl⟩

theorem fired {d d' : Device} {event : ScheduledEvent} {flushes : Bool} {ns : List Packet}
    (h : Fired d event flushes ns d') : d.SameTables d' := by
  cases h with
  | unmatched => exact .of_sessions rfl
  | rangingFailed i _ _ _ _ hranged => exact .ranged hranged
  | rangingOver i _ _ _ _ hranged => exact .ranged hranged
  | rangingOn i ns d' _ _ hranged => exact (ranged hranged).trans (.scheduleEvent _ _ _ _)
  | transferIdle => exact .of_sessions rfl
  | transferFailed i _ _ _ _ _ htransferred => exact .transferred htransferred
  | transferOver i _ _ _ _ _ htransferred => exact .transferred htransferred
  | transferOn i ns d' _ _ _ htransferred =>
    exact (transferred htransferred).trans (.scheduleEvent _ _ _ _)

theorem ticked {d d' : Device} {elapsedMs : UInt32} {flushes : Bool} {ns : List Packet}
    (h : Ticked d elapsedMs flushes ns d') : d.SameTables d' := by
  cases h with
  | waiting => exact .of_sessions rfl
  | served event d₁ _ _ _ ready hfired =>
    obtain ⟨-,hd₁⟩ := Device.dequeue_ready_event_some ready
    have hsame : d.SameTables d₁ := of_sessions (by rw [hd₁]; rfl)
    exact hsame.trans (fired hfired)

theorem reactToTransition (d : Device) (oid : UInt8) (i : Fin maxSessions) :
    d.SameTables (d.reactToTransition oid i) := by
  unfold Device.reactToTransition
  split
  · rw [started_eq]
    split
    · exact .setSession d i _ ⟨rfl,rfl⟩
    · exact .of_sessions rfl
  · split
    · exact .setSession d i _ ⟨rfl,rfl⟩
    · exact .of_sessions rfl

theorem entered (d : Device) (oid : UInt8) (i : Fin maxSessions) (nextState : UInt8) :
    d.SameTables (d.entered oid i nextState) := by
  refine (setSession d i (d.entering oid i nextState) ?_).trans (.reactToTransition _ oid i)
  unfold entering
  dsimp only
  split_ifs <;> exact ⟨rfl,rfl⟩

end Device.SameTables

/-- What one packet does to the parameters of the slot `i`. -/
inductive TableMove (d : Device) (request : Packet) (i : Fin maxSessions) : Session → Prop where
  | kept (session : Session) (same : (d.sessions i).SameTable session) :
      TableMove d request i session
  | opened (sessionId : UInt32) (free : (d.sessions i).allocated = false) :
      TableMove d request i (d.freshSession i sessionId)
  | cleared : TableMove d request i Session.zero
  | configured (sets : Sets d request i) :
      TableMove d request i ((d.reconfigured request i).sessions i)

theorem TableMove.setSession {d : Device} {request : Packet} (i j : Fin maxSessions)
    {session : Session} (h : TableMove d request i session) :
    TableMove d request j ((d.setSession i session).sessions j) := by
  by_cases hj : j = i
  · subst hj
    rwa [Device.setSession_same]
  · rw [Device.setSession_other d session hj]
    exact .kept _ (.refl _)

theorem reconfigured_others {d d' : Device} {i : Fin maxSessions} (h : Reconfigured i d d')
    (j : Fin maxSessions) (hj : j ≠ i) : d'.sessions j = d.sessions j := by
  induction h with
  | same => rfl
  | stored d' configId value session before admitted supported stored ih =>
    rw [Device.setSession_other d' _ hj, ih]
  | rescheduled d' delayMs before active streaming ih =>
    rw [Device.reschedule_session_event_snd _ .rangeData _ _ (by decide)]
    exact ih

theorem served_tables {d d' : Device} {request : Packet} {response : Option Packet}
    {posting : Posting} (h : Served d request response posting d') (j : Fin maxSessions) :
    TableMove d request j (d'.sessions j) := by
  cases h with
  | command response ns errors d' mt responds change error =>
    cases change with
    | housekept _ same => exact .kept _ (Device.SameTables.of_sessions same.sessions j)
    | edited i session allocated lifecycle configs =>
      exact .setSession i j (.kept _ ⟨lifecycle.allocated,configs⟩)
    | linked i session _ _ _ _ allocated lifecycle configs =>
      exact .setSession i j (.kept _ ⟨lifecycle.allocated,configs⟩)
    | configured i command supported long found steps =>
      by_cases hj : j = i
      · subst hj
        exact .configured ⟨⟨mt,command⟩,supported,long,found⟩
      · rw [reconfigured_others steps j hj]
        exact .kept _ (.refl _)
    | reported => exact .kept _ (.refl _)
    | opened sessionId i reason absent free =>
      exact .setSession i j (.opened sessionId (Device.free_session_some free))
    | closed i => exact .setSession i j .cleared
    | moved i => exact .kept _ (Device.SameTables.entered d request.oid i _ j)
    | reset => exact .cleared
  | data posting d' mt change =>
    cases change with
    | completed i => exact .setSession i j (.kept _ ⟨rfl,rfl⟩)
    | begun i => exact .setSession i j (.kept _ ⟨rfl,rfl⟩)
    | unscheduled i => exact .setSession i j (.kept _ ⟨rfl,rfl⟩)
    | _ => exact .kept _ (.refl _)

theorem store_config_configs (session : Session) (configId : UInt8) (value : List UInt8) :
    ((session.storeConfig configId value).getD session).configs =
      if value.length > maxConfigValue then session.configs
      else (Table.store maxSessionConfigs session.configs configId value).getD
        session.configs := by
  unfold Session.storeConfig
  split
  · rfl
  · cases Table.store maxSessionConfigs session.configs configId value <;> rfl

theorem store_defaults_configs {session session' : Session}
    (h : session.configs = session'.configs) (defaults : List (UInt8 × List UInt8)) :
    (session.storeDefaults defaults).configs = (session'.storeDefaults defaults).configs := by
  induction defaults generalizing session session' with
  | nil => exact h
  | cons entry defaults ih =>
    refine ih ?_
    dsimp only
    rw [store_config_configs, store_config_configs, h]

end UciSim
