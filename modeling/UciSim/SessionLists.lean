import UciSim.SessionSlots

/-!
# The lists of a session

No event, no state transition and no parameter of a session touches its multicast
entries or its logical links.
-/

set_option autoImplicit false

namespace UciSim

open Exchange

def Session.lists (session : Session) : List (Option MulticastEntry) × List LogicalLink :=
  (session.multicastEntries,session.logicalLinks)

/-- The lists stay, and a session in use keeps its slot. -/
structure Session.SameLists (s s' : Session) : Prop where
  lists : s'.lists = s.lists
  allocated : s.allocated = true → s'.allocated = true
  sessionId : s.allocated = true → s'.sessionId = s.sessionId

namespace Session.SameLists

theorem refl (s : Session) : s.SameLists s := ⟨rfl,id,fun _ => rfl⟩

theorem trans {s s' s'' : Session} (h : s.SameLists s') (h' : s'.SameLists s'') :
    s.SameLists s'' where
  lists := h'.lists.trans h.lists
  allocated ha := h'.allocated (h.allocated ha)
  sessionId ha := (h'.sessionId (h.allocated ha)).trans (h.sessionId ha)

theorem of_same {s s' : Session} (hl : s'.lists = s.lists) (ha : s'.allocated = s.allocated)
    (hid : s'.sessionId = s.sessionId) : s.SameLists s' :=
  ⟨hl,fun h => ha.trans h,fun _ => hid⟩

theorem storeConfig {s s' : Session} {configId : UInt8} {value : List UInt8}
    (h : s.storeConfig configId value = some s') : s.SameLists s' := by
  rw [store_config_eq h]
  exact of_same rfl rfl rfl

theorem storeDefaults (s : Session) (defaults : List (UInt8 × List UInt8)) :
    s.SameLists (s.storeDefaults defaults) := by
  induction defaults generalizing s with
  | nil => exact refl s
  | cons entry defaults ih =>
    have hentry : s.SameLists ((s.storeConfig entry.1 entry.2).getD s) := by
      cases h : s.storeConfig entry.1 entry.2 with
      | none => exact refl s
      | some s' => exact storeConfig h
    exact hentry.trans (ih _)

theorem forgetProximity (s : Session) (configId : UInt8) :
    s.SameLists (s.forgetProximity configId) := by
  unfold Session.forgetProximity
  split
  · exact of_same rfl rfl rfl
  · exact refl s

end Session.SameLists

def Device.SameLists (d d' : Device) : Prop := ∀ i, (d.sessions i).SameLists (d'.sessions i)

namespace Device.SameLists

theorem of_sessions {d d' : Device} (h : d'.sessions = d.sessions) : d.SameLists d' := by
  intro i
  rw [h]
  exact .refl _

theorem trans {d d' d'' : Device} (h : d.SameLists d') (h' : d'.SameLists d'') :
    d.SameLists d'' := fun i => (h i).trans (h' i)

theorem setSession (d : Device) (i : Fin maxSessions) (session : Session)
    (h : (d.sessions i).SameLists session) : d.SameLists (d.setSession i session) := by
  intro j
  by_cases hj : j = i
  · subst hj
    rwa [Device.setSession_same]
  · rw [Device.setSession_other d session hj]
    exact .refl _

theorem rangingFinished (d : Device) (i : Fin maxSessions) : d.SameLists (d.rangingFinished i) :=
  setSession d i _ (.of_same rfl rfl rfl)

theorem resumed (d : Device) (type : EventType) (i : Fin maxSessions) :
    d.SameLists (d.resumed type i) := of_sessions (resumed_sessions d type i)

theorem measured {d d' : Device} {ns : List Packet} (i : Fin maxSessions)
    (policyResult : PolicyResult) (h : Sampled d ns d') :
    d.SameLists (d'.setSession i ((d.sessions i).countMeasurement policyResult)) := by
  have hsessions := (sampled_sessions h).1
  refine (of_sessions hsessions).trans (setSession d' i _ ?_)
  rw [hsessions]
  exact .of_same rfl rfl rfl

theorem ranged {d d' : Device} {i : Fin maxSessions} {rc : Rc} {ns : List Packet}
    (h : Ranged d i rc ns d') : d.SameLists d' := by
  cases h with
  | idle => exact of_sessions rfl
  | exhausted => exact rangingFinished d i
  | unbuilt => exact of_sessions rfl
  | blocked ns d' scenario streaming hsampled => exact of_sessions (sampled_sessions hsampled).1
  | measured ns d' policyResult scenario streaming hsampled =>
    exact measured i policyResult hsampled
  | finished rc ns d' policyResult scenario streaming hsampled =>
    exact (measured i policyResult hsampled).trans (rangingFinished _ i)

theorem transferred {d d' : Device} {i : Fin maxSessions} {rc : Rc} {ns : List Packet}
    (h : Transferred d i rc ns d') : d.SameLists d' := by
  cases h with
  | repeated => exact setSession d i _ (.of_same rfl rfl rfl)
  | completed => exact setSession d i _ (.of_same rfl rfl rfl)

theorem fired {d d' : Device} {event : ScheduledEvent} {flushes : Bool} {ns : List Packet}
    (h : Fired d event flushes ns d') : d.SameLists d' := by
  cases h with
  | unmatched => exact of_sessions rfl
  | rangingFailed i _ _ _ _ hranged => exact ranged hranged
  | rangingOver i _ _ _ _ hranged => exact ranged hranged
  | rangingOn i ns d' _ _ hranged => exact (ranged hranged).trans (resumed _ _ _)
  | transferIdle => exact of_sessions rfl
  | transferFailed i _ _ _ _ _ htransferred => exact transferred htransferred
  | transferOver i _ _ _ _ _ htransferred => exact transferred htransferred
  | transferOn i ns d' _ _ _ htransferred =>
    exact (transferred htransferred).trans (resumed _ _ _)

theorem ticked {d d' : Device} {elapsedMs : UInt32} {flushes : Bool} {ns : List Packet}
    (h : Ticked d elapsedMs flushes ns d') : d.SameLists d' := by
  cases h with
  | waiting => exact of_sessions rfl
  | served event d₁ _ _ _ ready hfired =>
    rcases Device.dequeue_ready_event_some ready with ⟨-,hd₁⟩
    have hsame : d.SameLists d₁ := of_sessions (by rw [hd₁]; rfl)
    exact hsame.trans (fired hfired)

theorem reactToTransition (d : Device) (oid : UInt8) (i : Fin maxSessions) :
    d.SameLists (d.reactToTransition oid i) := by
  unfold Device.reactToTransition
  split
  · rw [started_eq]
    split
    · exact setSession d i _ (.of_same rfl rfl rfl)
    · exact of_sessions rfl
  · split
    · exact setSession d i _ (.of_same rfl rfl rfl)
    · exact of_sessions rfl

theorem entered (d : Device) (oid : UInt8) (i : Fin maxSessions) (nextState : UInt8) :
    d.SameLists (d.entered oid i nextState) := by
  refine (setSession d i (d.entering oid i nextState) ?_).trans (reactToTransition _ oid i)
  unfold entering
  dsimp only
  split_ifs <;> exact .of_same rfl rfl rfl

end Device.SameLists

end UciSim
