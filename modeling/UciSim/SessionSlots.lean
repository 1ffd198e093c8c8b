import UciSim.AppConfigEntries
import UciSim.EngineRuns
import UciSim.General.Slots

/-!
# The slots of the session table

Whatever the engine does, no identifier has two slots and a slot that is not
allocated is all zero: a session keeps its slot, a new one takes a free slot,
and one that ends leaves zeros.
-/

set_option autoImplicit false

namespace UciSim

open Exchange

def Session.layout : Slots.Layout UInt32 Session where
  used session := session.allocated
  key session := session.sessionId
  blank := .zero
  blank_unused := rfl

/-- The session keeps its slot, and a slot without one stays as it is. -/
structure Session.SameSlot (s s' : Session) : Prop where
  allocated : s'.allocated = s.allocated
  sessionId : s'.sessionId = s.sessionId
  vacant : s.allocated = false → s' = s

theorem Session.SameSlot.refl (s : Session) : s.SameSlot s := ⟨rfl,rfl,fun _ => rfl⟩

theorem Session.SameSlot.trans {s s' s'' : Session} (h : s.SameSlot s') (h' : s'.SameSlot s'') :
    s.SameSlot s'' where
  allocated := h'.allocated.trans h.allocated
  sessionId := h'.sessionId.trans h.sessionId
  vacant hfree := (h'.vacant (h.allocated.trans hfree)).trans (h.vacant hfree)

theorem Session.SameSlot.used {s s' : Session} (ha : s.allocated = true)
    (hallocated : s'.allocated = s.allocated) (hid : s'.sessionId = s.sessionId) : s.SameSlot s' :=
  ⟨hallocated,hid,fun hfree => absurd (ha.symm.trans hfree) (by decide)⟩

def Device.SameSlots (d d' : Device) : Prop := ∀ i, (d.sessions i).SameSlot (d'.sessions i)

namespace Device.SameSlots

theorem of_sessions {d d' : Device} (h : d'.sessions = d.sessions) : d.SameSlots d' := by
  intro i
  rw [h]
  exact .refl _

theorem trans {d d' d'' : Device} (h : d.SameSlots d') (h' : d'.SameSlots d'') :
    d.SameSlots d'' := fun i => (h i).trans (h' i)

theorem setSession {d : Device} {i : Fin maxSessions} {session : Session}
    (h : (d.sessions i).SameSlot session) : d.SameSlots (d.setSession i session) := by
  intro j
  by_cases hj : j = i
  · subst hj
    rwa [Device.setSession_same]
  · rw [Device.setSession_other d session hj]
    exact .refl _

theorem rangingFinished {d : Device} {i : Fin maxSessions} (ha : (d.sessions i).allocated = true) :
    d.SameSlots (d.rangingFinished i) := setSession (.used ha rfl rfl)

theorem resumed (d : Device) (type : EventType) (i : Fin maxSessions) :
    d.SameSlots (d.resumed type i) := of_sessions (resumed_sessions d type i)

theorem measured {d d' : Device} {ns : List Packet} {i : Fin maxSessions}
    (ha : (d.sessions i).allocated = true) (policyResult : PolicyResult) (h : Sampled d ns d') :
    d.SameSlots (d'.setSession i ((d.sessions i).countMeasurement policyResult)) := by
  have hsessions := (sampled_sessions h).1
  refine (of_sessions hsessions).trans (setSession ?_)
  rw [hsessions]
  exact .used ha rfl rfl

theorem ranged {d d' : Device} {i : Fin maxSessions} {rc : Rc} {ns : List Packet}
    (ha : (d.sessions i).allocated = true) (h : Ranged d i rc ns d') : d.SameSlots d' := by
  cases h with
  | idle => exact .of_sessions rfl
  | exhausted => exact rangingFinished ha
  | unbuilt => exact .of_sessions rfl
  | blocked _ _ _ _ sampled => exact .of_sessions (sampled_sessions sampled).1
  | measured _ _ policyResult _ _ sampled => exact measured ha policyResult sampled
  | finished _ _ d' policyResult _ _ sampled =>
    refine (measured ha policyResult sampled).trans (rangingFinished ?_)
    rw [setSession_same]
    exact ha

theorem transferred {d d' : Device} {i : Fin maxSessions} {rc : Rc} {ns : List Packet}
    (ha : (d.sessions i).allocated = true) (h : Transferred d i rc ns d') : d.SameSlots d' := by
  cases h with
  | repeated => exact setSession (.used ha rfl rfl)
  | completed => exact setSession (.used ha rfl rfl)

theorem fired {d d' : Device} {event : ScheduledEvent} {flushes : Bool} {ns : List Packet}
    (h : Fired d event flushes ns d') : d.SameSlots d' := by
  cases h with
  | unmatched => exact .of_sessions rfl
  | rangingFailed _ _ _ _ found fired => exact ranged (find_session_some found).1 fired
  | rangingOver _ _ _ _ found fired => exact ranged (find_session_some found).1 fired
  | rangingOn _ _ _ _ found fired =>
    exact (ranged (find_session_some found).1 fired).trans (resumed _ _ _)
  | transferIdle => exact .of_sessions rfl
  | transferFailed _ _ _ _ found _ fired => exact transferred (find_session_some found).1 fired
  | transferOver _ _ _ _ found _ fired => exact transferred (find_session_some found).1 fired
  | transferOn _ _ _ _ found _ fired =>
    exact (transferred (find_session_some found).1 fired).trans (resumed _ _ _)

theorem ticked {d d' : Device} {elapsedMs : UInt32} {flushes : Bool} {ns : List Packet}
    (h : Ticked d elapsedMs flushes ns d') : d.SameSlots d' := by
  cases h with
  | waiting => exact .of_sessions rfl
  | served event d₁ _ _ _ ready hfired =>
    have hsame : d.SameSlots d₁ := of_sessions (by rw [(dequeue_ready_event_some ready).2]; rfl)
    exact hsame.trans (fired hfired)

theorem stored {d : Device} {i : Fin maxSessions} (ha : (d.sessions i).allocated = true)
    (configId : UInt8) (value : List UInt8) : d.SameSlots (d.stored i configId value) := by
  rcases storing_eq d i configId value with ⟨-,-,hid,hallocated⟩
  have hsame : d.SameSlots (d.setSession i (d.storing i configId value)) :=
    setSession (.used ha hallocated hid)
  unfold Device.stored
  split
  · exact hsame
  · exact hsame

theorem reconfigured {d : Device} (request : Packet) {i : Fin maxSessions}
    (ha : (d.sessions i).allocated = true) : d.SameSlots (d.reconfigured request i) := by
  have hkept := set_app_configs_invariant (P := fun d' => d.SameSlots d') (e := fun _ _ => True)
    (i := i) ?_ (byteAt request.payload 4).toNat (request.payload.drop 5) d (.of_sessions rfl)
    fun _ _ => trivial
  · exact hkept
  · intro d' configId value hd' _ _
    exact hd'.trans (stored ((hd' i).allocated.trans ha) configId value)

theorem reacted {d : Device} (oid : UInt8) {i : Fin maxSessions}
    (ha : (d.sessions i).allocated = true) : d.SameSlots (d.reactToTransition oid i) := by
  unfold Device.reactToTransition
  rw [started_eq]
  split_ifs
  · exact setSession (.used ha rfl rfl)
  · exact .of_sessions rfl
  · exact setSession (.used ha rfl rfl)
  · exact .of_sessions rfl

theorem entered {d : Device} (oid : UInt8) {i : Fin maxSessions} (nextState : UInt8)
    (ha : (d.sessions i).allocated = true) : d.SameSlots (d.entered oid i nextState) := by
  have hentering : (d.sessions i).SameSlot (d.entering oid i nextState) := by
    unfold entering
    dsimp only
    split <;> exact .used ha rfl rfl
  refine (setSession hentering).trans (reacted oid ?_)
  rw [setSession_same, hentering.allocated, ha]

end Device.SameSlots

/-- No identifier has two slots, and a slot that is not allocated is all zero. -/
abbrev Device.SlotsKept (d : Device) : Prop := Slots.Kept Session.layout d.sessions

namespace Device.SlotsKept

variable {d d' : Device}

theorem same (h : d.SlotsKept) (hs : d.SameSlots d') : d'.SlotsKept := by
  constructor
  · intro i j hi hj hkey
    have hids : (d.sessions i).sessionId = (d.sessions j).sessionId := by
      rw [← (hs i).sessionId, ← (hs j).sessionId]
      exact hkey
    exact h.distinct i j ((hs i).allocated.symm.trans hi) ((hs j).allocated.symm.trans hj) hids
  · intro i hi
    have hfree := (hs i).allocated.symm.trans hi
    exact ((hs i).vacant hfree).trans (h.blank i hfree)

theorem zero (h : d.SlotsKept) (i : Fin maxSessions) : (d.setSession i Session.zero).SlotsKept :=
  Slots.kept_update h (fun ha => absurd ha (by decide)) fun _ => rfl

theorem cleared (h : d'.sessions = fun _ => Session.zero) : d'.SlotsKept := by
  constructor
  · intro i j hi
    rw [h] at hi
    cases hi
  · intro i _
    rw [h]
    rfl

theorem fresh (h : d.SlotsKept) {sessionId : UInt32} {i : Fin maxSessions}
    (absent : d.findSession sessionId = none) :
    (d.setSession i (d.freshSession i sessionId)).SlotsKept := by
  have hfresh := fresh_session_eq d i sessionId
  refine Slots.kept_update h ?_ ?_
  · intro _ j _ hj
    show (d.sessions j).sessionId ≠ (d.freshSession i sessionId).sessionId
    rw [hfresh]
    exact find_session_none absent j hj
  · intro hfree
    change (d.freshSession i sessionId).allocated = false at hfree
    rw [hfresh] at hfree
    cases hfree

theorem changed {request : Packet} {ns : List Packet} (h : d.SlotsKept)
    (hchange : Change d request ns d') : d'.SlotsKept := by
  cases hchange with
  | housekept _ same => exact h.same (.of_sessions same.sessions)
  | edited i session allocated lifecycle configs =>
    exact h.same (.setSession (.used allocated lifecycle.allocated lifecycle.sessionId))
  | linked i session _ _ _ _ allocated lifecycle configs =>
    exact h.same (.setSession (.used allocated lifecycle.allocated lifecycle.sessionId))
  | configured i command supported long found =>
    exact h.same (.reconfigured request (find_session_some found).1)
  | reported => exact h
  | opened sessionId i reason absent free => exact h.fresh absent
  | closed i => exact h.zero i
  | moved i reason transition command supported long found =>
    exact h.same (.entered request.oid _ (find_session_some found).1)
  | reset => exact cleared rfl

theorem served {request : Packet} {response : Option Packet} {posting : Posting}
    (h : d.SlotsKept) (hserved : Served d request response posting d') : d'.SlotsKept := by
  cases hserved with
  | command response ns errors d' mt responds change => exact h.changed change
  | data posting d' mt change =>
    cases change with
    | ignored => exact h
    | refused => exact h
    | repeated => exact h
    | completed i _ _ found =>
      exact h.same (.setSession (.used (find_session_some found).1 rfl rfl))
    | begun i _ _ _ found =>
      exact h.same (.setSession (.used (find_session_some found).1 rfl rfl))
    | unscheduled i _ _ found =>
      exact h.same (.setSession (.used (find_session_some found).1 rfl rfl))

theorem step {r : Run} (op : Op) (h : r.engine.device.SlotsKept) :
    (r.step op).engine.device.SlotsKept :=
  r.step_device (P := Device.SlotsKept) (G := fun _ _ => True) (fun _ _ hd => hd)
    (fun _ _ _ _ _ hd _ hserved => hd.served hserved)
    (fun _ _ _ _ _ hd hticked => hd.same (.ticked hticked)) op h fun _ _ => trivial

theorem reached (profile : Profile) (scenario : Scenario) (ops : List Op) :
    (Run.reached profile scenario ops).engine.device.SlotsKept :=
  Runs.invariant_of_all_steps (I := fun r : Run => r.engine.device.SlotsKept)
    (fun _ op h => h.step op) _ ops (cleared rfl)

end Device.SlotsKept

end UciSim
