import UciSim.LifecycleShape

/-!
# What a host can follow

Some actions are signalled. A host that replays the signals in order knows the
state of every session.
-/

set_option autoImplicit false

namespace UciSim

inductive Signal where
  | status (sessionId : UInt32) (state : UInt8)
  | cleared
  deriving DecidableEq, Repr

abbrev SessionStates := UInt32 → Option UInt8

/-- The last state of each session, the session forgotten when it is closed. -/
def observe (known : SessionStates) : Signal → SessionStates
  | .cleared => fun _ => none
  | .status sessionId state => Function.update known sessionId
      (if state = sessionStateDeinit then none else some state)

namespace View

def find (v : View) (sessionId : UInt32) : Option (Fin maxSessions) :=
  (List.finRange maxSessions).find? (fun i =>
    (v.slots i).allocated && (v.slots i).sessionId == sessionId)

def sessionStates (v : View) : SessionStates :=
  fun sessionId => (v.find sessionId).map (fun i => (v.slots i).state)

def signal (v : View) : Action → Option Signal
  | .opened _ sessionId => some (.status sessionId sessionStateInit)
  | .closed i => some (.status (v.slots i).sessionId sessionStateDeinit)
  | .started i _ => some (.status (v.slots i).sessionId sessionStateActive)
  | .stopped i => some (.status (v.slots i).sessionId sessionStateIdle)
  | .reported i => some (.status (v.slots i).sessionId (v.slots i).state)
  | .ended i => some (.status (v.slots i).sessionId sessionStateIdle)
  | .reset => some .cleared
  | _ => none

def signals (v : View) : List Action → List Signal
  | [] => []
  | a::actions => (v.signal a).toList ++ (v.apply a).signals actions

theorem find_some {v : View} {sessionId : UInt32} {i : Fin maxSessions}
    (h : v.find sessionId = some i) :
    (v.slots i).allocated = true ∧ (v.slots i).sessionId = sessionId := by
  have := List.find?_some h
  simpa using this

theorem find_of_allocated {v : View} (hw : v.WellFormed) {i : Fin maxSessions}
    (ha : (v.slots i).allocated = true) : v.find (v.slots i).sessionId = some i := by
  cases h : v.find (v.slots i).sessionId with
  | none =>
    have := List.find?_eq_none.mp h i (List.mem_finRange i)
    simp [ha] at this
  | some j =>
    obtain ⟨hj,hid⟩ := find_some h
    rw [hw.distinct j i hj ha hid]

theorem session_states_some {v : View} (hw : v.WellFormed) (sessionId : UInt32) (state : UInt8) :
    v.sessionStates sessionId = some state ↔ ∃ i, (v.slots i).allocated = true ∧
      (v.slots i).sessionId = sessionId ∧ (v.slots i).state = state := by
  constructor
  · intro h
    obtain ⟨i,hi,hstate⟩ := Option.map_eq_some_iff.mp h
    obtain ⟨ha,hid⟩ := find_some hi
    exact ⟨i,ha,hid,hstate⟩
  · rintro ⟨i,ha,rfl,rfl⟩
    exact Option.map_eq_some_iff.mpr ⟨i,find_of_allocated hw ha,rfl⟩

theorem session_states_congr {v v' : View} (h : v'.slots = v.slots) :
    v'.sessionStates = v.sessionStates := by
  funext sessionId
  simp only [sessionStates, find, h]

theorem session_states_setSlot {v : View} (hw : v.WellFormed) (i : Fin maxSessions) (s : Slot)
    (hw' : (v.setSlot i s).WellFormed) (sessionId : UInt32)
    (hs : s.allocated = true → s.sessionId = sessionId)
    (hi : (v.slots i).allocated = true → (v.slots i).sessionId = sessionId)
    (hfresh : ∀ j, j ≠ i → (v.slots j).allocated = true →
      (v.slots j).sessionId ≠ sessionId) :
    (v.setSlot i s).sessionStates = Function.update v.sessionStates sessionId
      (if s.allocated then some s.state else none) := by
  funext k
  apply Option.ext
  intro state
  rw [session_states_some hw']
  by_cases hk : k = sessionId
  · subst hk
    rw [Function.update_self]
    constructor
    · rintro ⟨j,ha,hid,hstate⟩
      by_cases hji : j = i
      · subst hji
        rw [setSlot_same] at ha hid hstate
        simp [ha, hstate]
      · rw [setSlot_other v s hji] at ha hid
        exact absurd hid (hfresh j hji ha)
    · intro h
      by_cases ha : s.allocated = true
      · rw [if_pos ha] at h
        refine ⟨i,?_⟩
        rw [setSlot_same]
        exact ⟨ha,hs ha,Option.some.inj h⟩
      · rw [if_neg ha] at h
        cases h
  · rw [Function.update_of_ne hk, session_states_some hw]
    constructor
    · rintro ⟨j,ha,hid,hstate⟩
      by_cases hji : j = i
      · subst hji
        rw [setSlot_same] at ha hid
        exact absurd (hid.symm.trans (hs ha)) hk
      · rw [setSlot_other v s hji] at ha hid hstate
        exact ⟨j,ha,hid,hstate⟩
    · rintro ⟨j,ha,hid,hstate⟩
      have hji : j ≠ i := by
        rintro rfl
        exact hk (hid.symm.trans (hi ha))
      refine ⟨j,?_⟩
      rw [setSlot_other v s hji]
      exact ⟨ha,hid,hstate⟩

theorem session_states_update {v : View} (hw : v.WellFormed) (i : Fin maxSessions) (s : Slot)
    (ha : (v.slots i).allocated = true) (hsa : s.allocated = true)
    (hid : s.sessionId = (v.slots i).sessionId)
    (hknown : s.state = sessionStateInit ∨ s.state = sessionStateActive ∨
      s.state = sessionStateIdle) :
    (v.setSlot i s).sessionStates =
      Function.update v.sessionStates (v.slots i).sessionId (some s.state) := by
  have h := session_states_setSlot hw i s (hw.update i s ha hsa hid hknown)
    (v.slots i).sessionId (fun _ => hid) (fun _ => rfl)
    (fun j hji hj hsame => hji (hw.distinct j i hj ha hsame))
  rwa [if_pos hsa] at h

theorem session_states_kept {v : View} (hw : v.WellFormed) (i : Fin maxSessions) (s : Slot)
    (ha : (v.slots i).allocated = true) (hsa : s.allocated = true)
    (hid : s.sessionId = (v.slots i).sessionId) (hstate : s.state = (v.slots i).state) :
    (v.setSlot i s).sessionStates = v.sessionStates := by
  rw [session_states_update hw i s ha hsa hid (by rw [hstate]; exact hw.known i ha), hstate]
  refine Function.update_eq_self_iff.mpr ?_
  exact ((session_states_some hw _ _).mpr ⟨i,ha,rfl,rfl⟩).symm

theorem observe_signal {v : View} (hw : v.WellFormed) (a : Action) (ha : v.Enabled a) :
    (v.signal a).toList.foldl observe v.sessionStates = (v.apply a).sessionStates := by
  cases a with
  | opened i sessionId =>
    have h := session_states_setSlot hw i _ (hw.apply (.opened i sessionId) ha) sessionId
      (fun _ => rfl) (fun hi => by rw [ha.1] at hi; cases hi) (fun j _ hj => ha.2 j hj)
    exact h.symm
  | closed i =>
    have h := session_states_setSlot hw i _ (hw.apply (.closed i) ha) (v.slots i).sessionId
      (fun hs => by cases hs) (fun _ => rfl)
      (fun j hji hj hsame => hji (hw.distinct j i hj ha hsame))
    exact h.symm
  | started i stream =>
    obtain ⟨ha,-⟩ := ha
    cases stream with
    | none => exact (session_states_update hw i (v.slots i).activated ha ha rfl
        (Or.inr (Or.inl rfl))).symm
    | some stream =>
      obtain ⟨burst,delayMs⟩ := stream
      have h := session_states_update hw i ((v.slots i).activated.counting burst) ha ha rfl
        (Or.inr (Or.inl rfl))
      have hslots : (v.apply (.started i (some (burst,delayMs)))).slots =
          (v.setSlot i ((v.slots i).activated.counting burst)).slots := by
        simp only [View.apply]
        split
        · rfl
        · exact resume_slots _ _ _ _
      rw [session_states_congr hslots]
      exact h.symm
  | stopped i => exact (session_states_update hw i (v.slots i).stopped ha.1 ha.1 rfl
      (Or.inr (Or.inr rfl))).symm
  | reported i =>
    have hstate := (session_states_some hw (v.slots i).sessionId (v.slots i).state).mpr
      ⟨i,ha,rfl,rfl⟩
    have hdeinit : (v.slots i).state ≠ sessionStateDeinit := by
      obtain h | h | h := hw.known i ha <;> rw [h] <;> decide
    simp only [signal, Option.toList_some, List.foldl_cons, List.foldl_nil, observe,
      if_neg hdeinit]
    exact Function.update_eq_self_iff.mpr hstate.symm
  | rescheduled i delayMs =>
    have hslots : (v.apply (.rescheduled i delayMs)).slots = v.slots := resume_slots _ _ _ _
    exact (session_states_congr hslots).symm
  | begun i delayMs =>
    refine Eq.symm ((session_states_congr (resume_slots _ _ _ _)).trans ?_)
    exact session_states_kept hw i ((v.slots i).transferring true) ha.1 ha.1 rfl rfl
  | reset => rfl
  | elapsed elapsedMs => rfl
  | dropped => rfl
  | abandoned => rfl
  | streamed i remaining delayMs =>
    have h := session_states_kept hw.dequeue i ((v.slots i).counting remaining)
      ha.2.1 ha.2.1 rfl rfl
    have hslots : (v.apply (.streamed i remaining delayMs)).slots =
        (v.dequeue.setSlot i ((v.slots i).counting remaining)).slots := by
      simp only [View.apply]
      split
      · rfl
      · exact resume_slots _ _ _ _
    rw [session_states_congr hslots]
    exact h.symm
  | ended i => exact (session_states_update hw.dequeue i (v.slots i).ended ha.2.1 ha.2.1 rfl
      (Or.inr (Or.inr rfl))).symm
  | repeated i delayMs =>
    have hslots : (v.apply (.repeated i delayMs)).slots = v.slots := resume_slots _ _ _ _
    exact (session_states_congr hslots).symm
  | completed i => exact (session_states_kept hw.dequeue i ((v.slots i).transferring false)
      ha.2.1 ha.2.1 rfl rfl).symm

theorem observe_signals {v : View} (hw : v.WellFormed) (actions : List Action)
    (h : Runs.Along apply Enabled v actions) :
    (v.signals actions).foldl observe v.sessionStates =
      (Runs.run apply v actions).sessionStates := by
  induction actions generalizing v with
  | nil => rfl
  | cons a actions ih =>
    simp only [signals, List.foldl_append, observe_signal hw a h.1]
    exact ih (hw.apply a h.1) h.2

end View

end UciSim
