import UciSim.MeasurementLogs

/-!
# Starts, stops and set requests in the logs

A start takes the budget and the detection of edges anew, a stop ends both, and a set request
resets the detection exactly if it stores one of the parameters that decide what is notified.
-/

set_option autoImplicit false

namespace UciSim

open Exchange

section

variable {d d' : Device} {request : Packet} {i : Fin maxSessions}
  {logs : Fin maxSessions → MeasurementLog}

/-- A start or a stop that is accepted enters the state of its transition. -/
theorem moves_entered {oid : UInt8} (hoid : oid = sessionStart ∨ oid = sessionStop)
    (h : Moves d request oid i)
    (hvalid : oid = sessionStart → validateSessionStart d.profile (d.sessions i) = .ok ()) :
    ∃ t pending, d.profile.getSessionTransition oid = some t ∧
      (d.handlePacket request).2.device =
        (d.entered oid i t.nextState).withPending pending := by
  rcases h with ⟨hmt,hgid,rfl,hs,hlen,hfound,t,hlisted,hallowed⟩
  have htransition : (start d).dispatchCommand request =
      (start d).handleTransition request i := by
    refine dispatch_control_of (.transition ?_) hgid hs hlen hfound
    rcases hoid with hoid | hoid <;> rw [hoid] <;> decide
  have hentered : (start d).handleTransition request i =
      (.ok,(start d).enterState request i t.nextState) := by
    have hverdict : (if request.oid = sessionStart then
        validateSessionStart d.profile (d.sessions i) else .ok ()) = .ok () := by
      by_cases hstart : request.oid = sessionStart
      · rw [if_pos hstart]
        exact hvalid hstart
      · exact if_neg hstart
    unfold handleTransition
    rw [show (start d).device = d from rfl, hlisted]
    dsimp only
    rw [hallowed, if_neg (by decide), hverdict]
  rcases handle_command_device d request hmt with ⟨p,hp⟩
  rw [htransition, hentered, enter_state_eq] at hp
  rcases emit_device ({ start d with device := d.entered request.oid i t.nextState
    }.makeStatusResponse request statusOk) (sessionStatusNotification (readU32Le request.payload 0)
      t.nextState d.profile.sessionStatusReasonCode) with ⟨q,hq⟩
  rw [hq] at hp
  exact ⟨t,p,hlisted,hp⟩

/-- A start or a stop that is accepted enters its state. -/
theorem moves_device {oid : UInt8} (hoid : oid = sessionStart ∨ oid = sessionStop)
    (h : Moves d request oid i)
    (hvalid : oid = sessionStart → validateSessionStart d.profile (d.sessions i) = .ok ()) :
    ∃ nextState pending, (d.handlePacket request).2.device =
      (d.entered oid i nextState).withPending pending := by
  rcases moves_entered hoid h hvalid with ⟨t,pending,-,hdevice⟩
  exact ⟨t.nextState,pending,hdevice⟩

theorem entering_forgets {oid : UInt8} (hoid : oid = sessionStart ∨ oid = sessionStop)
    (nextState : UInt8) :
    (d.entering oid i nextState).rangingCount = (d.sessions i).rangingCount ∧
      (d.entering oid i nextState).rangingStreamRemaining =
        (d.sessions i).rangingStreamRemaining ∧
      (d.entering oid i nextState).hasLastProximityState = false ∧
      (d.entering oid i nextState).allocated = (d.sessions i).allocated := by
  have hforgets : d.entering oid i nextState = { d.sessions i with
      hasLastProximityState := false
      lastInProximityRange := false
      state := nextState } :=
    congrArg (fun session : Session => { session with state := nextState }) (if_pos hoid)
  rw [hforgets]
  exact ⟨rfl,rfl,rfl,rfl⟩

theorem entered_others {oid nextState : UInt8} {j : Fin maxSessions} (hj : j ≠ i) :
    (d.entered oid i nextState).sessions j = d.sessions j := by
  have hset : ∀ session, (d.setSession i session).sessions j = d.sessions j :=
    fun session => Device.setSession_other d session hj
  unfold Device.entered Device.reactToTransition
  rw [started_eq]
  split
  · split
    · exact (Device.setSession_other _ _ hj).trans (hset _)
    · exact hset _
  · split
    · exact (Device.setSession_other _ _ hj).trans (hset _)
    · exact hset _

/-- Every session that is in use remembers what the given log says, and the others are blank. -/
def Device.KeepsLogs (d d' : Device) (logs : Fin maxSessions → MeasurementLog) : Prop :=
  ∀ j, (d'.sessions j).Recorded d.profile.rangingStreamBurstCount (d'.inUse logs j)

theorem in_use_kept {j : Fin maxSessions}
    (h : (d'.sessions j).Recorded d.profile.rangingStreamBurstCount (logs j)) :
    (d'.sessions j).Recorded d.profile.rangingStreamBurstCount (d'.inUse logs j) := by
  unfold Device.inUse
  by_cases ha : (d'.sessions j).allocated = false
  · rw [if_pos ha, ← h.free ha]
    exact h
  · rwa [if_neg ha]

theorem logs_kept_same (h : d.Recorded logs) (hs : d'.sessions = d.sessions) :
    d.KeepsLogs d' logs := by
  intro j
  refine in_use_kept ?_
  rw [hs]
  exact h j

theorem logs_kept_moved {logs' : Fin maxSessions → MeasurementLog} (h : d.Recorded logs)
    (hs : ∀ j, j ≠ i → d'.sessions j = d.sessions j) (hlogs : ∀ j, j ≠ i → logs' j = logs j)
    (hi : (d'.sessions i).Recorded d.profile.rangingStreamBurstCount (logs' i)) :
    d.KeepsLogs d' logs' := by
  intro j
  refine in_use_kept ?_
  by_cases hj : j = i
  · subst hj
    exact hi
  · rw [hs j hj, hlogs j hj]
    exact h j

theorem logs_kept_set {session : Session} (h : d.Recorded logs)
    (hi : session.Recorded d.profile.rangingStreamBurstCount (logs i)) :
    d.KeepsLogs (d.setSession i session) logs := by
  refine logs_kept_moved h (fun j hj => Device.setSession_other d session hj) (fun _ _ => rfl) ?_
  rwa [Device.setSession_same]

theorem logs_kept_cleared (h : d.Recorded logs) (hs : ∀ j, d'.sessions j = d.sessions j ∨
    d'.sessions j = Session.zero) : d.KeepsLogs d' logs := by
  intro j
  rcases hs j with hs | hs
  · refine in_use_kept ?_
    rw [hs]
    exact h j
  · have hfree : Session.zero.allocated = false := rfl
    unfold Device.inUse
    rw [hs, if_pos hfree]
    exact .zero _

theorem entered_started (nextState : UInt8) :
    (d.entered sessionStart i nextState).sessions i =
      if d.scenario = .rangingStream then
        (d.entering sessionStart i nextState).startStream d.profile.rangingStreamBurstCount
      else d.entering sessionStart i nextState := by
  unfold Device.entered Device.reactToTransition
  rw [if_pos rfl, started_eq]
  by_cases hscenario : d.scenario = .rangingStream
  · rw [if_pos hscenario, if_pos (by exact hscenario)]
    refine (Device.setSession_same _ _ _).trans ?_
    rw [Device.setSession_same]
    rfl
  · rw [if_neg hscenario, if_neg (by exact hscenario)]
    exact Device.setSession_same _ _ _

theorem entered_stopped (nextState : UInt8) :
    (d.entered sessionStop i nextState).sessions i =
      (d.entering sessionStop i nextState).stopStream := by
  unfold Device.entered Device.reactToTransition
  rw [if_neg (by decide), if_pos rfl]
  refine (Device.setSession_same _ _ _).trans ?_
  rw [Device.setSession_same]

theorem started_recorded {l : MeasurementLog}
    (h : (d.sessions i).Recorded d.profile.rangingStreamBurstCount l)
    (ha : (d.sessions i).allocated = true) (nextState : UInt8) :
    ((d.entered sessionStart i nextState).sessions i).Recorded d.profile.rangingStreamBurstCount
      l.start := by
  rcases entering_forgets (d := d) (i := i) (Or.inl (rfl : sessionStart = sessionStart))
    nextState with ⟨hcount,hremaining,hknown,hallocated⟩
  have hstatus := Session.status_unknown hknown
  have hbudget := h.budget
  rw [entered_started]
  by_cases hscenario : d.scenario = .rangingStream
  · rw [if_pos hscenario]
    exact h.started hcount (Nat.le_refl _) hstatus (hallocated.trans ha)
  · rw [if_neg hscenario]
    refine h.started hcount ?_ hstatus (hallocated.trans ha)
    rw [hremaining]
    omega

theorem stopped_recorded {l : MeasurementLog}
    (h : (d.sessions i).Recorded d.profile.rangingStreamBurstCount l)
    (ha : (d.sessions i).allocated = true) (nextState : UInt8) :
    ((d.entered sessionStop i nextState).sessions i).Recorded d.profile.rangingStreamBurstCount
      l.forget := by
  rcases entering_forgets (d := d) (i := i) (Or.inr (rfl : sessionStop = sessionStop))
    nextState with ⟨hcount,-,hknown,hallocated⟩
  rw [entered_stopped]
  exact h.forgotten hcount (Or.inr rfl) (Session.status_unknown hknown) (hallocated.trans ha)

theorem moves_unique {oid oid' : UInt8} {j : Fin maxSessions} (h : Moves d request oid i)
    (h' : Moves d request oid' j) : j = i ∧ oid' = oid := by
  rcases h with ⟨-,-,hoid,-,-,hfound,-⟩
  rcases h' with ⟨-,-,hoid',-,-,hfound',-⟩
  exact ⟨Option.some.inj (hfound'.symm.trans hfound),hoid'.symm.trans hoid⟩

theorem moved_not_set {oid : UInt8} {j : Fin maxSessions} (h : Moves d request oid i) :
    ¬ Sets d request j := by
  intro hset
  exact absurd (h.2.1.symm.trans hset.1.2.1) (by decide)

theorem started_keeps (h : d.Recorded logs) (hstarts : Starts d request i) :
    d.KeepsLogs (d.handlePacket request).2.device (d.advance request logs) := by
  rcases moves_device (Or.inl rfl) hstarts.1 (fun _ => hstarts.2) with ⟨nextState,p,hp⟩
  have ha := (Device.find_session_some hstarts.1.2.2.2.2.2.1).1
  have hothers : ∀ j, j ≠ i → (d.entered sessionStart i nextState).sessions j = d.sessions j :=
    fun j hj => entered_others hj
  rw [hp]
  refine logs_kept_moved h hothers (fun j hj => ?_) ?_
  · unfold Device.advance
    rw [if_neg (fun hj' : Starts d request j => hj (moves_unique hstarts.1 hj'.1).1)]
    refine if_neg (not_or.mpr ⟨fun hj' => hj (moves_unique hstarts.1 hj').1,fun hj' => ?_⟩)
    exact moved_not_set hstarts.1 hj'.1
  · unfold Device.advance
    rw [if_pos hstarts]
    exact started_recorded (h i) ha nextState

theorem stopped_keeps (h : d.Recorded logs) (hstops : Moves d request sessionStop i) :
    d.KeepsLogs (d.handlePacket request).2.device (d.advance request logs) := by
  rcases moves_device (Or.inr rfl) hstops (fun hoid => absurd hoid (by decide)) with
    ⟨nextState,p,hp⟩
  have ha := (Device.find_session_some hstops.2.2.2.2.2.1).1
  have hnot : ∀ j, ¬ Starts d request j :=
    fun j hj => absurd (moves_unique hstops hj.1).2 (by decide)
  have hothers : ∀ j, j ≠ i → (d.entered sessionStop i nextState).sessions j = d.sessions j :=
    fun j hj => entered_others hj
  rw [hp]
  refine logs_kept_moved h hothers (fun j hj => ?_) ?_
  · unfold Device.advance
    rw [if_neg (hnot j)]
    refine if_neg (not_or.mpr ⟨fun hj' => hj (moves_unique hstops hj').1,fun hj' => ?_⟩)
    exact moved_not_set hstops hj'.1
  · unfold Device.advance
    rw [if_neg (hnot i), if_pos (Or.inl hstops)]
    exact stopped_recorded (h i) ha nextState

theorem storing_measurements (d : Device) (i : Fin maxSessions) (configId : UInt8)
    (value : List UInt8) :
    (d.storing i configId value).rangingCount = (d.sessions i).rangingCount ∧
      (d.storing i configId value).lastStatus =
        if configId ∈ notifyingConfigs then none else (d.sessions i).lastStatus := by
  have hstored : (d.sessions i).SameMeasurements
      (((d.sessions i).storeConfig configId value).getD (d.sessions i)) := by
    cases hs : (d.sessions i).storeConfig configId value with
    | none => exact .refl _
    | some session =>
      rw [store_config_eq hs]
      exact ⟨rfl,rfl,rfl⟩
  have hmem : configId ∈ notifyingConfigs ↔ configId = appConfigSessionInfoNtfConfig ∨
      configId = appConfigRngDataNtfProximityNear ∨ configId = appConfigRngDataNtfProximityFar := by
    simp only [notifyingConfigs, List.mem_cons, List.not_mem_nil, or_false]
  unfold Device.storing Session.forgetProximity
  by_cases hnotifies : configId ∈ notifyingConfigs
  · rw [if_pos hnotifies, if_pos (hmem.mp hnotifies)]
    exact ⟨hstored.count,rfl⟩
  · rw [if_neg hnotifies, if_neg (fun h => hnotifies (hmem.mpr h))]
    exact ⟨hstored.count,hstored.status⟩

theorem forgetting_fold (entries : List (UInt8 × List UInt8)) (status : Option Bool) :
    entries.foldl (fun status entry => if entry.1 ∈ notifyingConfigs then none else status) status =
      if ∃ entry ∈ entries, entry.1 ∈ notifyingConfigs then none else status := by
  induction entries generalizing status with
  | nil => exact (if_neg (by simp)).symm
  | cons entry entries ih =>
    have hcons : (∃ e ∈ entry::entries, e.1 ∈ notifyingConfigs) ↔
        entry.1 ∈ notifyingConfigs ∨ ∃ e ∈ entries, e.1 ∈ notifyingConfigs := by simp
    rw [List.foldl_cons, ih]
    by_cases hrest : ∃ e ∈ entries, e.1 ∈ notifyingConfigs
    · rw [if_pos hrest, if_pos (hcons.mpr (Or.inr hrest))]
    · rw [if_neg hrest]
      by_cases hentry : entry.1 ∈ notifyingConfigs
      · rw [if_pos hentry, if_pos (hcons.mpr (Or.inl hentry))]
      · rw [if_neg hentry, if_neg (fun hex => (hcons.mp hex).elim hentry hrest)]

theorem reconfigured_status (d : Device) (request : Packet) (i : Fin maxSessions) :
    ((d.reconfigured request i).sessions i).lastStatus =
      if ∃ entry ∈ request.entriesFor d i, entry.1 ∈ notifyingConfigs then none
      else (d.sessions i).lastStatus := by
  rw [← forgetting_fold]
  refine Device.set_app_configs_fold (f := fun d => (d.sessions i).lastStatus) ?_ _ _ d
  intro d configId value _
  rw [Device.stored_session]
  exact (storing_measurements d i configId value).2

theorem reconfigured_unmeasured (d : Device) (request : Packet) (i : Fin maxSessions) :
    ((d.reconfigured request i).sessions i).rangingCount = (d.sessions i).rangingCount ∧
      ((d.reconfigured request i).sessions i).rangingStreamRemaining =
        (d.sessions i).rangingStreamRemaining ∧
      ((d.reconfigured request i).sessions i).allocated = (d.sessions i).allocated := by
  refine Device.set_app_configs_invariant (e := fun _ _ => True) (i := i)
    (P := fun d' => (d'.sessions i).rangingCount = (d.sessions i).rangingCount ∧
      (d'.sessions i).rangingStreamRemaining = (d.sessions i).rangingStreamRemaining ∧
      (d'.sessions i).allocated = (d.sessions i).allocated) ?_ _ _ d ⟨rfl,rfl,rfl⟩
    (fun _ _ => trivial)
  rintro d' configId value ⟨hcount,hremaining,ha⟩ - -
  rcases Device.storing_eq d' i configId value with ⟨-,hremaining',-,ha'⟩
  rw [Device.stored_session]
  exact ⟨(storing_measurements d' i configId value).1.trans hcount,hremaining'.trans hremaining,
    ha'.trans ha⟩

theorem configured_recorded {l : MeasurementLog}
    (h : (d.sessions i).Recorded d.profile.rangingStreamBurstCount l)
    (ha : (d.sessions i).allocated = true) (hset : Sets d request i) :
    ((d.reconfigured request i).sessions i).Recorded d.profile.rangingStreamBurstCount
      (if Renotifies d request i then l.forget else l) := by
  rcases reconfigured_unmeasured d request i with ⟨hcount,hremaining,hallocated⟩
  have hstatus := reconfigured_status d request i
  by_cases hnotifies : ∃ entry ∈ request.entriesFor d i, entry.1 ∈ notifyingConfigs
  · rw [if_pos hnotifies] at hstatus
    rw [if_pos ⟨hset,hnotifies⟩]
    exact h.forgotten hcount (Or.inl hremaining) hstatus (hallocated.trans ha)
  · rw [if_neg hnotifies] at hstatus
    rw [if_neg (fun hre : Renotifies d request i => hnotifies hre.2)]
    exact ⟨hcount.trans h.count,h.remains (Or.inl hremaining),hstatus.trans h.edge,
      fun hfree => h.free (hallocated.symm.trans hfree)⟩

theorem configured_keeps (h : d.Recorded logs) (hset : Sets d request i) :
    d.KeepsLogs (d.handlePacket request).2.device (d.advance request logs) := by
  rcases set_request_device hset with ⟨p,hp⟩
  have ha := (Device.find_session_some hset.2.2.2).1
  have hstarts : ∀ j, ¬ Starts d request j := fun j hj => moved_not_set hj.1 hset
  have hstops : ∀ j, ¬ Moves d request sessionStop j := fun j hj => moved_not_set hj hset
  have hothers : ∀ j, j ≠ i → (d.reconfigured request i).sessions j = d.sessions j :=
    reconfigured_others (set_app_configs_steps _ _ d d i .same)
  rw [hp]
  refine logs_kept_moved h hothers (fun j hj => ?_) ?_
  · unfold Device.advance
    rw [if_neg (hstarts j)]
    refine if_neg (not_or.mpr ⟨hstops j,fun hj' => hj ?_⟩)
    exact Option.some.inj (hj'.1.2.2.2.symm.trans hset.2.2.2)
  · have hconfigured := configured_recorded (h i) ha hset
    unfold Device.advance
    rw [if_neg (hstarts i)]
    by_cases hnotifies : Renotifies d request i
    · rw [if_pos hnotifies] at hconfigured
      rwa [if_pos (Or.inr hnotifies)]
    · rw [if_neg hnotifies] at hconfigured
      rwa [if_neg (not_or.mpr ⟨hstops i,hnotifies⟩)]

end

end UciSim
