import UciSim.Mail

/-!
# The session table

The table is searched by identifier and by free slot. With distinct identifiers
a search finds the one allocated session of its identifier. A session keeps its
parameters, and the device its own, in a table that is stored to by key.
-/

set_option autoImplicit false

namespace UciSim.Device

theorem find_session_some {d : Device} {sessionId : UInt32} {i : Fin maxSessions}
    (h : d.findSession sessionId = some i) :
    (d.sessions i).allocated = true ∧ (d.sessions i).sessionId = sessionId := by
  have := List.find?_some h
  simpa using this

theorem find_session_none {d : Device} {sessionId : UInt32}
    (h : d.findSession sessionId = none) (i : Fin maxSessions)
    (ha : (d.sessions i).allocated = true) : (d.sessions i).sessionId ≠ sessionId := by
  have := List.find?_eq_none.mp h i (List.mem_finRange i)
  simpa [ha] using this

theorem free_session_some {d : Device} {i : Fin maxSessions} (h : d.freeSession = some i) :
    (d.sessions i).allocated = false := by
  have := List.find?_some h
  simpa using this

theorem find_session_congr {d d' : Device} (h : d'.sessions = d.sessions) (sessionId : UInt32) :
    d'.findSession sessionId = d.findSession sessionId := by
  simp only [findSession, h]

/-- No two allocated sessions share an identifier. -/
def DistinctIds (d : Device) : Prop :=
  ∀ i j, (d.sessions i).allocated = true → (d.sessions j).allocated = true →
    (d.sessions i).sessionId = (d.sessions j).sessionId → i = j

theorem find_session_of_allocated {d : Device} (hd : d.DistinctIds) {i : Fin maxSessions}
    (ha : (d.sessions i).allocated = true) :
    d.findSession (d.sessions i).sessionId = some i := by
  cases h : d.findSession (d.sessions i).sessionId with
  | none => exact absurd rfl (find_session_none h i ha)
  | some j =>
    obtain ⟨hj,hid⟩ := find_session_some h
    rw [hd j i hj ha hid]

@[simp] theorem setSession_same (d : Device) (i : Fin maxSessions) (session : Session) :
    (d.setSession i session).sessions i = session := by
  simp [setSession]

theorem setSession_other (d : Device) {i j : Fin maxSessions} (session : Session)
    (h : j ≠ i) : (d.setSession i session).sessions j = d.sessions j := by
  simp [setSession, h]

@[simp] theorem setSession_setSession (d : Device) (i : Fin maxSessions) (s s' : Session) :
    (d.setSession i s).setSession i s' = d.setSession i s' := by
  simp [setSession]

@[simp] theorem setSession_events (d : Device) (i : Fin maxSessions) (session : Session) :
    (d.setSession i session).scheduledEvents = d.scheduledEvents := rfl

@[simp] theorem setSession_profile (d : Device) (i : Fin maxSessions) (session : Session) :
    (d.setSession i session).profile = d.profile := rfl

@[simp] theorem setSession_scenario (d : Device) (i : Fin maxSessions) (session : Session) :
    (d.setSession i session).scenario = d.scenario := rfl

@[simp] theorem setSession_pending (d : Device) (i : Fin maxSessions) (session : Session) :
    (d.setSession i session).pendingNotifications = d.pendingNotifications := rfl

end UciSim.Device

namespace UciSim

theorem Session.store_config_some {session session' : Session} {configId : UInt8}
    {value : List UInt8} (h : session.storeConfig configId value = some session') :
    value.length ≤ maxConfigValue ∧ ∃ configs,
      Table.store maxSessionConfigs session.configs configId value = some configs ∧
        session' = { session with configs := configs } := by
  unfold storeConfig at h
  by_cases hlong : value.length > maxConfigValue
  · rw [if_pos hlong] at h
    cases h
  · rw [if_neg hlong] at h
    rcases Option.map_eq_some_iff.mp h with ⟨configs,htable,rfl⟩
    exact ⟨Nat.le_of_not_lt hlong,configs,htable,rfl⟩

/-- A stored parameter reads as its new value, every other one as before. -/
theorem Session.store_config_get {session session' : Session} {configId : UInt8}
    {value : List UInt8} (h : session.storeConfig configId value = some session')
    (other : UInt8) : session'.getConfig other =
      if configId = other then some value else session.getConfig other := by
  rcases store_config_some h with ⟨-,configs,htable,rfl⟩
  exact Table.lookup_store _ _ _ _ _ _ htable

theorem Device.store_config_some {d d' : Device} {configId : UInt8} {value : List UInt8}
    (h : d.storeConfig configId value = some d') :
    value.length ≤ maxConfigValue ∧ ∃ configs,
      Table.store maxDeviceConfigs d.deviceConfigs configId value = some configs ∧
        d' = { d with deviceConfigs := configs } := by
  unfold storeConfig at h
  by_cases hlong : value.length > maxConfigValue
  · rw [if_pos hlong] at h
    cases h
  · rw [if_neg hlong] at h
    split at h
    · cases h
    · rcases Option.map_eq_some_iff.mp h with ⟨configs,htable,rfl⟩
      exact ⟨Nat.le_of_not_lt hlong,configs,htable,rfl⟩

end UciSim
