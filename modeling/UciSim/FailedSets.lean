import UciSim.ConfigRoundTrip
import UciSim.StreamEvents

/-!
# Set requests that fail

A set request that fails has stored the entries in front of the one that made it
fail. Only the interval of a running stream is stored before the last thing that
can go wrong with it: the stream's event finds no room.
-/

set_option autoImplicit false

namespace UciSim

def carriedEntries : ℕ → List UInt8 → List ConfigEntry
  | remaining+1, configId::valueLen::rest =>
    if rest.length < valueLen.toNat then []
    else (configId,rest.take valueLen.toNat) ::
      carriedEntries remaining (rest.drop valueLen.toNat)
  | _, _ => []

def Packet.carried (request : Packet) : List ConfigEntry :=
  carriedEntries request.declaredEntries (request.payload.drop 5)

namespace Device

def precedingEntries (i : Fin maxSessions) : List ConfigEntry → Device → List ConfigEntry
  | [], _ => []
  | (configId,value)::entries, d =>
    match d.setAppConfig i configId value with
    | (some _,_) => []
    | (none,d') => (configId,value)::precedingEntries i entries d'

/-- The entries are accepted up to the first interval, which is accepted as well and differs
from the stored one. -/
def ReachesInterval (i : Fin maxSessions) : List ConfigEntry → Device → Prop
  | [], _ => False
  | (configId,value)::entries, d => d.refusal i configId value = none ∧
    if configId = appConfigRangingInterval then
      (d.sessions i).getConfig configId ≠ some value
    else ReachesInterval i entries (d.setSession i (d.storing i configId value))

/-- The request for the session at slot `i` sets the interval of a running stream while the
other events fill the queue. -/
def StrandsRequest (d : Device) (i : Fin maxSessions) (request : Packet) : Prop :=
  Sets d request i ∧ d.Strands i appConfigRangingInterval ∧ ReachesInterval i request.carried d

def precedingFor (d : Device) (i : Fin maxSessions) (request : Packet) : List ConfigEntry :=
  if Sets d request i then precedingEntries i request.carried d else []

/-- Where the request is not answered with success, the tables hold what the entries in front
of the failing one have stored. -/
def StoresPrefix (d : Device) (request : Packet) : Prop :=
  ¬ Acknowledged d request → ∀ i,
    ((d.handlePacket request).2.device.sessions i).configs =
      ((d.precedingFor i request).foldl
        (fun session entry => (session.storeConfig entry.1 entry.2).getD session)
        (d.sessions i)).configs

variable {d : Device} {i : Fin maxSessions}

theorem stored_unmoved {configId : UInt8} (h : configId ≠ appConfigRangingInterval)
    (value : List UInt8) :
    d.stored i configId value = d.setSession i (d.storing i configId value) := by
  unfold stored
  rw [if_neg fun hmoves => h hmoves.1]

theorem stored_strands_iff (d : Device) (i : Fin maxSessions) (configId other : UInt8)
    (value : List UInt8) : (d.stored i configId value).Strands i other ↔ d.Strands i other := by
  rcases storing_eq d i configId value with ⟨hstate,hremaining,hid,-⟩
  have hevents : (d.stored i configId value).eventsWithout .rangeData (d.sessions i).sessionId =
      d.eventsWithout .rangeData (d.sessions i).sessionId := by
    unfold stored
    split
    · rw [eventsWithout, withEvents_events, rescheduledEvents]
      split <;> simp [eventsWithout]
    · rfl
  unfold Strands MovesStream
  rw [stored_session, hstate, hremaining, hid, hevents]

theorem preceding_cons (configId : UInt8) (value : List UInt8) (entries : List ConfigEntry) :
    precedingEntries i ((configId,value)::entries) d =
      if d.refusal i configId value = none ∧ ¬ d.Strands i configId then
        (configId,value)::precedingEntries i entries (d.stored i configId value)
      else [] := by
  rw [precedingEntries, set_app_config_eq]
  cases hrefusal : d.refusal i configId value with
  | some status => simp
  | none =>
    by_cases hstrands : d.Strands i configId
    · simp [hstrands]
    · simp [hstrands]

theorem stored_preceding (count : ℕ) (rest : List UInt8) (d : Device)
    (h : ¬ d.Strands i appConfigRangingInterval) :
    storedEntries count rest d i = precedingEntries i (carriedEntries count rest) d := by
  induction count generalizing rest d with
  | zero => rfl
  | succ count ih =>
    match rest with
    | [] => rfl
    | [_] => rfl
    | configId::valueLen::rest =>
      unfold storedEntries carriedEntries
      dsimp only
      by_cases hcut : rest.length < valueLen.toNat
      · rw [if_pos (Or.inl hcut), if_pos hcut]
        rfl
      have hstrands : ¬ d.Strands i configId := by
        intro hs
        exact h (hs.1.1 ▸ hs)
      rw [if_neg hcut, preceding_cons]
      by_cases hrefusal : d.refusal i configId (rest.take valueLen.toNat) = none
      · rw [if_neg (by simp [hcut, hrefusal]), if_neg hstrands, if_pos ⟨hrefusal,hstrands⟩,
          ih _ _ (by rwa [stored_strands_iff])]
      · rw [if_pos (Or.inr hrefusal), if_neg fun hs => hrefusal hs.1]

/-- With the queue full for the stream the loop stores one entry more, if it reaches the
interval at all. -/
theorem stored_preceding_iff (count : ℕ) (rest : List UInt8) (d : Device)
    (h : d.Strands i appConfigRangingInterval) :
    Table.storeAll maxSessionConfigs (d.sessions i).configs (storedEntries count rest d i) =
        Table.storeAll maxSessionConfigs (d.sessions i).configs
          (precedingEntries i (carriedEntries count rest) d) ↔
      ¬ ReachesInterval i (carriedEntries count rest) d := by
  induction count generalizing rest d with
  | zero => simp [storedEntries, carriedEntries, precedingEntries, ReachesInterval]
  | succ count ih =>
    rcases rest with _ | ⟨configId,_ | ⟨valueLen,rest⟩⟩
    · simp [storedEntries, carriedEntries, precedingEntries, ReachesInterval]
    · simp [storedEntries, carriedEntries, precedingEntries, ReachesInterval]
    · unfold storedEntries carriedEntries
      dsimp only
      by_cases hcut : rest.length < valueLen.toNat
      · rw [if_pos (Or.inl hcut), if_pos hcut]
        simp [precedingEntries, ReachesInterval]
      rw [if_neg hcut, preceding_cons, ReachesInterval]
      generalize rest.take valueLen.toNat = value
      by_cases hrefusal : d.refusal i configId value = none
      · rw [if_neg (by simp [hcut, hrefusal])]
        by_cases hid : configId = appConfigRangingInterval
        · subst hid
          rcases refusal_none hrefusal with ⟨-,session,hstore⟩
          have hroom : (Table.store maxSessionConfigs (d.sessions i).configs
              appConfigRangingInterval value).isSome = true := by
            rcases Session.store_config_some hstore with ⟨-,configs,htable,-⟩
            rw [htable]
            rfl
          rw [if_pos h, if_neg (fun hs => hs.2 h), if_pos rfl]
          refine (Table.store_same_iff hroom).trans ?_
          simp [hrefusal, Session.getConfig]
        · have hstrands : ¬ d.Strands i configId := fun hs => hid hs.1.1
          have hconfigs : ∀ entries, Table.storeAll maxSessionConfigs (d.sessions i).configs
              ((configId,value)::entries) = Table.storeAll maxSessionConfigs
                ((d.stored i configId value).sessions i).configs entries := by
            intro entries
            rw [stored_configs hrefusal]
            rfl
          rw [if_neg hstrands, if_pos ⟨hrefusal,hstrands⟩, hconfigs, hconfigs,
            ih _ _ ((stored_strands_iff d i configId _ value).mpr h), stored_unmoved hid,
            if_neg hid]
          simp [hrefusal]
      · rw [if_pos (Or.inr hrefusal), if_neg fun hs => hrefusal hs.1]
        simp [hrefusal]

theorem reached_interval_rejected (count : ℕ) (rest : List UInt8) (d : Device)
    (h : d.Strands i appConfigRangingInterval)
    (hreach : ReachesInterval i (carriedEntries count rest) d) :
    (setAppConfigs count rest d i).1 = statusRejected := by
  induction count generalizing rest d with
  | zero => exact hreach.elim
  | succ count ih =>
    match rest with
    | [] => exact hreach.elim
    | [_] => exact hreach.elim
    | configId::valueLen::rest =>
      unfold carriedEntries at hreach
      unfold setAppConfigs
      by_cases hcut : rest.length < valueLen.toNat
      · rw [if_pos hcut] at hreach
        exact hreach.elim
      rw [if_neg hcut, ReachesInterval] at hreach
      rw [if_neg hcut, set_app_config_eq, hreach.1]
      dsimp only
      by_cases hid : configId = appConfigRangingInterval
      · rw [if_pos (by rw [hid]; exact h)]
      · rw [if_neg fun hs => hid hs.1.1]
        have hnext := hreach.2
        rw [if_neg hid, ← stored_unmoved hid] at hnext
        exact ih _ _ ((stored_strands_iff d i configId _ _).mpr h) hnext

theorem preceding_folded (session : Session) (entries : List ConfigEntry)
    (h : ∀ entry ∈ entries, entry.2.length ≤ maxConfigValue) :
    (entries.foldl (fun session entry => (session.storeConfig entry.1 entry.2).getD session)
      session).configs = Table.storeAll maxSessionConfigs session.configs entries := by
  have hall := store_defaults_all session entries
  rwa [List.filter_eq_self.mpr (by simpa using h)] at hall

theorem preceding_short (i : Fin maxSessions) (entries : List ConfigEntry) (d : Device) :
    ∀ entry ∈ precedingEntries i entries d, entry.2.length ≤ maxConfigValue := by
  induction entries generalizing d with
  | nil => simp [precedingEntries]
  | cons entry entries ih =>
    rw [preceding_cons]
    split
    · rename_i h
      rcases refusal_none h.1 with ⟨-,session,hstore⟩
      intro other hmem
      rcases List.mem_cons.mp hmem with rfl | hmem
      · exact (Session.store_config_some hstore).1
      · exact ih _ other hmem
    · simp

theorem acknowledged_status {request : Packet} (h : Sets d request i) :
    Acknowledged d request ↔
      (setAppConfigs request.declaredEntries (request.payload.drop 5) d i).1 = statusOk := by
  rw [set_app_configs_status]
  simp [Acknowledged, set_request_response h, Packet.setEnd, byteAt]

theorem set_request_tables {request : Packet} (h : Sets d request i) (j : Fin maxSessions) :
    ((d.handlePacket request).2.device.sessions j).configs =
      Table.storeAll maxSessionConfigs (d.sessions j).configs
        (if j = i then request.entriesFor d i else []) := by
  rcases set_request_device h with ⟨p,hp⟩
  rw [hp]
  by_cases hj : j = i
  · subst hj
    rw [if_pos rfl]
    exact set_app_configs_configs _ _ d j
  · rw [if_neg hj]
    exact congrArg Session.configs
      (reconfigured_others (set_app_configs_steps _ _ d d i .same) j hj)

theorem stores_prefix_iff {request : Packet} (hset : request.mt = mtCommand ∧
    request.gid = gidSessionConfig ∧ request.oid = sessionSetAppConfig) :
    d.StoresPrefix request ↔ ¬ ∃ i, d.StrandsRequest i request := by
  by_cases hfound : ∃ i, Sets d request i
  · rcases hfound with ⟨i,hi⟩
    have hunique : ∀ j, Sets d request j → j = i :=
      fun j hj => Option.some.inj (hj.2.2.2.symm.trans hi.2.2.2)
    have htables : (∀ j, ((d.handlePacket request).2.device.sessions j).configs =
        ((d.precedingFor j request).foldl
          (fun session entry => (session.storeConfig entry.1 entry.2).getD session)
          (d.sessions j)).configs) ↔
        Table.storeAll maxSessionConfigs (d.sessions i).configs (request.entriesFor d i) =
          Table.storeAll maxSessionConfigs (d.sessions i).configs
            (precedingEntries i request.carried d) := by
      have hown : d.precedingFor i request = precedingEntries i request.carried d := if_pos hi
      have hfold := preceding_folded (d.sessions i) _ (preceding_short i request.carried d)
      constructor
      · intro h
        have := h i
        rwa [set_request_tables hi, if_pos rfl, hown, hfold] at this
      · intro h j
        rw [set_request_tables hi]
        by_cases hj : j = i
        · subst hj
          rw [if_pos rfl, hown, hfold, h]
        · rw [if_neg hj, precedingFor, if_neg fun hs => hj (hunique j hs)]
          rfl
    unfold StoresPrefix
    rw [htables]
    by_cases hstrands : d.Strands i appConfigRangingInterval
    · have hiff := stored_preceding_iff request.declaredEntries (request.payload.drop 5) d hstrands
      constructor
      · rintro h ⟨j,hj⟩
        rw [hunique j hj.1] at hj
        refine hiff.mp (h fun hok => ?_) hj.2.2
        rw [acknowledged_status hi, reached_interval_rejected _ _ d hstrands hj.2.2] at hok
        exact absurd hok (by decide)
      · exact fun h _ => hiff.mpr fun hreach => h ⟨i,hi,hstrands,hreach⟩
    · refine iff_of_true (fun _ => ?_) ?_
      · exact congrArg (Table.storeAll maxSessionConfigs (d.sessions i).configs)
          (stored_preceding request.declaredEntries (request.payload.drop 5) d hstrands)
      · rintro ⟨j,hj⟩
        rw [hunique j hj.1] at hj
        exact hstrands hj.2.1
  · have hnot : ∀ j, ¬ Sets d request j := fun j hj => hfound ⟨j,hj⟩
    rcases set_request_ignored ⟨hset.1,hset.2.1,hset.2.2,rfl⟩ hnot with ⟨p,hp⟩
    refine iff_of_true (fun _ j => ?_) fun ⟨j,hj⟩ => hnot j hj.1
    rw [hp, precedingFor, if_neg (hnot j)]
    rfl

instance decidableReachesInterval (i : Fin maxSessions) : (entries : List ConfigEntry) →
    (d : Device) → Decidable (ReachesInterval i entries d)
  | [], _ => isFalse fun h => h.elim
  | (configId,value)::entries, d =>
    let _ := decidableReachesInterval i entries (d.setSession i (d.storing i configId value))
    inferInstanceAs (Decidable (_ ∧ ite _ _ _))

instance (d : Device) (request : Packet) : Decidable (d.StoresPrefix request) :=
  inferInstanceAs (Decidable (_ → ∀ _, _))

end Device

/-- In every reachable state a set request that fails has stored the entries in front of the
failing one and nothing else, unless it sets a new interval of a running stream while the
events of others fill the queue. -/
theorem failed_set_stores_prefix (profile : Profile) (scenario : Scenario) (ops : List Op)
    (request : Packet) (hset : request.mt = mtCommand ∧ request.gid = gidSessionConfig ∧
      request.oid = sessionSetAppConfig) :
    (Run.reached profile scenario ops).engine.device.StoresPrefix request ↔
      ¬ ∃ i, (Run.reached profile scenario ops).engine.device.StrandsRequest i request :=
  Device.stores_prefix_iff hset

theorem failed_set_stores_first :
    let d := (Run.reached defaultProfile .rangingStream [.submit (initRequest 1)]).engine.device
    let request := setAppConfigRequest 1 2 [appConfigPrfMode,1,0,appConfigStsConfig,1,0x0F]
    d.StoresPrefix request ↔ ¬ ∃ i, d.StrandsRequest i request :=
  failed_set_stores_prefix defaultProfile .rangingStream [.submit (initRequest 1)] _
    ⟨rfl,rfl,rfl⟩

/-- The fifth stream has no event and the queue has no room, so its new interval is rejected
and stored. -/
theorem rejected_interval_stored :
    let d := (Run.reached defaultProfile .rangingStream (busyRun [1,2,3,4])).engine.device
    let request := setAppConfigRequest 9 1 [appConfigRangingInterval,4,0x90,0x01,0,0]
    ¬ d.StoresPrefix request ∧
      (d.sessions 4).getConfig appConfigRangingInterval ≠ some [0x90,0x01,0,0] ∧
      ((d.handlePacket request).2.device.sessions 4).getConfig appConfigRangingInterval =
        some [0x90,0x01,0,0] := by
  decide +kernel

end UciSim
