import UciSim.ConfigReads

/-!
# Room in the parameter tables

A table has as many slots as the default profile supports parameters. Its keys
are distinct and supported, so a supported parameter always finds a slot.
-/

set_option autoImplicit false

namespace UciSim

namespace Session

/-- Every parameter of the table is stored once and supported by the profile. -/
structure Supported (profile : Profile) (session : Session) : Prop where
  nodup : (Table.keys session.configs).Nodup
  keys : ∀ configId ∈ Table.keys session.configs,
    profile.supportsSessionAppConfig configId = true

variable {profile : Profile} {session session' : Session}

namespace Supported

theorem of_empty (h : session.configs = []) : session.Supported profile := by
  constructor
  · rw [h]
    exact List.nodup_nil
  · intro configId hmem
    rw [h] at hmem
    exact (List.not_mem_nil hmem).elim

theorem congr (h : session.Supported profile) (hc : session'.configs = session.configs) :
    session'.Supported profile := by
  constructor
  · rw [hc]
    exact h.nodup
  · rw [hc]
    exact h.keys

theorem stored (h : session.Supported profile) {configId : UInt8} {value : List UInt8}
    (hs : profile.supportsSessionAppConfig configId = true)
    (hstore : session.storeConfig configId value = some session') :
    session'.Supported profile := by
  rcases store_config_some hstore with ⟨-,configs,htable,rfl⟩
  constructor
  · exact Table.store_keys_nodup _ _ _ _ _ h.nodup htable
  · intro k hk
    rcases List.mem_cons.mp (Table.store_keys_subset _ _ _ _ _ htable hk) with rfl | hk
    · exact hs
    · exact h.keys k hk

/-- A supported parameter of legal length finds its slot. -/
theorem store_succeeds (h : session.Supported profile)
    (hroom : profile.supportedSessionAppConfigIds.length ≤ maxSessionConfigs)
    {configId : UInt8} (hs : profile.supportsSessionAppConfig configId = true)
    {value : List UInt8} (hlength : value.length ≤ maxConfigValue) :
    (session.storeConfig configId value).isSome = true := by
  unfold storeConfig
  rw [if_neg (by omega), Option.isSome_map]
  refine Table.store_isSome_of_allowed _ _ _ _ h.nodup ?_ hroom (List.contains_iff_mem.mp hs)
  intro k hk
  exact List.contains_iff_mem.mp (h.keys k hk)

theorem store_defaults (h : session.Supported profile) {defaults : List (UInt8 × List UInt8)}
    (hs : ∀ entry ∈ defaults, profile.supportsSessionAppConfig entry.1 = true) :
    (session.storeDefaults defaults).Supported profile := by
  induction defaults generalizing session with
  | nil => exact h
  | cons entry defaults ih =>
    have hrest : ∀ e ∈ defaults, profile.supportsSessionAppConfig e.1 = true :=
      fun e he => hs e (List.mem_cons_of_mem entry he)
    have hnext : ((session.storeConfig entry.1 entry.2).getD session).Supported profile := by
      cases hstore : session.storeConfig entry.1 entry.2 with
      | none => exact h
      | some session' => exact h.stored (hs entry List.mem_cons_self) hstore
    exact ih hnext hrest

/-- No default is skipped: each is stored at the end. -/
theorem store_defaults_get (h : session.Supported profile)
    (hroom : profile.supportedSessionAppConfigIds.length ≤ maxSessionConfigs)
    {defaults : List (UInt8 × List UInt8)}
    (hs : ∀ entry ∈ defaults, profile.supportsSessionAppConfig entry.1 = true ∧
      entry.2.length ≤ maxConfigValue)
    (hn : (Table.keys defaults).Nodup) (configId : UInt8) :
    (session.storeDefaults defaults).getConfig configId =
      (Table.lookup configId defaults).or (session.getConfig configId) := by
  induction defaults generalizing session with
  | nil => rfl
  | cons entry defaults ih =>
    rcases entry with ⟨key,value⟩
    have hentry := hs (key,value) List.mem_cons_self
    have hrest : ∀ e ∈ defaults, profile.supportsSessionAppConfig e.1 = true ∧
        e.2.length ≤ maxConfigValue := fun e he => hs e (List.mem_cons_of_mem _ he)
    rcases Option.isSome_iff_exists.mp (h.store_succeeds hroom hentry.1 hentry.2)
      with ⟨session',hstore⟩
    have hget : session'.getConfig configId =
        if key = configId then some value else session.getConfig configId :=
      store_config_get hstore configId
    have hnext : session.storeDefaults ((key,value)::defaults) =
        session'.storeDefaults defaults := by
      show ((session.storeConfig key value).getD session).storeDefaults defaults = _
      rw [hstore, Option.getD_some]
    rw [hnext, ih (h.stored hentry.1 hstore) hrest (List.nodup_cons.mp hn).2, hget, Table.lookup]
    by_cases hkey : key = configId
    · have hnew : Table.lookup configId defaults = none :=
        (Table.lookup_eq_none_iff _ _).mpr (hkey ▸ (List.nodup_cons.mp hn).1)
      rw [hnew, if_pos hkey, if_pos hkey]
      rfl
    · rw [if_neg hkey, if_neg hkey]

end Supported

end Session

theorem default_room : defaultProfile.supportedSessionAppConfigIds.length ≤ maxSessionConfigs := by
  decide

theorem defaults_supported : ∀ entry ∈ defaultProfile.defaultSessionAppConfigs,
    defaultProfile.supportsSessionAppConfig entry.1 = true ∧ entry.2.length ≤ maxConfigValue := by
  decide +kernel

theorem defaults_nodup : (Table.keys defaultProfile.defaultSessionAppConfigs).Nodup := by
  decide +kernel

theorem defaults_lookup : ∀ entry ∈ defaultProfile.defaultSessionAppConfigs,
    Table.lookup entry.1 defaultProfile.defaultSessionAppConfigs = some entry.2 := by
  decide +kernel

/-- The device uses the default profile, and all of its tables keep to it. -/
structure Device.Supported (d : Device) : Prop where
  profile : d.profile = defaultProfile
  sessions : ∀ i, (d.sessions i).Supported defaultProfile

namespace Device.Supported

variable {d : Device}

theorem fresh_configs (h : d.Supported) (i : Fin maxSessions) (sessionId : UInt32) :
    (d.freshSession i sessionId).configs =
      ((d.sessions i).storeDefaults defaultProfile.defaultSessionAppConfigs).configs := by
  rw [← h.profile]
  refine store_defaults_configs ?_ _
  rfl

theorem fresh (h : d.Supported) (i : Fin maxSessions) (sessionId : UInt32) :
    (d.freshSession i sessionId).Supported defaultProfile :=
  ((h.sessions i).store_defaults fun entry he => (defaults_supported entry he).1).congr
    (h.fresh_configs i sessionId)

theorem fresh_get (h : d.Supported) (i : Fin maxSessions) (sessionId : UInt32)
    {entry : UInt8 × List UInt8} (he : entry ∈ defaultProfile.defaultSessionAppConfigs) :
    (d.freshSession i sessionId).getConfig entry.1 = some entry.2 := by
  have hget := (h.sessions i).store_defaults_get default_room defaults_supported defaults_nodup
    entry.1
  rw [Session.getConfig, h.fresh_configs i sessionId]
  rw [Session.getConfig, defaults_lookup entry he] at hget
  exact hget

/-- What the validation admits is stored. -/
theorem set_stores (h : d.Supported) (i : Fin maxSessions) {configId : UInt8} {value : List UInt8}
    (hs : defaultProfile.supportsSessionAppConfig configId = true)
    (hlength : value.length ≤ maxConfigValue) (hrejection : d.rejection i configId value = none) :
    ((d.setAppConfig i configId value).2.sessions i).getConfig configId = some value := by
  rcases Option.isSome_iff_exists.mp ((h.sessions i).store_succeeds default_room hs hlength)
    with ⟨session,hstore⟩
  have hrefusal : d.refusal i configId value = none := by
    unfold refusal
    rw [h.profile, if_neg (by simp [hs]), hrejection, hstore]
    rfl
  have hstored : (d.setAppConfig i configId value).2 = d.stored i configId value := by
    rw [set_app_config_eq, hrefusal]
  rw [hstored, stored_session, storing_get_config hrefusal, if_pos rfl]

theorem configured (h : d.Supported) (request : Packet) (i : Fin maxSessions) :
    ((d.reconfigured request i).sessions i).Supported defaultProfile := by
  have hinvariant := set_app_configs_invariant
    (P := fun d => d.profile = defaultProfile ∧ (d.sessions i).Supported defaultProfile)
    (e := fun _ _ => True) (i := i) ?_ (byteAt request.payload 4).toNat
    (request.payload.drop 5) d ⟨h.profile,h.sessions i⟩ fun _ _ => trivial
  · exact hinvariant.2
  · rintro d configId value ⟨hp,hsupported⟩ - hrefusal
    refine ⟨(stored_profile d i configId value).trans hp,?_⟩
    rcases refusal_none hrefusal with ⟨-,session,hstore⟩
    have hs : defaultProfile.supportsSessionAppConfig configId = true := by
      unfold refusal at hrefusal
      split at hrefusal
      · cases hrefusal
      · rename_i hs
        rw [← hp]
        simpa using hs
    have hsession : (d.storing i configId value).configs = session.configs := by
      rw [storing, hstore, Option.getD_some]
      exact (forget_proximity_eq session configId).2.2.2.2
    rw [stored_session]
    exact (hsupported.stored hs hstore).congr hsession

theorem move (h : d.Supported) {request : Packet} {i : Fin maxSessions} {session : Session}
    (hmove : TableMove d request i session) : session.Supported defaultProfile := by
  cases hmove with
  | kept _ same => exact (h.sessions i).congr same.configs
  | opened sessionId free => exact h.fresh i sessionId
  | cleared => exact .of_empty rfl
  | configured sets => exact h.configured request i

theorem step {r : Run} (op : Op) (h : r.engine.device.Supported) :
    (r.step op).engine.device.Supported := by
  refine Run.step_device (P := Device.Supported) (G := fun _ _ => True) ?_ ?_ ?_ r op h
    fun _ _ => trivial
  · exact fun d p hd => ⟨hd.profile,hd.sessions⟩
  · exact fun d request response posting d' hd _ hserved =>
      ⟨(served_frame hserved).1.trans hd.profile,fun i => hd.move (served_tables hserved i)⟩
  · exact fun d elapsedMs flushes ns d' hd hticked =>
      ⟨(ticked_frame hticked).2.1.trans hd.profile,
        fun i => (hd.sessions i).congr (Device.SameTables.ticked hticked i).configs⟩

theorem reached (scenario : Scenario) (ops : List Op) :
    (Run.reached defaultProfile scenario ops).engine.device.Supported :=
  Runs.invariant_of_all_steps (I := fun r : Run => r.engine.device.Supported)
    (fun _ op h => h.step op) _ ops ⟨rfl,fun _ => .of_empty rfl⟩

end Device.Supported

/-- With the default profile every table holds supported parameters, each once, and has room for
every supported parameter of legal length: a new session stores all of its defaults, and a set
request stores whatever the validation admits. -/
theorem tables_have_room (scenario : Scenario) (ops : List Op) (i : Fin maxSessions) :
    let d := (Run.reached defaultProfile scenario ops).engine.device
    ((Table.keys (d.sessions i).configs).Nodup ∧ ∀ configId ∈ Table.keys (d.sessions i).configs,
      defaultProfile.supportsSessionAppConfig configId = true) ∧
    (∀ configId value, defaultProfile.supportsSessionAppConfig configId = true →
      value.length ≤ maxConfigValue →
        ((d.sessions i).storeConfig configId value).isSome = true ∧
        (d.rejection i configId value = none →
          ((d.setAppConfig i configId value).2.sessions i).getConfig configId = some value)) ∧
    ∀ sessionId d', d.allocSession sessionId = some (i,d') →
      ∀ entry ∈ defaultProfile.defaultSessionAppConfigs,
        (d'.sessions i).getConfig entry.1 = some entry.2 := by
  intro d
  have h : d.Supported := .reached scenario ops
  refine ⟨⟨(h.sessions i).nodup,(h.sessions i).keys⟩,?_,?_⟩
  · intro configId value hs hlength
    exact ⟨(h.sessions i).store_succeeds default_room hs hlength,h.set_stores i hs hlength⟩
  · intro sessionId d' halloc entry he
    rw [(alloc_session_some halloc).2, Device.setSession_same]
    exact h.fresh_get i sessionId he

end UciSim
