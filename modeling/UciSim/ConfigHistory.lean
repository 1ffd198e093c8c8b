import UciSim.ConfigReads
import UciSim.SessionMap

/-!
# The history of a parameter table

A log collects what the set requests of a run store for one session since the
session was created. The table of the session holds the last value the defaults
and the log have for each parameter.
-/

set_option autoImplicit false

namespace UciSim

open Exchange

abbrev ConfigEntry := UInt8 × List UInt8

/-- The defaults a session can hold. -/
def Profile.heldDefaults (profile : Profile) : List ConfigEntry :=
  profile.defaultSessionAppConfigs.filter (fun entry => entry.2.length ≤ maxConfigValue)

namespace Device

/-- What a packet stores for the session. -/
def storesFor (d : Device) (sessionId : UInt32) (request : Packet) : List ConfigEntry :=
  match d.findSession sessionId with
  | none => []
  | some i => if Sets d request i then request.entriesFor d i else []

/-- The device goes on with the tables it had, with the entries stored, or with a new session. -/
def Continues (d : Device) (sessionId : UInt32) (entries : List ConfigEntry)
    (d' : Device) : Prop :=
  ∀ i, d'.findSession sessionId = some i →
    (d.findSession sessionId = none ∧
      (d'.sessions i).configs = (newSession d.profile sessionId).configs) ∨
    (d.findSession sessionId = some i ∧
      (d'.sessions i).configs = Table.storeAll maxSessionConfigs (d.sessions i).configs entries)

end Device

def Run.storesFor (r : Run) (sessionId : UInt32) : Op → List ConfigEntry
  | .submit request => r.engine.device.storesFor sessionId request
  | _ => []

structure ConfigLog where
  run : Run
  entries : List ConfigEntry

/-- A session that is not there when a call starts has nothing stored. -/
def ConfigLog.step (sessionId : UInt32) (l : ConfigLog) (op : Op) : ConfigLog where
  run := l.run.step op
  entries := match l.run.engine.device.findSession sessionId with
    | none => []
    | some _ => l.entries ++ l.run.storesFor sessionId op

/-- The entries stored for the session since it was created. -/
def loggedEntries (profile : Profile) (scenario : Scenario) (sessionId : UInt32)
    (ops : List Op) : List ConfigEntry :=
  (Runs.run (ConfigLog.step sessionId) ⟨Run.init profile scenario,[]⟩ ops).entries

theorem store_defaults_all (session : Session) (defaults : List ConfigEntry) :
    (session.storeDefaults defaults).configs = Table.storeAll maxSessionConfigs session.configs
      (defaults.filter (fun entry => entry.2.length ≤ maxConfigValue)) := by
  induction defaults generalizing session with
  | nil => rfl
  | cons entry defaults ih =>
    have hstep : session.storeDefaults (entry::defaults) =
        ((session.storeConfig entry.1 entry.2).getD session).storeDefaults defaults := rfl
    rw [hstep, ih, store_config_configs]
    by_cases hlong : entry.2.length > maxConfigValue
    · rw [if_pos hlong, List.filter_cons_of_neg (by simpa using hlong)]
    · rw [if_neg hlong, List.filter_cons_of_pos (by simpa using hlong)]
      rfl

theorem new_session_configs (profile : Profile) (sessionId : UInt32) :
    (newSession profile sessionId).configs =
      Table.storeAll maxSessionConfigs [] profile.heldDefaults :=
  store_defaults_all _ _

theorem stored_configs {d : Device} {i : Fin maxSessions} {configId : UInt8}
    {value : List UInt8} (h : d.refusal i configId value = none) :
    ((d.stored i configId value).sessions i).configs =
      (Table.store maxSessionConfigs (d.sessions i).configs configId value).getD
        (d.sessions i).configs := by
  rcases refusal_none h with ⟨-,session,hstore⟩
  rw [Device.stored_session, Device.storing]
  rw [(Device.forget_proximity_eq _ configId).2.2.2.2, store_config_configs,
    if_neg (Nat.not_lt_of_le (Session.store_config_some hstore).1)]

theorem set_app_configs_configs (count : ℕ) (rest : List UInt8) (d : Device)
    (i : Fin maxSessions) :
    ((Device.setAppConfigs count rest d i).2.sessions i).configs =
      Table.storeAll maxSessionConfigs (d.sessions i).configs
        (Device.storedEntries count rest d i) :=
  Device.set_app_configs_fold (f := fun d => (d.sessions i).configs)
    (fun _ _ _ hrefusal => stored_configs hrefusal) count rest d

theorem stored_entries_short (count : ℕ) (rest : List UInt8) (d : Device)
    (i : Fin maxSessions) :
    ∀ entry ∈ Device.storedEntries count rest d i, entry.2.length ≤ maxConfigValue := by
  induction count generalizing rest d with
  | zero => simp [Device.storedEntries]
  | succ count ih =>
    rcases rest with _ | ⟨configId,_ | ⟨valueLen,rest⟩⟩
    · simp [Device.storedEntries]
    · simp [Device.storedEntries]
    unfold Device.storedEntries
    dsimp only
    split
    · simp
    rename_i hstored
    rcases refusal_none (not_not.mp (not_or.mp hstored).2) with ⟨-,session,hstore⟩
    have hshort := (Session.store_config_some hstore).1
    split
    · simpa using hshort
    · intro entry hmem
      rcases List.mem_cons.mp hmem with rfl | hmem
      · exact hshort
      · exact ih _ _ entry hmem

section

variable {d d' : Device} {request : Packet} {sessionId : UInt32}

theorem find_session_same (h : d.SameSlots d') : d'.findSession sessionId =
    d.findSession sessionId := by
  unfold Device.findSession
  congr 1
  ext i
  rw [(h i).allocated, (h i).sessionId]

theorem Device.Continues.same (hslots : d.SameSlots d') (htables : d.SameTables d') :
    d.Continues sessionId [] d' := by
  intro i hi
  rw [find_session_same hslots] at hi
  exact .inr ⟨hi,(htables i).configs⟩

/-- A slot that a packet leaves alone is the session's before and after. -/
theorem Device.SlotsKept.find_of_same (h : d.SlotsKept) {i : Fin maxSessions}
    (hi : d'.findSession sessionId = some i) (hs : d'.sessions i = d.sessions i) :
    d.findSession sessionId = some i := by
  rcases Device.find_session_some hi with ⟨ha,hid⟩
  rw [hs] at ha hid
  rw [← hid]
  exact Device.find_session_of_allocated h.distinct ha

theorem Device.Continues.written (h : d.SlotsKept) {i : Fin maxSessions} {session : Session}
    (hfresh : session.allocated = true → session.sessionId = sessionId →
      d.findSession sessionId = none ∧
        session.configs = (newSession d.profile sessionId).configs) :
    d.Continues sessionId [] (d.setSession i session) := by
  intro j hj
  by_cases hji : j = i
  · subst hji
    rcases Device.find_session_some hj with ⟨ha,hid⟩
    rw [Device.setSession_same] at ha hid ⊢
    exact .inl (hfresh ha hid)
  · have hs := Device.setSession_other d session hji
    rw [hs]
    exact .inr ⟨h.find_of_same hj hs,rfl⟩

theorem change_continues {ns : List Packet} (h : d.SlotsKept)
    (hnot : ∀ j, ¬ Sets d request j) (hmt : request.mt = mtCommand)
    (hchange : Change d request ns d') : d.Continues sessionId [] d' := by
  cases hchange with
  | housekept _ same => exact .same (.of_sessions same.sessions) (.of_sessions same.sessions)
  | edited i session allocated lifecycle configs =>
    exact .same (.setSession (.used allocated lifecycle.allocated lifecycle.sessionId))
      (.setSession d i session ⟨lifecycle.allocated,configs⟩)
  | linked i session _ _ _ _ allocated lifecycle configs =>
    exact .same (.setSession (.used allocated lifecycle.allocated lifecycle.sessionId))
      (.setSession d i session ⟨lifecycle.allocated,configs⟩)
  | configured i command supported long found =>
    exact absurd ⟨⟨hmt,command⟩,supported,long,found⟩ (hnot i)
  | reported => exact .same (.of_sessions rfl) (.of_sessions rfl)
  | opened other i reason absent free =>
    refine .written h fun _ hid => ?_
    rw [fresh_new h free] at hid ⊢
    have hother : other = sessionId := by
      have hnew := fresh_session_eq d i other
      rw [fresh_new h free] at hnew
      rw [hnew] at hid
      exact hid
    rw [← hother]
    exact ⟨absent,rfl⟩
  | closed i =>
    exact .written h fun ha => absurd ha (by decide)
  | moved i reason transition command supported long found =>
    exact .same (.entered request.oid _ (Device.find_session_some found).1)
      (.entered d request.oid i _)
  | reset =>
    intro i hi
    exact absurd (Device.find_session_some hi).1 (by
      rw [show (d.resetRuntimeState).sessions i = Session.zero from rfl]
      decide)

theorem data_change_continues {posting : Posting} (hchange : DataChange d request posting d') :
    d.Continues sessionId [] d' := by
  cases hchange with
  | ignored => exact .same (.of_sessions rfl) (.of_sessions rfl)
  | refused => exact .same (.of_sessions rfl) (.of_sessions rfl)
  | repeated => exact .same (.of_sessions rfl) (.of_sessions rfl)
  | completed i _ _ found =>
    exact .same (.setSession (.used (Device.find_session_some found).1 rfl rfl))
      (.setSession d i _ ⟨rfl,rfl⟩)
  | begun i _ _ _ found =>
    exact .same (.setSession (.used (Device.find_session_some found).1 rfl rfl))
      (.setSession d i _ ⟨rfl,rfl⟩)
  | unscheduled i _ _ found =>
    exact .same (.setSession (.used (Device.find_session_some found).1 rfl rfl))
      (.setSession d i _ ⟨rfl,rfl⟩)

theorem set_command {i : Fin maxSessions} (h : Sets d request i) :
    (start d).dispatchCommand request = (start d).handleSessionSetAppConfig request := by
  rcases h with ⟨⟨hmt,hgid,hoid⟩,hs,-⟩
  exact dispatch_config_of (.setAppConfig hoid) hgid hs

theorem set_request_device {i : Fin maxSessions} (h : Sets d request i) :
    ∃ pending, (d.handlePacket request).2.device =
      (d.reconfigured request i).withPending pending := by
  rcases handle_command_device d request h.1.1 with ⟨p,hp⟩
  have hset : ((start d).handleSessionSetAppConfig request).2.device =
      d.reconfigured request i := by
    unfold handleSessionSetAppConfig
    rw [if_neg (Nat.not_lt_of_le h.2.2.1), show (start d).device = d from rfl, h.2.2.2]
    rfl
  rw [set_command h, hset] at hp
  exact ⟨p,hp⟩

theorem set_request_continues {i : Fin maxSessions} (h : Sets d request i) :
    d.Continues sessionId (d.storesFor sessionId request) (d.handlePacket request).2.device := by
  rcases set_request_device h with ⟨p,hp⟩
  rw [hp]
  have ha := (Device.find_session_some h.2.2.2).1
  intro j hj
  have hfound : d.findSession sessionId = some j := by
    rw [← find_session_same (Device.SameSlots.reconfigured request ha)]
    exact hj
  refine .inr ⟨hfound,?_⟩
  unfold Device.storesFor
  rw [hfound]
  dsimp only
  by_cases hji : j = i
  · subst hji
    rw [if_pos h]
    exact set_app_configs_configs _ _ d j
  · have hother : ¬ Sets d request j :=
      fun hj => hji (Option.some.inj (hj.2.2.2.symm.trans h.2.2.2))
    rw [if_neg hother]
    exact congrArg Session.configs
      (reconfigured_others (set_app_configs_steps _ _ d d i .same) j hji)

theorem stores_none (hnot : ∀ j, ¬ Sets d request j) : d.storesFor sessionId request = [] := by
  unfold Device.storesFor
  cases d.findSession sessionId with
  | none => rfl
  | some j => exact if_neg (hnot j)

theorem packet_continues (h : d.SlotsKept) (request : Packet) :
    d.Continues sessionId (d.storesFor sessionId request) (d.handlePacket request).2.device := by
  by_cases hset : ∃ i, Sets d request i
  · rcases hset with ⟨i,hi⟩
    exact set_request_continues hi
  have hnot : ∀ j, ¬ Sets d request j := fun j hj => hset ⟨j,hj⟩
  rw [stores_none hnot]
  by_cases hmt : request.mt = mtData ∨ request.mt = mtCommand
  · rcases handle_packet_served d request hmt with ⟨rc,response,posting,d',hs,hx⟩
    rw [hx, posted_finalized]
    have hd' : d.Continues sessionId [] d' := by
      cases hs with
      | command _ _ _ _ mt _ change => exact change_continues h hnot mt change
      | data _ _ _ change => exact data_change_continues change
    exact hd'
  · rcases not_or.mp hmt with ⟨hdata,hcommand⟩
    rw [handle_packet_other _ _ hdata hcommand]
    exact .same (.of_sessions rfl) (.of_sessions rfl)

end

theorem step_continues {r : Run} (h : r.engine.device.SlotsKept) (sessionId : UInt32) (op : Op) :
    r.engine.device.Continues sessionId (r.storesFor sessionId op) (r.step op).engine.device := by
  refine r.step_handled (P := fun d => r.engine.device.Continues sessionId
    (r.storesFor sessionId op) d) (fun _ _ hd => hd) ?_ op ?_
  · intro d elapsedMs flushes ns d' hd hticked i hi
    rw [find_session_same (.ticked hticked)] at hi
    rw [(Device.SameTables.ticked hticked i).configs]
    exact hd i hi
  · cases op with
    | submit request => exact packet_continues h request
    | tick elapsedMs => exact .same (.of_sessions rfl) (.of_sessions rfl)
    | dequeue => exact .same (.of_sessions rfl) (.of_sessions rfl)

/-- The table of the session holds the last values of the defaults and the log. -/
structure ConfigLog.Kept (profile : Profile) (sessionId : UInt32) (l : ConfigLog) : Prop where
  slots : l.run.engine.device.SlotsKept
  sameProfile : l.run.engine.device.profile = profile
  short : ∀ entry ∈ l.entries, entry.2.length ≤ maxConfigValue
  records : ∀ i, l.run.engine.device.findSession sessionId = some i →
    Table.Records (profile.heldDefaults ++ l.entries) (l.run.engine.device.sessions i).configs

theorem stores_short (r : Run) (sessionId : UInt32) (op : Op) :
    ∀ entry ∈ r.storesFor sessionId op, entry.2.length ≤ maxConfigValue := by
  cases op with
  | submit request =>
    show ∀ entry ∈ r.engine.device.storesFor sessionId request, _
    unfold Device.storesFor
    cases r.engine.device.findSession sessionId with
    | none => simp
    | some i =>
      dsimp only
      by_cases hset : Sets r.engine.device request i
      · rw [if_pos hset]
        exact stored_entries_short _ _ _ _
      · simp [hset]
  | tick elapsedMs => simp [Run.storesFor]
  | dequeue => simp [Run.storesFor]

theorem ConfigLog.Kept.step {profile : Profile} {sessionId : UInt32} {l : ConfigLog} (op : Op)
    (h : l.Kept profile sessionId) : (l.step sessionId op).Kept profile sessionId := by
  have hstep := step_continues h.slots sessionId op
  refine ⟨h.slots.step op,(l.run.step_profile op).trans h.sameProfile,?_,?_⟩
  · unfold ConfigLog.step
    cases l.run.engine.device.findSession sessionId with
    | none => simp
    | some i =>
      intro entry hmem
      rcases List.mem_append.mp hmem with hmem | hmem
      · exact h.short entry hmem
      · exact stores_short l.run sessionId op entry hmem
  · intro i hi
    unfold ConfigLog.step
    rcases hstep i hi with ⟨hnone,hconfigs⟩ | ⟨hsome,hconfigs⟩
    · have hempty : Table.Records ([] : List ConfigEntry) [] := Table.records_nil _
      rw [hnone, hconfigs, new_session_configs, h.sameProfile, List.append_nil]
      exact Table.records_storeAll maxSessionConfigs hempty _
    · rw [hsome, hconfigs, ← List.append_assoc]
      exact Table.records_storeAll _ (h.records i hsome) _

theorem config_log_kept (profile : Profile) (scenario : Scenario) (sessionId : UInt32)
    (ops : List Op) :
    (Runs.run (ConfigLog.step sessionId) ⟨Run.init profile scenario,[]⟩ ops).Kept
      profile sessionId := by
  refine Runs.invariant_of_all_steps (I := ConfigLog.Kept profile sessionId)
    (fun _ op h => h.step op) _ ops ⟨.cleared rfl,rfl,by simp,?_⟩
  intro i hi
  exact absurd (Device.find_session_some hi).1 (by
    show Session.zero.allocated ≠ true
    decide)

theorem config_log_run (profile : Profile) (scenario : Scenario) (sessionId : UInt32)
    (ops : List Op) :
    (Runs.run (ConfigLog.step sessionId) ⟨Run.init profile scenario,[]⟩ ops).run =
      Run.reached profile scenario ops :=
  Runs.run_map (f := ConfigLog.run) (fun _ _ => rfl) _ ops

end UciSim
