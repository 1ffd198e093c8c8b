import UciSim.ConfigHistory

/-!
# The round trip of a parameter

A get request with an explicit list answers with one entry for each identifier.
Decoded, the entries are the last values that the set requests of the run
stored, or the profile's defaults where none was stored.
-/

set_option autoImplicit false

namespace UciSim

open Exchange

/-- The entries of a response, which end with its payload. -/
def decodeEntries : ℕ → List UInt8 → Option (List ConfigEntry)
  | 0, [] => some []
  | remaining+1, configId::valueLen::rest =>
    if rest.length < valueLen.toNat then none
    else (decodeEntries remaining (rest.drop valueLen.toNat)).map
      ((configId,rest.take valueLen.toNat)::·)
  | _, _ => none

/-- A get request of a supported command with an explicit list of identifiers. -/
structure Packet.Gets (request : Packet) (profile : Profile) (sessionId : UInt32)
    (ids : List UInt8) : Prop where
  command : request.mt = mtCommand ∧ request.gid = gidSessionConfig ∧
    request.oid = sessionGetAppConfig
  supported : profile.supportsCommand gidSessionConfig sessionGetAppConfig = true
  target : request.target = sessionId
  explicit : ids ≠ []
  count : (byteAt request.payload 4).toNat = ids.length
  listed : ids <+: request.payload.drop 5

def Packet.SetsFor (request : Packet) (sessionId : UInt32) : Prop :=
  request.mt = mtCommand ∧ request.gid = gidSessionConfig ∧ request.oid = sessionSetAppConfig ∧
    request.target = sessionId

def Session.entriesOf (session : Session) (ids : List UInt8) : List ConfigEntry :=
  ids.filterMap (fun configId => (session.getConfig configId).map (configId,·))

theorem decode_encoded (entries : List ConfigEntry)
    (h : ∀ entry ∈ entries, entry.2.length < 256) :
    decodeEntries entries.length (entries.flatMap Device.encodeEntry) = some entries := by
  induction entries with
  | nil => rfl
  | cons entry entries ih =>
    have hlen : (UInt8.ofNat entry.2.length).toNat = entry.2.length :=
      UInt8.toNat_ofNat_of_lt' (h entry List.mem_cons_self)
    have hrest := ih fun e he => h e (List.mem_cons_of_mem _ he)
    rw [List.flatMap_cons, Device.encodeEntry, List.length_cons, List.cons_append, List.cons_append]
    unfold decodeEntries
    rw [hlen, if_neg (by simp), List.drop_left, hrest, List.take_left]
    rfl

theorem entries_of_ids {session : Session} {ids : List UInt8}
    (h : ∀ configId ∈ ids, session.getConfig configId ≠ none) :
    (session.entriesOf ids).map Prod.fst = ids ∧
      ∀ entry ∈ session.entriesOf ids, session.getConfig entry.1 = some entry.2 := by
  induction ids with
  | nil => exact ⟨rfl,by simp [Session.entriesOf]⟩
  | cons configId ids ih =>
    rcases ih fun other hmem => h other (List.mem_cons_of_mem _ hmem) with ⟨hids,hvalues⟩
    rcases Option.ne_none_iff_exists'.mp (h configId List.mem_cons_self) with ⟨value,hvalue⟩
    have hentries : session.entriesOf (configId::ids) =
        (configId,value)::session.entriesOf ids := by
      rw [Session.entriesOf, List.filterMap_cons, hvalue]
      rfl
    rw [hentries]
    constructor
    · rw [List.map_cons, hids]
    · intro entry hmem
      rcases List.mem_cons.mp hmem with rfl | hmem
      · exact hvalue
      · exact hvalues entry hmem

theorem collect_configs_all (lookup : UInt8 → Option (List UInt8)) (entries : List ConfigEntry)
    (hlookup : ∀ entry ∈ entries, lookup entry.1 = some entry.2) (rest items : List UInt8)
    (processed : ℕ)
    (hfits : 2+items.length+(entries.flatMap Device.encodeEntry).length ≤ maxPayload) :
    collectConfigs lookup entries.length (entries.map Prod.fst ++ rest) items processed =
      (statusOk,items ++ entries.flatMap Device.encodeEntry,processed+entries.length) := by
  induction entries generalizing items processed with
  | nil => simp [collectConfigs]
  | cons entry entries ih =>
    rw [List.flatMap_cons, List.length_append, Device.encodeEntry, List.length_cons,
      List.length_cons] at hfits
    rw [List.length_cons, List.map_cons, List.cons_append]
    unfold collectConfigs
    rw [hlookup entry List.mem_cons_self]
    dsimp only
    rw [if_neg (by omega), ih (fun e he => hlookup e (List.mem_cons_of_mem _ he)) _ _ (by
      simp only [List.length_append, List.length_cons, List.length_nil]
      omega)]
    simp [Device.encodeEntry]
    omega

section

variable {d : Device} {request : Packet} {sessionId : UInt32} {i : Fin maxSessions}
  {ids : List UInt8}

theorem get_command (h : request.Gets d.profile sessionId ids) :
    (start d).dispatchCommand request = (start d).handleSessionGetAppConfig request := by
  rcases h.command with ⟨hmt,hgid,hoid⟩
  exact get_app_config_command ⟨hmt,hgid,hoid,h.supported⟩

theorem Packet.Gets.long (h : request.Gets d.profile sessionId ids) :
    5 ≤ request.payload.length := by
  have hlisted := h.listed.length_le
  have hsome := List.length_pos_iff.mpr h.explicit
  rw [List.length_drop] at hlisted
  omega

theorem get_answered (h : request.Gets d.profile sessionId ids)
    (hfound : d.findSession sessionId = some i)
    (hstored : ∀ configId ∈ ids, d.profile.supportsSessionAppConfig configId = true ∧
      (d.sessions i).getConfig configId ≠ none)
    (hfits : 2+(((d.sessions i).entriesOf ids).flatMap Device.encodeEntry).length ≤ maxPayload) :
    (d.handlePacket request).1 = .ok ∧
      (d.handlePacket request).2.result.response = some ⟨mtResponse,pbfComplete,
        gidSessionConfig,sessionGetAppConfig,[statusOk,UInt8.ofNat ids.length] ++
          ((d.sessions i).entriesOf ids).flatMap Device.encodeEntry⟩ := by
  rcases h.command with ⟨hmt,hgid,hoid⟩
  rcases entries_of_ids fun configId hmem => (hstored configId hmem).2 with ⟨hids,hvalues⟩
  have hlength : ((d.sessions i).entriesOf ids).length = ids.length := by
    rw [← congrArg List.length hids, List.length_map]
  rcases h.listed with ⟨rest,hrest⟩
  have hcount : byteAt request.payload 4 ≠ 0 := by
    intro hzero
    have hcount := h.count
    rw [hzero] at hcount
    exact h.explicit (List.length_eq_zero_iff.mp hcount.symm)
  have hcollect := collect_configs_all
    (fun configId => if d.profile.supportsSessionAppConfig configId then
      (d.sessions i).getConfig configId else none) ((d.sessions i).entriesOf ids) ?_ rest [] 0
    hfits
  swap
  · intro entry hmem
    have hmem' : entry.1 ∈ ids := by
      rw [← hids]
      exact List.mem_map_of_mem hmem
    rw [if_pos (hstored entry.1 hmem').1]
    exact hvalues entry hmem
  rw [hids, hrest, hlength, ← h.count] at hcollect
  have hhandler : (start d).handleSessionGetAppConfig request = (.ok,
      (start d).respond gidSessionConfig sessionGetAppConfig
        ([statusOk,UInt8.ofNat ids.length] ++
          ((d.sessions i).entriesOf ids).flatMap Device.encodeEntry)) := by
    unfold handleSessionGetAppConfig
    rw [if_neg (Nat.not_lt_of_le h.long), show (start d).device = d from rfl,
      show readU32Le request.payload 0 = sessionId from h.target, hfound]
    dsimp only
    rw [if_neg hcount, hcollect, hoid, h.count, Nat.zero_add]
    rfl
  rw [handle_command_response d request hmt, handle_command d request hmt, get_command h, hhandler]
  exact ⟨rfl,rfl⟩

end

def Run.storedBy (sessionId : UInt32) : Run → List Op → List ConfigEntry
  | _, [] => []
  | r, op::ops => r.storesFor sessionId op ++ storedBy sessionId (r.step op) ops

theorem set_request_ignored {d : Device} {request : Packet} {sessionId : UInt32}
    (h : request.SetsFor sessionId) (hnot : ∀ j, ¬ Sets d request j) :
    ∃ pending, (d.handlePacket request).2.device = d.withPending pending := by
  rcases h with ⟨hmt,hgid,hoid,-⟩
  rcases handle_command_device d request hmt with ⟨p,hp⟩
  have hdispatch : (start d).dispatchCommand request = (start d).handleSessionConfig request :=
    dispatch_config hgid
  have hdevice : ((start d).handleSessionConfig request).2.device = d := by
    refine (config_dispatch d.profile request).outcome (P := fun o => o.2.device = d)
      (x := start d) rfl rfl ?_
    intro handler listed hs
    cases listed with
    | setAppConfig =>
      unfold handleSessionSetAppConfig
      by_cases hlen : request.payload.length < 5
      · rw [if_pos hlen]
        rfl
      rw [if_neg hlen]
      split
      · rfl
      · rename_i i hfound
        exact absurd ⟨⟨hmt,hgid,hoid⟩,hs,Nat.le_of_not_lt hlen,hfound⟩ (hnot i)
    | _ opcode =>
      rw [hoid] at opcode
      exact absurd opcode (by decide)
  rw [hdispatch, hdevice] at hp
  exact ⟨p,hp⟩

theorem set_keeps_session (r : Run) {request : Packet} {sessionId : UInt32}
    (h : request.SetsFor sessionId) :
    (r.step (.submit request)).engine.device.findSession sessionId =
      r.engine.device.findSession sessionId := by
  refine r.step_handled (P := fun d => d.findSession sessionId =
    r.engine.device.findSession sessionId) (fun _ _ hd => hd) ?_ (.submit request) ?_
  · intro d elapsedMs flushes ns d' hd hticked
    rw [find_session_same (.ticked hticked), hd]
  · rw [Run.handled]
    by_cases hset : ∃ i, Sets r.engine.device request i
    · rcases hset with ⟨i,hi⟩
      rcases set_request_device hi with ⟨p,hp⟩
      rw [hp]
      exact find_session_same (.reconfigured request (Device.find_session_some hi.2.2.2).1)
    · rcases set_request_ignored h fun j hj => hset ⟨j,hj⟩ with ⟨p,hp⟩
      rw [hp]
      rfl

theorem sets_keep {sessionId : UInt32} {i : Fin maxSessions} (sets : List Packet)
    (hsets : ∀ request ∈ sets, request.SetsFor sessionId) (r : Run)
    (hkept : r.engine.device.SlotsKept)
    (hfound : r.engine.device.findSession sessionId = some i) :
    (Runs.run Run.step r (sets.map .submit)).engine.device.findSession sessionId = some i ∧
      ((Runs.run Run.step r (sets.map .submit)).engine.device.sessions i).configs =
        Table.storeAll maxSessionConfigs (r.engine.device.sessions i).configs
          (r.storedBy sessionId (sets.map .submit)) := by
  induction sets generalizing r with
  | nil => exact ⟨hfound,rfl⟩
  | cons request sets ih =>
    have hfound' := (set_keeps_session r (hsets request List.mem_cons_self)).trans hfound
    rcases ih (fun p hp => hsets p (List.mem_cons_of_mem _ hp)) (r.step (.submit request))
      (hkept.step (.submit request)) hfound' with ⟨hrest,hconfigs⟩
    refine ⟨hrest,hconfigs.trans ?_⟩
    rcases step_continues hkept sessionId (.submit request) i hfound' with ⟨hnone,-⟩ | ⟨-,hstep⟩
    · rw [hnone] at hfound
      cases hfound
    · rw [hstep]
      simp only [Table.storeAll, Run.storedBy, List.map_cons, List.foldl_append]

/-- After any run and any set requests for a session that is there, a get request with an explicit
list of supported stored parameters that fits reports success, and its entries decode in the order
of the list to the last value stored for each, the profile's default where none was. A parameter
that none of the set requests stores keeps its value. -/
theorem app_config_round_trip (profile : Profile) (scenario : Scenario) (ops : List Op)
    (sets : List Packet) (sessionId : UInt32) (i : Fin maxSessions) (request : Packet)
    (ids : List UInt8)
    (hsession : (Run.reached profile scenario ops).engine.device.findSession sessionId = some i)
    (hsets : ∀ p ∈ sets, p.SetsFor sessionId) (hget : request.Gets profile sessionId ids)
    (hstored : ∀ configId ∈ ids, profile.supportsSessionAppConfig configId = true ∧
      ((Run.reached profile scenario (ops ++ sets.map .submit)).engine.device.sessions
        i).getConfig configId ≠ none)
    (hfits : 2+((((Run.reached profile scenario (ops ++ sets.map .submit)).engine.device.sessions
      i).entriesOf ids).flatMap Device.encodeEntry).length ≤ maxPayload) :
    let before := Run.reached profile scenario ops
    let d := (Run.reached profile scenario (ops ++ sets.map .submit)).engine.device
    (∃ items entries, (d.handlePacket request).1 = .ok ∧
      (d.handlePacket request).2.result.response = some ⟨mtResponse,pbfComplete,gidSessionConfig,
        sessionGetAppConfig,[statusOk,UInt8.ofNat ids.length] ++ items⟩ ∧
      decodeEntries ids.length items = some entries ∧ entries.map Prod.fst = ids ∧
      ∀ entry ∈ entries, Table.last entry.1 (profile.heldDefaults ++
        loggedEntries profile scenario sessionId (ops ++ sets.map .submit)) = some entry.2) ∧
    ∀ configId, configId ∉ Table.keys (before.storedBy sessionId (sets.map .submit)) →
      (d.sessions i).getConfig configId =
        (before.engine.device.sessions i).getConfig configId := by
  intro before d
  have hrun : Run.reached profile scenario (ops ++ sets.map .submit) =
      Runs.run Run.step before (sets.map .submit) := Runs.run_append _ _ _ _
  have hkeep := sets_keep sets hsets before (.reached profile scenario ops) hsession
  rw [← hrun] at hkeep
  have hprofile : d.profile = profile := Run.reached_profile (ops ++ sets.map .submit)
  have hlog := config_log_kept profile scenario sessionId (ops ++ sets.map .submit)
  have hrecords := hlog.records i
  rw [config_log_run] at hrecords
  rcases entries_of_ids fun configId hmem => (hstored configId hmem).2 with ⟨hids,hvalues⟩
  have hlength : ((d.sessions i).entriesOf ids).length = ids.length := by
    rw [← congrArg List.length hids, List.length_map]
  have hlast : ∀ entry ∈ (d.sessions i).entriesOf ids, Table.last entry.1 (profile.heldDefaults ++
      loggedEntries profile scenario sessionId (ops ++ sets.map .submit)) = some entry.2 :=
    fun entry hmem => hrecords hkeep.1 entry.1 entry.2 (hvalues entry hmem)
  have hshort : ∀ entry ∈ profile.heldDefaults ++
      loggedEntries profile scenario sessionId (ops ++ sets.map .submit),
      entry.2.length ≤ maxConfigValue := by
    intro entry hmem
    rcases List.mem_append.mp hmem with hmem | hmem
    · simpa using (List.mem_filter.mp hmem).2
    · exact hlog.short entry hmem
  rcases get_answered (hprofile.symm ▸ hget) hkeep.1 (hprofile.symm ▸ hstored) hfits
    with ⟨hrc,hresponse⟩
  refine ⟨⟨_,(d.sessions i).entriesOf ids,hrc,hresponse,?_,hids,hlast⟩,?_⟩
  · rw [← hlength]
    refine decode_encoded _ fun entry hmem => ?_
    exact Nat.lt_of_le_of_lt (hshort _ (Table.last_mem (hlast entry hmem))) (by decide)
  · intro configId hother
    rw [Session.getConfig, hkeep.2]
    exact Table.lookup_storeAll_other _ _ _ _ hother

/-- Two set requests and the read of a stored, a stored twice and a default parameter. -/
theorem app_config_round_trip_twice :
    let before := Run.reached defaultProfile .rangingStream [.submit (initRequest 1)]
    let sets := [setAppConfigRequest 1 2 [appConfigStsConfig,1,0,appConfigPrfMode,1,0],
      setAppConfigRequest 1 1 [appConfigPrfMode,1,1]]
    let ids := [appConfigPrfMode,appConfigRangingInterval,appConfigStsConfig]
    let d := (Run.reached defaultProfile .rangingStream
      ([.submit (initRequest 1)] ++ sets.map .submit)).engine.device
    (∃ items entries, (d.handlePacket (getAppConfigRequest 1 ids)).1 = .ok ∧
      (d.handlePacket (getAppConfigRequest 1 ids)).2.result.response = some ⟨mtResponse,
        pbfComplete,gidSessionConfig,sessionGetAppConfig,
        [statusOk,UInt8.ofNat ids.length] ++ items⟩ ∧
      decodeEntries ids.length items = some entries ∧ entries.map Prod.fst = ids ∧
      ∀ entry ∈ entries, Table.last entry.1 (defaultProfile.heldDefaults ++
        loggedEntries defaultProfile .rangingStream 1
          ([.submit (initRequest 1)] ++ sets.map .submit)) = some entry.2) ∧
    ∀ configId, configId ∉ Table.keys (before.storedBy 1 (sets.map .submit)) →
      (d.sessions 0).getConfig configId =
        (before.engine.device.sessions 0).getConfig configId :=
  app_config_round_trip defaultProfile .rangingStream [.submit (initRequest 1)] _ 1 0
    (getAppConfigRequest 1 [appConfigPrfMode,appConfigRangingInterval,appConfigStsConfig]) _
    (by decide +kernel)
    (fun p hp => by
      rcases List.mem_cons.mp hp with rfl | hp
      · exact ⟨rfl,rfl,rfl,by decide⟩
      · rcases List.mem_singleton.mp hp with rfl
        exact ⟨rfl,rfl,rfl,by decide⟩)
    ⟨⟨rfl,rfl,rfl⟩,by decide,by decide,by decide,by decide,⟨[],by decide⟩⟩
    (by decide +kernel) (by decide +kernel)

end UciSim
