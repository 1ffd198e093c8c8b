import UciSim.Conversations
import UciSim.CoreLedger

/-!
# The answers of the core group

A get request answers with the values granted last, a timestamp request with the number of
timestamps read before it. What the rest of the device does is never seen in these answers:
two runs with the same core commands get the same.
-/

set_option autoImplicit false

namespace UciSim

open Exchange

structure Packet.GetsCore (request : Packet) (ids : List UInt8) : Prop where
  command : request.mt = mtCommand ∧ request.gid = gidCore ∧ request.oid = coreGetConfig
  some : ids ≠ []
  count : (byteAt request.payload 0).toNat = ids.length
  listed : ids <+: request.payload.drop 1

section

variable {d : Device} {ledger : CoreLedger} {request : Packet}

theorem Device.Holds.get_config (h : d.Holds ledger) (configId : UInt8) :
    d.getConfig configId = ledger.value configId := by
  unfold Device.getConfig
  by_cases hstate : configId = deviceConfigDeviceState
  · rw [if_pos hstate, h.core.state, hstate, h.state]
  · rw [if_neg hstate, h.values configId]
    rfl

theorem Device.Holds.supports (h : d.Holds ledger) {configId : UInt8} {value : List UInt8}
    (hvalue : ledger.value configId = some value) :
    d.profile.supportsCoreConfig configId = true := by
  have hkey : configId ∈ Table.keys d.deviceConfigs := by
    by_contra habsent
    have hlookup := h.values configId
    rw [(Table.lookup_eq_none_iff configId d.deviceConfigs).mpr habsent] at hlookup
    exact absurd (hlookup.trans hvalue) (Option.some_ne_none value).symm
  rw [h.core.profile]
  exact List.contains_iff_mem.mpr (h.core.supported hkey)

theorem Device.Holds.get_answered (h : d.Holds ledger) {entries : List ConfigEntry}
    (hget : request.GetsCore (entries.map Prod.fst))
    (hvalues : ∀ entry ∈ entries, ledger.value entry.1 = some entry.2)
    (hfits : 2+(entries.flatMap Device.encodeEntry).length ≤ maxPayload) :
    (d.handlePacket request).2.result.response = some ⟨mtResponse,pbfComplete,gidCore,
      coreGetConfig,statusOk::UInt8.ofNat entries.length::
        entries.flatMap Device.encodeEntry⟩ := by
  obtain ⟨⟨hmt,hgid,hoid⟩,hsome,hcount,⟨rest,hrest⟩⟩ := hget
  rw [List.length_map] at hcount
  have hpositive : entries.length ≠ 0 := by simpa using hsome
  rw [handle_command_response d request hmt, get_core_dispatched hgid hoid h.core.profile]
  unfold handleCoreGetConfig
  cases hpayload : request.payload with
  | nil =>
    rw [hpayload] at hcount
    exact absurd hcount.symm hpositive
  | cons count ids =>
    rw [hpayload] at hcount hrest
    have hcollect := collect_configs_all
      (fun configId => if d.profile.supportsCoreConfig configId then d.getConfig configId else none)
      entries (fun entry hmem => by
        rw [if_pos (h.supports (hvalues entry hmem)), h.get_config, hvalues entry hmem])
      rest [] 0 hfits
    have hdeclared : count.toNat = entries.length := hcount
    rw [hrest, show (count::ids).drop 1 = ids from rfl] at hcollect
    dsimp only
    rw [show (start d).device = d from rfl, hdeclared, hcollect, Nat.zero_add]
    dsimp only
    rw [if_neg hpositive, hoid]
    rfl

theorem Device.Holds.stamped (h : d.Holds ledger) (hstamps : request.Stamps) :
    (d.handlePacket request).2.result.response = some ⟨mtResponse,pbfComplete,gidCore,
      coreQueryUwbsTimestamp,statusOk::writeU64Le ledger.timestamp⟩ := by
  obtain ⟨hmt,hgid,hoid,hempty⟩ := hstamps
  rw [handle_command_response d request hmt, dispatch_core hgid]
  have hs : (start d).device.profile.supportsCommand request.gid request.oid = true := by
    rw [show (start d).device.profile = defaultProfile from h.core.profile, hgid, hoid]
    decide
  rw [handle_core_of (.queryTimestamp hoid) hs]
  unfold handleQueryUwbsTimestamp
  rw [hempty, if_neg (by decide), ← h.timestamp]
  rfl

end

/-- In every run of the shipped profile, whatever else the run does, the core parameters are the
values that the core set requests were granted last, since the last accepted reset, and the
profile's own where none was; a get request for them answers with these values, and a timestamp
request with the number of timestamps read before it. -/
theorem core_group_remembered (scenario : Scenario) (ops : List Op) :
    let d := (Run.reached defaultProfile scenario ops).engine.device
    let ledger := CoreLedger.kept ops
    (∀ configId, d.getConfig configId = ledger.value configId) ∧
    (∀ (request : Packet) (entries : List ConfigEntry),
      request.GetsCore (entries.map Prod.fst) →
      (∀ entry ∈ entries, ledger.value entry.1 = some entry.2) →
      2+(entries.flatMap Device.encodeEntry).length ≤ maxPayload →
      (d.handlePacket request).2.result.response = some ⟨mtResponse,pbfComplete,gidCore,
        coreGetConfig,statusOk::UInt8.ofNat entries.length::
          entries.flatMap Device.encodeEntry⟩) ∧
    ∀ request, request.Stamps → (d.handlePacket request).2.result.response =
      some ⟨mtResponse,pbfComplete,gidCore,coreQueryUwbsTimestamp,
        statusOk::writeU64Le ledger.timestamp⟩ := by
  intro d ledger
  have h : d.Holds ledger := Run.core_holds scenario ops
  exact ⟨h.get_config,fun _ _ hget hvalues hfits => h.get_answered hget hvalues hfits,
    fun _ hstamps => h.stamped hstamps⟩

/-- A parameter that is set twice, between a session and a measurement. -/
def coreScript : List Op :=
  [.submit (hostCommand gidCore coreSetConfig [1,deviceConfigLowPowerMode,1,0]),
    .submit (initRequest 1),.tick 10,
    .submit (hostCommand gidCore coreQueryUwbsTimestamp []),.dequeue,
    .submit (hostCommand gidCore coreSetConfig [1,deviceConfigLowPowerMode,1,3])]

theorem core_group_remembered_twice :
    ((Run.reached defaultProfile .rangingStream coreScript).engine.device.handlePacket
        (hostCommand gidCore coreGetConfig [1,deviceConfigLowPowerMode])).2.result.response =
      some ⟨mtResponse,pbfComplete,gidCore,coreGetConfig,
        [statusOk,1,deviceConfigLowPowerMode,1,3]⟩ :=
  (core_group_remembered .rangingStream coreScript).2.1 _ [(deviceConfigLowPowerMode,[3])]
    ⟨⟨rfl,rfl,rfl⟩,by decide,by decide,⟨[],by decide⟩⟩ (by decide) (by decide)

def Packet.ForCore (request : Packet) : Prop := request.mt = mtCommand ∧ request.gid = gidCore

instance (request : Packet) : Decidable request.ForCore := inferInstanceAs (Decidable (_ ∧ _))

def coreCommands (ops : List Op) : List Packet :=
  (ops.flatMap Op.submits).filter fun request => request.ForCore

theorem CoreLedger.kept_core (ledger : CoreLedger) (ops : List Op) :
    Runs.run told ledger ops = Runs.run told ledger ((coreCommands ops).map .submit) := by
  induction ops generalizing ledger with
  | nil => rfl
  | cons op ops ih =>
    have hcons : coreCommands (op::ops) =
        (op.submits.filter fun request => request.ForCore) ++ coreCommands ops := by
      rw [coreCommands, List.flatMap_cons, List.filter_append]
      rfl
    rw [hcons]
    cases op with
    | dequeue | tick => exact ih _
    | submit request =>
      by_cases hcore : request.ForCore
      · rw [Op.submits, List.filter_cons_of_pos (by simpa using hcore), List.filter_nil]
        exact ih _
      · rw [Op.submits, List.filter_cons_of_neg (by simpa using hcore), List.filter_nil]
        show Runs.run told (ledger.told (.submit request)) ops = _
        rw [ledger.told_ignored fun hr => hcore ⟨hr.1,hr.2.1⟩]
        exact ih _

section

variable {d d' : Device} {ledger : CoreLedger} {request : Packet}

theorem Device.CoreKept.loops_alike (h : d.CoreKept) (h' : d'.CoreKept) (count : ℕ)
    (rest items : List UInt8) (anyFailed : Bool) :
    (coreSetConfigs count rest d items anyFailed).2 =
      (coreSetConfigs count rest d' items anyFailed).2 := by
  induction count generalizing rest d d' items anyFailed with
  | zero => simp [coreSetConfigs]
  | succ count ih =>
    obtain _ | ⟨configId,_ | ⟨valueLen,rest⟩⟩ := rest
    · simp [coreSetConfigs]
    · simp [coreSetConfigs]
    rw [coreSetConfigs, coreSetConfigs, h.profile, h'.profile]
    by_cases hcut : rest.length < valueLen.toNat ∨ 2+items.length+2 > maxPayload
    · rw [if_pos hcut, if_pos hcut]
    rw [if_neg hcut, if_neg hcut]
    by_cases hstate : configId = deviceConfigDeviceState
    · rw [if_pos hstate, if_pos hstate]
      exact ih h h' _ _ _
    rw [if_neg hstate, if_neg hstate]
    by_cases hsupported : defaultProfile.supportsCoreConfig configId = true
    swap
    · rw [if_pos (by simp [hsupported]), if_pos (by simp [hsupported])]
      exact ih h h' _ _ _
    rw [if_neg (by simp [hsupported]), if_neg (by simp [hsupported])]
    have hstores := h.stores (configId,rest.take valueLen.toNat) hsupported
    have hstores' := h'.stores (configId,rest.take valueLen.toNat) hsupported
    by_cases hgrants : defaultProfile.GrantsCore (configId,rest.take valueLen.toNat)
    · obtain ⟨next,hstore,hnext⟩ := hstores.1 hgrants
      obtain ⟨next',hstore',hnext'⟩ := hstores'.1 hgrants
      rw [hstore, hstore']
      exact ih hnext hnext' _ _ _
    · rw [hstores.2 hgrants, hstores'.2 hgrants]
      exact ih h h' _ _ _

theorem Device.Holds.set_config_alike (h : d.Holds ledger) (h' : d'.Holds ledger) :
    ((start d).handleCoreSetConfig request).2.result.response =
      ((start d').handleCoreSetConfig request).2.result.response := by
  unfold handleCoreSetConfig
  cases request.payload with
  | nil => rfl
  | cons count rest =>
    have hloop := h.core.loops_alike h'.core count.toNat rest [] false
    dsimp only
    rw [show (start d).device = d from rfl, show (start d').device = d' from rfl]
    generalize coreSetConfigs count.toNat rest d [] false = outcome at hloop ⊢
    generalize coreSetConfigs count.toNat rest d' [] false = outcome' at hloop ⊢
    obtain ⟨left,items,failed⟩ := outcome
    obtain ⟨left',items',failed'⟩ := outcome'
    cases hloop
    rfl

theorem Device.Holds.get_config_alike (h : d.Holds ledger) (h' : d'.Holds ledger) :
    ((start d).handleCoreGetConfig request).2.result.response =
      ((start d').handleCoreGetConfig request).2.result.response := by
  have hlookup : d.getConfig = d'.getConfig := by
    funext configId
    rw [h.get_config, h'.get_config]
  unfold handleCoreGetConfig
  cases request.payload with
  | nil => rfl
  | cons count rest =>
    dsimp only
    rw [show (start d).device = d from rfl, show (start d').device = d' from rfl, hlookup,
      h.core.profile, h'.core.profile]
    rfl

theorem Device.Holds.core_alike (h : d.Holds ledger) (h' : d'.Holds ledger)
    (hinfo : request.oid ≠ coreDeviceInfo) :
    ((start d).handleCore request).2.result.response =
      ((start d').handleCore request).2.result.response := by
  refine (core_dispatch defaultProfile request).related (x := start d) (y := start d')
    (R := fun o o' => o.2.result.response = o'.2.result.response) h.core.profile h'.core.profile
    rfl ?_
  intro handler listed _
  cases listed with
  | deviceReset =>
    unfold handleDeviceReset
    split_ifs
    · rfl
    · rfl
    · dsimp only
      rw [emit_response, emit_response]
      rfl
  | deviceInfo opcode => exact absurd opcode hinfo
  | getCaps =>
    dsimp only
    rw [show (start d).device = d from rfl, show (start d').device = d' from rfl, h.core.profile,
      h'.core.profile]
    split_ifs <;> rfl
  | setConfig => exact h.set_config_alike h'
  | getConfig => exact h.get_config_alike h'
  | queryTimestamp =>
    unfold handleQueryUwbsTimestamp
    split_ifs
    · rfl
    · dsimp only
      rw [show (start d).device = d from rfl, show (start d').device = d' from rfl, h.timestamp,
        h'.timestamp]
      rfl

end

/-- The core group sees nothing but core commands: after two runs of the shipped profile, of
whatever scenarios, that submit the same core commands in the same order, every core command is
answered alike, the identification of the device apart. -/
theorem core_group_unobserving (scenario scenario' : Scenario) (ops ops' : List Op)
    (h : coreCommands ops = coreCommands ops') (request : Packet) (hcore : request.ForCore)
    (hinfo : request.oid ≠ coreDeviceInfo) :
    ((Run.reached defaultProfile scenario ops).engine.device.handlePacket
        request).2.result.response =
      ((Run.reached defaultProfile scenario' ops').engine.device.handlePacket
        request).2.result.response := by
  have hledger : CoreLedger.kept ops = CoreLedger.kept ops' := by
    rw [CoreLedger.kept, CoreLedger.kept, CoreLedger.kept_core, CoreLedger.kept_core _ ops', h]
  have hfirst := Run.core_holds scenario ops
  have hsecond := Run.core_holds scenario' ops'
  rw [← hledger] at hsecond
  rw [handle_command_response _ request hcore.1, handle_command_response _ request hcore.1,
    dispatch_core hcore.2, dispatch_core hcore.2]
  exact hfirst.core_alike hsecond hinfo

/-- The session and the measurements are out of sight. -/
theorem core_group_unobserving_script :
    ((Run.reached defaultProfile .rangingStream coreScript).engine.device.handlePacket
        (hostCommand gidCore coreQueryUwbsTimestamp [])).2.result.response =
      ((Run.reached defaultProfile .delayedNotifications
        ((coreCommands coreScript).map .submit)).engine.device.handlePacket
          (hostCommand gidCore coreQueryUwbsTimestamp [])).2.result.response :=
  core_group_unobserving .rangingStream .delayedNotifications coreScript
    ((coreCommands coreScript).map .submit) (by decide) _ ⟨rfl,rfl⟩ (by decide)

end UciSim
