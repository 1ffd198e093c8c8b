import UciSim.FailedSets
import UciSim.SessionIsolation

/-!
# Core parameters

A core set request judges its entries one by one: a refused entry neither stops
the loop nor undoes what was stored before it. The device state is a parameter
that can be read only, and no run changes it.
-/

set_option autoImplicit false

namespace UciSim

open Exchange

/-- The profile has the parameter, it is not the device state, and the value fits. -/
def Profile.GrantsCore (profile : Profile) (entry : ConfigEntry) : Prop :=
  profile.supportsCoreConfig entry.1 = true ∧ entry.1 ≠ deviceConfigDeviceState ∧
    entry.2.length ≤ maxConfigValue

instance (profile : Profile) (entry : ConfigEntry) : Decidable (profile.GrantsCore entry) :=
  inferInstanceAs (Decidable (_ ∧ _ ∧ _))

namespace Packet

def declaredCore (request : Packet) : ℕ := (byteAt request.payload 0).toNat

def carriedCore (request : Packet) : List ConfigEntry :=
  carriedEntries request.declaredCore (request.payload.drop 1)

/-- A core set request with a count and at least as many complete entries behind it. -/
structure SetsCore (request : Packet) : Prop where
  mt : request.mt = mtCommand
  gid : request.gid = gidCore
  oid : request.oid = coreSetConfig
  counted : request.payload ≠ []
  complete : request.carriedCore.length = request.declaredCore

end Packet

def statusPairs (entries : List ConfigEntry) (statuses : List UInt8) : List UInt8 :=
  (List.zipWith (fun entry status => [entry.1,status]) entries statuses).flatten

namespace Device

def storeConfigs (d : Device) (entries : List ConfigEntry) : Option Device :=
  entries.foldlM (fun d entry => d.storeConfig entry.1 entry.2) d

/-- Every entry of the request gets its own status, and the granted ones are stored in order. -/
def SetsEach (d : Device) (request : Packet) : Prop :=
  ∃ overall statuses d' pending,
    (d.handlePacket request).2.result.response = some ⟨mtResponse,pbfComplete,gidCore,
      coreSetConfig,overall::UInt8.ofNat request.declaredCore::
        statusPairs request.carriedCore statuses⟩ ∧
    List.Forall₂ (fun entry status => status = statusOk ↔ d.profile.GrantsCore entry)
      request.carriedCore statuses ∧
    (overall = statusOk ↔ ∀ status ∈ statuses, status = statusOk) ∧
    d.storeConfigs (request.carriedCore.filter (fun entry => d.profile.GrantsCore entry)) =
      some d' ∧
    (d.handlePacket request).2.device = d'.withPending pending

/-- The device state is as the profile has it, and so is the answer to a request for it. -/
def ReportsState (d : Device) (state : UInt8) : Prop :=
  d.getConfig deviceConfigDeviceState = some [state] ∧
    ∃ response, (d.handlePacket
        (hostCommand gidCore coreGetConfig [1,deviceConfigDeviceState])).2.result.response =
          some response ∧ response.payload = [statusOk,1,deviceConfigDeviceState,1,state]

/-- What every run from the shipped profile keeps of the core parameters: each of them has a
slot to itself, so a supported one always finds room. -/
structure CoreKept (d : Device) : Prop where
  profile : d.profile = defaultProfile
  state : d.deviceState = defaultProfile.defaultDeviceState
  nodup : (Table.keys d.deviceConfigs).Nodup
  supported : Table.keys d.deviceConfigs ⊆ defaultProfile.supportedCoreConfigIds

namespace CoreKept

variable {d d' : Device}

theorem same (h : d.CoreKept) (hp : d'.profile = d.profile) (hs : d'.deviceState = d.deviceState)
    (hc : d'.deviceConfigs = d.deviceConfigs) : d'.CoreKept where
  profile := hp.trans h.profile
  state := hs.trans h.state
  nodup := hc ▸ h.nodup
  supported := hc ▸ h.supported

theorem withPending (h : d.CoreKept) (pending : List Packet) : (d.withPending pending).CoreKept :=
  h.same rfl rfl rfl

theorem stores (h : d.CoreKept) (entry : ConfigEntry)
    (hsupported : defaultProfile.supportsCoreConfig entry.1 = true) :
    (defaultProfile.GrantsCore entry → ∃ d', d.storeConfig entry.1 entry.2 = some d' ∧
      d'.CoreKept) ∧
    (¬ defaultProfile.GrantsCore entry → d.storeConfig entry.1 entry.2 = none) := by
  unfold storeConfig
  constructor
  · intro hgrants
    have hkey : entry.1 ∈ defaultProfile.supportedCoreConfigIds :=
      List.contains_iff_mem.mp hsupported
    rcases Option.isSome_iff_exists.mp (Table.store_isSome_of_allowed maxDeviceConfigs entry.1
      entry.2 d.deviceConfigs h.nodup h.supported (by decide) hkey) with ⟨configs,hstore⟩
    rw [if_neg (Nat.not_lt_of_le hgrants.2.2), if_neg hgrants.2.1, hstore]
    refine ⟨_,rfl,h.profile,h.state,Table.store_keys_nodup _ _ _ _ _ h.nodup hstore,?_⟩
    exact List.Subset.trans (Table.store_keys_subset _ _ _ _ _ hstore)
      (List.cons_subset.mpr ⟨hkey,h.supported⟩)
  · intro hrefused
    by_cases hlong : entry.2.length > maxConfigValue
    · exact if_pos hlong
    · have hstate : entry.1 = deviceConfigDeviceState := by
        by_contra hother
        exact hrefused ⟨hsupported,hother,Nat.le_of_not_lt hlong⟩
      rw [if_neg hlong, if_pos hstate]

end CoreKept

theorem stored_configs_cons (d : Device) (entry : ConfigEntry) (entries : List ConfigEntry) :
    d.storeConfigs (entry::entries) =
      (d.storeConfig entry.1 entry.2).bind (fun d => d.storeConfigs entries) := by
  rw [storeConfigs, List.foldlM_cons]
  rfl

/-- The loop over the entries of a request: what it leaves, the pairs it appends, and whether
one of them reports a failure. -/
def LoopsEach (d : Device) (count : ℕ) (rest items : List UInt8) (anyFailed : Bool) : Prop :=
  ∃ statuses d' failed,
    coreSetConfigs count rest d items anyFailed =
      (d',items ++ statusPairs (carriedEntries count rest) statuses,failed) ∧
    List.Forall₂ (fun entry status => status = statusOk ↔ defaultProfile.GrantsCore entry)
      (carriedEntries count rest) statuses ∧
    (failed = true ↔ anyFailed = true ∨ ∃ status ∈ statuses, status ≠ statusOk) ∧
    d.storeConfigs ((carriedEntries count rest).filter
      (fun entry => defaultProfile.GrantsCore entry)) = some d' ∧ d'.CoreKept

theorem loops_refused {d : Device} {count : ℕ} {rest tail items : List UInt8} {anyFailed : Bool}
    {entry : ConfigEntry} {status : UInt8} (hstatus : status ≠ statusOk)
    (hrefused : ¬ defaultProfile.GrantsCore entry)
    (hcarried : carriedEntries (count+1) rest = entry::carriedEntries count tail)
    (hturn : coreSetConfigs (count+1) rest d items anyFailed =
      coreSetConfigs count tail d (items ++ [entry.1,status]) true)
    (h : d.LoopsEach count tail (items ++ [entry.1,status]) true) :
    d.LoopsEach (count+1) rest items anyFailed := by
  rcases h with ⟨statuses,d',failed,hloop,hjudged,hfailed,hstored,hkept⟩
  refine ⟨status::statuses,d',failed,?_,?_,?_,?_,hkept⟩
  · rw [hturn, hloop, hcarried]
    simp [statusPairs]
  · rw [hcarried]
    exact .cons (iff_of_false hstatus hrefused) hjudged
  · rw [hfailed]
    exact iff_of_true (Or.inl rfl) (Or.inr ⟨status,List.mem_cons_self,hstatus⟩)
  · rw [hcarried, List.filter_cons_of_neg (by simpa using hrefused)]
    exact hstored

theorem loops_granted {d next : Device} {count : ℕ} {rest tail items : List UInt8}
    {anyFailed : Bool} {entry : ConfigEntry} (hgranted : defaultProfile.GrantsCore entry)
    (hcarried : carriedEntries (count+1) rest = entry::carriedEntries count tail)
    (hstore : d.storeConfig entry.1 entry.2 = some next)
    (hturn : coreSetConfigs (count+1) rest d items anyFailed =
      coreSetConfigs count tail next (items ++ [entry.1,statusOk]) anyFailed)
    (h : next.LoopsEach count tail (items ++ [entry.1,statusOk]) anyFailed) :
    d.LoopsEach (count+1) rest items anyFailed := by
  rcases h with ⟨statuses,d',failed,hloop,hjudged,hfailed,hstored,hkept⟩
  refine ⟨statusOk::statuses,d',failed,?_,?_,?_,?_,hkept⟩
  · rw [hturn, hloop, hcarried]
    simp [statusPairs]
  · rw [hcarried]
    exact .cons (iff_of_true rfl hgranted) hjudged
  · rw [hfailed]
    simp
  · rw [hcarried, List.filter_cons_of_pos (by simpa using hgranted), stored_configs_cons, hstore]
    exact hstored

/-- The induction is on the count; the entries that are left and the room for their pairs
shrink with it. -/
theorem core_set_configs_each (count : ℕ) (rest items : List UInt8) (d : Device)
    (anyFailed : Bool) (h : d.CoreKept)
    (hcarried : (carriedEntries count rest).length = count)
    (hroom : 2+items.length+2*count ≤ maxPayload) :
    d.LoopsEach count rest items anyFailed := by
  induction count generalizing rest items d anyFailed with
  | zero => exact ⟨[],d,anyFailed,by simp [coreSetConfigs, carriedEntries, statusPairs],
      .nil,by simp,rfl,h⟩
  | succ count ih =>
    rcases rest with _ | ⟨configId,_ | ⟨valueLen,rest⟩⟩
    · cases hcarried
    · cases hcarried
    · have hlong : ¬ rest.length < valueLen.toNat := by
        intro hcut
        rw [carriedEntries, if_pos hcut] at hcarried
        cases hcarried
      have hhead : carriedEntries (count+1) (configId::valueLen::rest) =
          (configId,rest.take valueLen.toNat)::
            carriedEntries count (rest.drop valueLen.toNat) := by
        rw [carriedEntries, if_neg hlong]
      have hcount : (carriedEntries count (rest.drop valueLen.toNat)).length = count := by
        rw [hhead] at hcarried
        exact Nat.succ.inj hcarried
      have hfits : ¬ (rest.length < valueLen.toNat ∨ 2+items.length+2 > maxPayload) := by
        omega
      have hnext : ∀ status : UInt8, 2+(items ++ [configId,status]).length+2*count ≤
          maxPayload := by
        intro status
        simp only [List.length_append, List.length_cons, List.length_nil]
        omega
      by_cases hstate : configId = deviceConfigDeviceState
      · refine loops_refused (by decide) (fun hgrants => hgrants.2.1 hstate) hhead ?_
          (ih _ _ d _ h hcount (hnext statusInvalidParam))
        rw [coreSetConfigs, if_neg hfits, if_pos hstate]
      by_cases hsupported : defaultProfile.supportsCoreConfig configId = true
      · have hstores := h.stores (configId,rest.take valueLen.toNat) hsupported
        by_cases hgrants : defaultProfile.GrantsCore (configId,rest.take valueLen.toNat)
        · rcases hstores.1 hgrants with ⟨next,hstore,hkept⟩
          refine loops_granted hgrants hhead hstore ?_ (ih _ _ next _ hkept hcount (hnext statusOk))
          rw [coreSetConfigs, if_neg hfits, if_neg hstate, h.profile, if_neg (by simp [hsupported]),
            hstore]
        · refine loops_refused (by decide) hgrants hhead ?_
            (ih _ _ d _ h hcount (hnext statusFailed))
          rw [coreSetConfigs, if_neg hfits, if_neg hstate, h.profile, if_neg (by simp [hsupported]),
            hstores.2 hgrants]
      · refine loops_refused (by decide) (fun hgrants => hsupported hgrants.1) hhead ?_
          (ih _ _ d _ h hcount (hnext statusInvalidParam))
        rw [coreSetConfigs, if_neg hfits, if_neg hstate, h.profile, if_pos (by simp [hsupported])]

variable {d : Device} {request : Packet}

theorem set_core_dispatched (h : request.SetsCore) (hp : d.profile = defaultProfile) :
    (start d).dispatchCommand request = (start d).handleCoreSetConfig request := by
  refine dispatch_core_of (.setConfig h.oid) h.gid ?_
  rw [show (start d).device = d from rfl, hp, h.gid, h.oid]
  decide

theorem status_pairs_length {entries : List ConfigEntry} {statuses : List UInt8}
    (h : entries.length = statuses.length) :
    (statusPairs entries statuses).length = 2*entries.length := by
  induction entries generalizing statuses with
  | nil => rfl
  | cons entry entries ih =>
    cases statuses with
    | nil => cases h
    | cons status statuses =>
      have htail := ih (Nat.succ.inj h)
      simp only [statusPairs, List.zipWith_cons_cons, List.flatten_cons, List.length_append,
        List.length_cons, List.length_nil] at htail ⊢
      omega

theorem CoreKept.sets_each (h : d.CoreKept) (hset : request.SetsCore) : d.SetsEach request := by
  have hsmall : request.declaredCore < 256 := UInt8.toNat_lt _
  rcases List.exists_cons_of_ne_nil hset.counted with ⟨count,rest,hpayload⟩
  have hdeclared : request.declaredCore = count.toNat := by
    rw [Packet.declaredCore, hpayload]
    rfl
  have hcarried : request.carriedCore = carriedEntries count.toNat rest := by
    rw [Packet.carriedCore, hdeclared, hpayload]
    rfl
  have hcomplete := hset.complete
  rw [hdeclared, hcarried] at hcomplete
  rw [hdeclared] at hsmall
  have hsize : maxPayload = 1024 := rfl
  rcases core_set_configs_each count.toNat rest [] d false h hcomplete
      (by rw [List.length_nil]; omega)
    with ⟨statuses,d',failed,hloop,hjudged,hfailed,hstored,-⟩
  rw [List.nil_append] at hloop
  have hitems : (statusPairs (carriedEntries count.toNat rest) statuses).length/2 =
      count.toNat := by
    rw [status_pairs_length hjudged.length_eq, hcomplete]
    omega
  have hhandler : (start d).dispatchCommand request =
      (rcOf (if failed = true then statusInvalidParam else statusOk),
        { start d with device := d' }.respond gidCore coreSetConfig
          ((if failed = true then statusInvalidParam else statusOk)::UInt8.ofNat count.toNat::
            statusPairs (carriedEntries count.toNat rest) statuses)) := by
    rw [set_core_dispatched hset h.profile, handleCoreSetConfig, hpayload]
    dsimp only
    rw [show (start d).device = d from rfl, hloop]
    dsimp only
    rw [hitems, hset.oid]
    simp
  rcases handle_command_device d request hset.mt with ⟨pending,hdevice⟩
  unfold SetsEach
  rw [hdeclared, hcarried, h.profile, handle_command_response d request hset.mt, hdevice, hhandler]
  refine ⟨_,statuses,d',pending,rfl,hjudged,?_,hstored,rfl⟩
  cases failed with
  | true =>
    rcases (hfailed.mp rfl).resolve_left Bool.false_ne_true with ⟨status,hmem,hstatus⟩
    exact iff_of_false (by decide) fun hall => hstatus (hall status hmem)
  | false =>
    refine iff_of_true rfl fun status hmem => ?_
    by_contra hstatus
    exact Bool.false_ne_true (hfailed.mpr (Or.inr ⟨status,hmem,hstatus⟩))

theorem get_core_dispatched (hgid : request.gid = gidCore) (hoid : request.oid = coreGetConfig)
    (hp : d.profile = defaultProfile) :
    (start d).dispatchCommand request = (start d).handleCoreGetConfig request := by
  refine dispatch_core_of (.getConfig hoid) hgid ?_
  rw [show (start d).device = d from rfl, hp, hgid, hoid]
  decide

theorem collect_one (lookup : UInt8 → Option (List UInt8)) (configId value : UInt8)
    (h : lookup configId = some [value]) :
    collectConfigs lookup 1 [configId] [] 0 = (statusOk,[configId,1,value],1) := by
  rw [collectConfigs, h]
  rfl

theorem CoreKept.reports_state (h : d.CoreKept) :
    d.ReportsState defaultProfile.defaultDeviceState := by
  have hstate : d.getConfig deviceConfigDeviceState = some [d.deviceState] := if_pos rfl
  have hsupports : defaultProfile.supportsCoreConfig deviceConfigDeviceState = true := by decide
  have hcollect := collect_one
    (fun configId => if d.profile.supportsCoreConfig configId then d.getConfig configId else none)
    deviceConfigDeviceState d.deviceState
    (by rw [h.profile, if_pos hsupports, hstate])
  refine ⟨h.state ▸ hstate,?_⟩
  rw [handle_command_response d _ rfl, get_core_dispatched rfl rfl h.profile]
  unfold handleCoreGetConfig hostCommand
  dsimp only
  rw [show (start d).device = d from rfl, show (1 : UInt8).toNat = 1 from rfl, hcollect, h.state]
  exact ⟨_,rfl,rfl⟩

theorem CoreKept.defaults {profile : Profile} (hp : profile = defaultProfile)
    (hc : d.profile = profile) (hs : d.deviceState = profile.defaultDeviceState)
    (hconfigs : d.deviceConfigs = [
      (deviceConfigDeviceState, [profile.defaultDeviceState]),
      (deviceConfigLowPowerMode, [profile.defaultLowPowerMode]),
      (deviceConfigDevicePanId, [profile.defaultDevicePanId.1, profile.defaultDevicePanId.2])]) :
    d.CoreKept where
  profile := hc.trans hp
  state := hs.trans (congrArg Profile.defaultDeviceState hp)
  nodup := by
    rw [hconfigs, Table.keys]
    exact (by decide : [deviceConfigDeviceState,deviceConfigLowPowerMode,
      deviceConfigDevicePanId].Nodup)
  supported := by
    rw [hconfigs, Table.keys]
    exact (by decide : [deviceConfigDeviceState,deviceConfigLowPowerMode,
      deviceConfigDevicePanId] ⊆ defaultProfile.supportedCoreConfigIds)

theorem CoreKept.loop (h : d.CoreKept) (count : ℕ) (rest items : List UInt8) (anyFailed : Bool) :
    (coreSetConfigs count rest d items anyFailed).1.CoreKept := by
  induction count generalizing rest d items anyFailed with
  | zero => exact h
  | succ count ih =>
    match rest with
    | [] => exact h
    | [_] => exact h
    | configId::valueLen::rest =>
      unfold coreSetConfigs
      dsimp only
      by_cases hcut : rest.length < valueLen.toNat ∨ 2+items.length+2 > maxPayload
      · rw [if_pos hcut]
        exact h
      by_cases hstate : configId = deviceConfigDeviceState
      · rw [if_neg hcut, if_pos hstate]
        exact ih h _ _ _
      by_cases hsupported : (!d.profile.supportsCoreConfig configId) = true
      · rw [if_neg hcut, if_neg hstate, if_pos hsupported]
        exact ih h _ _ _
      rw [if_neg hcut, if_neg hstate, if_neg hsupported]
      have hstores := h.stores (configId,rest.take valueLen.toNat)
        (by rw [← h.profile]; simpa using hsupported)
      by_cases hgrants : defaultProfile.GrantsCore (configId,rest.take valueLen.toNat)
      · rcases hstores.1 hgrants with ⟨next,hstore,hnext⟩
        rw [hstore]
        exact ih hnext _ _ _
      · rw [hstores.2 hgrants]
        exact ih h _ _ _

theorem CoreKept.emit {x : Exchange} (h : x.device.CoreKept) (n : Packet) :
    (x.emit n).device.CoreKept := by
  rcases emit_device x n with ⟨pending,hdevice⟩
  rw [hdevice]
  exact h.withPending pending

theorem CoreKept.core (h : d.CoreKept) (request : Packet) :
    ((start d).handleCore request).2.device.CoreKept := by
  refine (core_dispatch d.profile request).outcome (P := fun o => o.2.device.CoreKept)
    (x := start d) rfl h ?_
  intro handler listed _
  cases listed with
  | deviceReset =>
    unfold handleDeviceReset
    split_ifs
    · exact h
    · exact h
    · dsimp only
      have hdefaults : d.resetRuntimeState.CoreKept := .defaults h.profile rfl rfl rfl
      exact CoreKept.emit hdefaults _
  | deviceInfo => exact h
  | getCaps =>
    dsimp only
    split <;> exact h
  | setConfig =>
    unfold handleCoreSetConfig
    cases request.payload with
    | nil => exact h
    | cons count rest => exact h.loop count.toNat rest [] false
  | getConfig =>
    unfold handleCoreGetConfig
    cases request.payload with
    | nil => exact h
    | cons count rest => exact h
  | queryTimestamp =>
    unfold handleQueryUwbsTimestamp
    split
    · exact h
    · exact h.same rfl rfl rfl

theorem CoreKept.handled (h : d.CoreKept) (request : Packet) :
    (d.handlePacket request).2.device.CoreKept := by
  by_cases hsession : request.ForSession
  · have hisolated := session_packets_isolated d request hsession
    exact h.same hisolated.profile hisolated.state hisolated.configs
  rcases not_or.mp hsession with ⟨hdata,hcommand⟩
  by_cases hmt : request.mt = mtCommand
  · rcases handle_command_device d request hmt with ⟨pending,hdevice⟩
    rcases not_or.mp fun hgid => hcommand ⟨hmt,hgid⟩ with ⟨hconfig,hcontrol⟩
    rw [hdevice]
    refine CoreKept.withPending ?_ pending
    rcases group_dispatch request with ⟨handler,listed,runs⟩
    rw [runs]
    cases listed with
    | core => exact h.core request
    | sessionConfig group => exact absurd group hconfig
    | sessionControl group => exact absurd group hcontrol
    | qorvoExt2 =>
      unfold handleQorvoExt2
      split <;> exact h
    | qorvoMac =>
      unfold handleQorvoMac
      split
      · split
        · exact h
        · dsimp only
          split <;> exact h
      · split <;> exact h
    | unknown => exact h
  · rw [handle_packet_other d request hdata hmt]
    exact h

end Device

theorem ranged_core {d d' : Device} {i : Fin maxSessions} {rc : Rc} {ns : List Packet}
    (h : Ranged d i rc ns d') :
    d'.deviceConfigs = d.deviceConfigs ∧ d'.deviceState = d.deviceState := by
  have hsampled : ∀ {ns d'}, Sampled d ns d' →
      d'.deviceConfigs = d.deviceConfigs ∧ d'.deviceState = d.deviceState := by
    intro ns d' h
    cases h <;> exact ⟨rfl,rfl⟩
  cases h with
  | blocked _ _ _ _ sampled => exact hsampled sampled
  | measured _ _ _ _ _ sampled =>
    rcases hsampled sampled with ⟨hconfigs,hstate⟩
    exact ⟨hconfigs,hstate⟩
  | finished _ _ _ _ _ _ sampled =>
    rcases hsampled sampled with ⟨hconfigs,hstate⟩
    exact ⟨hconfigs,hstate⟩
  | _ => exact ⟨rfl,rfl⟩

theorem transferred_core {d d' : Device} {i : Fin maxSessions} {rc : Rc} {ns : List Packet}
    (h : Transferred d i rc ns d') :
    d'.deviceConfigs = d.deviceConfigs ∧ d'.deviceState = d.deviceState := by
  cases h <;> exact ⟨rfl,rfl⟩

theorem resumed_core (d : Device) (type : EventType) (i : Fin maxSessions) :
    (d.resumed type i).deviceConfigs = d.deviceConfigs ∧
      (d.resumed type i).deviceState = d.deviceState := by
  rcases resumed_eq d type i with ⟨events,hresumed⟩
  rw [hresumed]
  exact ⟨rfl,rfl⟩

theorem fired_core {d d' : Device} {event : ScheduledEvent} {flushes : Bool} {ns : List Packet}
    (h : Fired d event flushes ns d') :
    d'.deviceConfigs = d.deviceConfigs ∧ d'.deviceState = d.deviceState := by
  cases h with
  | unmatched _ => exact ⟨rfl,rfl⟩
  | transferIdle _ _ _ _ => exact ⟨rfl,rfl⟩
  | rangingFailed _ _ _ _ _ ranged => exact ranged_core ranged
  | rangingOver _ _ _ _ _ ranged _ => exact ranged_core ranged
  | rangingOn i _ d' _ _ ranged _ =>
    rcases resumed_core d' .rangeData i with ⟨hconfigs,hstate⟩
    rw [hconfigs, hstate]
    exact ranged_core ranged
  | transferFailed _ _ _ _ _ _ transferred => exact transferred_core transferred
  | transferOver _ _ _ _ _ _ transferred _ => exact transferred_core transferred
  | transferOn i _ d' _ _ _ transferred _ =>
    rcases resumed_core d' .dataTransfer i with ⟨hconfigs,hstate⟩
    rw [hconfigs, hstate]
    exact transferred_core transferred

theorem Device.CoreKept.ticked {d d' : Device} (h : d.CoreKept) {elapsedMs : UInt32}
    {flushes : Bool} {ns : List Packet} (hticked : Ticked d elapsedMs flushes ns d') :
    d'.CoreKept := by
  have hcore : d'.deviceConfigs = d.deviceConfigs ∧ d'.deviceState = d.deviceState := by
    cases hticked with
    | waiting _ => exact ⟨rfl,rfl⟩
    | served event d₁ _ _ _ ready fired =>
      rcases Device.dequeue_ready_event_some ready with ⟨-,rfl⟩
      rcases fired_core fired with ⟨hconfigs,hstate⟩
      exact ⟨hconfigs,hstate⟩
  exact h.same (ticked_frame hticked).2.1 hcore.2 hcore.1

theorem Run.core_kept (scenario : Scenario) (ops : List Op) :
    (reached defaultProfile scenario ops).engine.device.CoreKept := by
  refine Runs.invariant_of_all_steps (I := fun r : Run => r.engine.device.CoreKept)
    (fun r op hr => ?_) _ ops (.defaults rfl rfl rfl rfl)
  refine r.step_handled (fun _ p hd => hd.withPending p)
    (fun _ _ _ _ _ hd hticked => hd.ticked hticked) op ?_
  cases op with
  | dequeue => exact hr
  | tick elapsedMs => exact hr
  | submit request => exact hr.handled request

end UciSim
