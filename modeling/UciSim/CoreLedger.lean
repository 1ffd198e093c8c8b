import UciSim.CoreConfigs
import UciSim.Queries

/-!
# What the core group remembers

The core parameters and the timestamp counter are told by a ledger of the core commands
alone: the values granted since the last accepted reset, and how often the timestamp was
read. Sessions, measurements, transfers, ticks and full queues do not touch them.
-/

set_option autoImplicit false

namespace UciSim

open Exchange

/-- The granted values, the defaults first, and the number of timestamps read. -/
structure CoreLedger where
  log : List ConfigEntry
  stamps : ℕ
  deriving DecidableEq, Repr

/-- The entries of a core set request that the shipped profile grants. -/
def Packet.grantedCore (request : Packet) : List ConfigEntry :=
  if request.mt = mtCommand ∧ request.gid = gidCore ∧ request.oid = coreSetConfig then
    request.carriedCore.filter (fun entry => defaultProfile.GrantsCore entry)
  else []

/-- A timestamp request, which counts the timestamp up. -/
def Packet.Stamps (request : Packet) : Prop :=
  request.mt = mtCommand ∧ request.gid = gidCore ∧ request.oid = coreQueryUwbsTimestamp ∧
    request.payload = []

instance (request : Packet) : Decidable request.Stamps :=
  inferInstanceAs (Decidable (_ ∧ _ ∧ _ ∧ _))

namespace CoreLedger

def initial : CoreLedger where
  log := [(deviceConfigDeviceState,[defaultProfile.defaultDeviceState]),
    (deviceConfigLowPowerMode,[defaultProfile.defaultLowPowerMode]),
    (deviceConfigDevicePanId,
      [defaultProfile.defaultDevicePanId.1,defaultProfile.defaultDevicePanId.2])]
  stamps := 0

def grant (ledger : CoreLedger) (entries : List ConfigEntry) : CoreLedger :=
  { ledger with log := ledger.log ++ entries }

def told (ledger : CoreLedger) : Op → CoreLedger
  | .submit request =>
    if request.Resets then initial
    else ⟨ledger.log ++ request.grantedCore,
      if request.Stamps then ledger.stamps+1 else ledger.stamps⟩
  | _ => ledger

/-- The ledger of the calls. -/
def kept (ops : List Op) : CoreLedger := Runs.run told initial ops

/-- The value granted last. -/
def value (ledger : CoreLedger) (configId : UInt8) : Option (List UInt8) :=
  Table.last configId ledger.log

/-- The timestamp that the next request reads. -/
def timestamp (ledger : CoreLedger) : UInt64 :=
  defaultProfile.initialUwbsTimestamp+
    UInt64.ofNat ledger.stamps*defaultProfile.uwbsTimestampIncrement

end CoreLedger

namespace Device

/-- The device holds what the ledger says. -/
structure Holds (d : Device) (ledger : CoreLedger) : Prop where
  core : d.CoreKept
  values : Table.Mirrors ledger.log d.deviceConfigs
  timestamp : d.nextUwbsTimestamp = ledger.timestamp
  state : ledger.value deviceConfigDeviceState = some [defaultProfile.defaultDeviceState]

namespace Holds

variable {d d' : Device} {ledger : CoreLedger}

theorem same (h : d.Holds ledger) (hp : d'.profile = d.profile)
    (hs : d'.deviceState = d.deviceState) (hc : d'.deviceConfigs = d.deviceConfigs)
    (ht : d'.nextUwbsTimestamp = d.nextUwbsTimestamp) : d'.Holds ledger where
  core := h.core.same hp hs hc
  values := hc ▸ h.values
  timestamp := ht.trans h.timestamp
  state := h.state

theorem withPending (h : d.Holds ledger) (pending : List Packet) :
    (d.withPending pending).Holds ledger :=
  h.same rfl rfl rfl rfl

/-- A granted entry is stored, and the ledger grows by it. -/
theorem granted (h : d.Holds ledger) {entry : ConfigEntry}
    (hgrants : defaultProfile.GrantsCore entry) :
    ∃ next, d.storeConfig entry.1 entry.2 = some next ∧ next.Holds (ledger.grant [entry]) := by
  obtain ⟨next,hstore,hcore⟩ := (h.core.stores entry hgrants.1).1 hgrants
  have hstored := hstore
  rw [storeConfig, if_neg (Nat.not_lt_of_le hgrants.2.2), if_neg hgrants.2.1] at hstored
  obtain ⟨configs,hconfigs,hnext⟩ := Option.map_eq_some_iff.mp hstored
  subst hnext
  refine ⟨_,hstore,hcore,Table.mirrors_store h.values hconfigs,h.timestamp,?_⟩
  rw [CoreLedger.value, CoreLedger.grant, Table.last_append, if_neg hgrants.2.1]
  exact h.state

/-- The loop over the entries of a request. A refused entry leaves the device and the ledger
as they are; an incomplete one ends the loop on both sides. -/
theorem loop (h : d.Holds ledger) (count : ℕ) (rest items : List UInt8) (anyFailed : Bool)
    (hroom : 2+items.length+2*count ≤ maxPayload) :
    (coreSetConfigs count rest d items anyFailed).1.Holds (ledger.grant
      ((carriedEntries count rest).filter fun entry => defaultProfile.GrantsCore entry)) := by
  induction count generalizing rest d items anyFailed ledger with
  | zero =>
    rw [carriedEntries, List.filter_nil, CoreLedger.grant, List.append_nil]
    · exact h
    · simp
  | succ count ih =>
    obtain _ | ⟨configId,_ | ⟨valueLen,rest⟩⟩ := rest
    · simpa [coreSetConfigs, carriedEntries, CoreLedger.grant] using h
    · simpa [coreSetConfigs, carriedEntries, CoreLedger.grant] using h
    by_cases hcut : rest.length < valueLen.toNat
    · rw [coreSetConfigs, if_pos (Or.inl hcut), carriedEntries, if_pos hcut, List.filter_nil,
        CoreLedger.grant, List.append_nil]
      exact h
    have hfits : ¬ (rest.length < valueLen.toNat ∨ 2+items.length+2 > maxPayload) := by omega
    have hnext : ∀ status : UInt8, 2+(items ++ [configId,status]).length+2*count ≤
        maxPayload := by
      intro status
      simp only [List.length_append, List.length_cons, List.length_nil]
      omega
    rw [carriedEntries, if_neg hcut]
    by_cases hgrants : defaultProfile.GrantsCore (configId,rest.take valueLen.toNat)
    · obtain ⟨next,hstore,hnextHolds⟩ := h.granted hgrants
      have hloop := ih hnextHolds (rest.drop valueLen.toNat) (items ++ [configId,statusOk])
        anyFailed (hnext statusOk)
      rw [coreSetConfigs, if_neg hfits, if_neg hgrants.2.1, h.core.profile,
        if_neg (by simp [hgrants.1]), hstore, List.filter_cons_of_pos (by simpa using hgrants)]
      rw [CoreLedger.grant, CoreLedger.grant, List.append_assoc] at hloop
      exact hloop
    · rw [List.filter_cons_of_neg (by simpa using hgrants)]
      by_cases hstate : configId = deviceConfigDeviceState
      · rw [coreSetConfigs, if_neg hfits, if_pos hstate]
        exact ih h _ _ _ (hnext statusInvalidParam)
      by_cases hsupported : defaultProfile.supportsCoreConfig configId = true
      · rw [coreSetConfigs, if_neg hfits, if_neg hstate, h.core.profile,
          if_neg (by simp [hsupported]), (h.core.stores (configId,_) hsupported).2 hgrants]
        exact ih h _ _ _ (hnext statusFailed)
      · rw [coreSetConfigs, if_neg hfits, if_neg hstate, h.core.profile,
          if_pos (by simp [hsupported])]
        exact ih h _ _ _ (hnext statusInvalidParam)

theorem defaults (hp : d.profile = defaultProfile) :
    d.resetRuntimeState.Holds CoreLedger.initial := by
  refine ⟨.defaults hp rfl rfl rfl,?_,?_,rfl⟩
  · rw [show d.resetRuntimeState.deviceConfigs = CoreLedger.initial.log by
      rw [resetRuntimeState, hp]; rfl]
    exact Table.mirrors_self (by decide)
  · rw [show d.resetRuntimeState.nextUwbsTimestamp = d.profile.initialUwbsTimestamp from rfl, hp]
    rfl

end Holds

end Device

section

variable {d : Device} {ledger : CoreLedger} {request : Packet}

theorem Packet.not_resets (h : request.oid ≠ coreDeviceReset) : ¬ request.Resets :=
  fun hr => h hr.2.2.1

theorem Packet.granted_none (h : request.oid ≠ coreSetConfig) : request.grantedCore = [] :=
  if_neg fun hs => h hs.2.2

theorem Packet.not_stamps (h : request.oid ≠ coreQueryUwbsTimestamp) : ¬ request.Stamps :=
  fun hs => h hs.2.2.1

theorem CoreLedger.told_same (ledger : CoreLedger) (hreset : ¬ request.Resets)
    (hset : request.grantedCore = []) (hstamps : ¬ request.Stamps) :
    ledger.told (.submit request) = ledger := by
  rw [told, if_neg hreset, if_neg hstamps, hset, List.append_nil]

theorem CoreLedger.told_ignored (ledger : CoreLedger)
    (h : ¬ (request.mt = mtCommand ∧ request.gid = gidCore ∧
      request.oid ∈ [coreDeviceReset,coreSetConfig,coreQueryUwbsTimestamp])) :
    ledger.told (.submit request) = ledger :=
  ledger.told_same (fun hr => h ⟨hr.1,hr.2.1,by rw [hr.2.2.1]; decide⟩)
    (if_neg fun hs => h ⟨hs.1,hs.2.1,by rw [hs.2.2]; decide⟩)
    (fun hs => h ⟨hs.1,hs.2.1,by rw [hs.2.2.1]; decide⟩)

theorem device_reset_holds (h : d.Holds ledger) (hmt : request.mt = mtCommand)
    (hgid : request.gid = gidCore) (hoid : request.oid = coreDeviceReset) :
    ((start d).handleDeviceReset request).2.device.Holds (ledger.told (.submit request)) := by
  have hstays : ¬ request.Resets → ledger.told (.submit request) = ledger := fun hreset =>
    ledger.told_same hreset (Packet.granted_none (by rw [hoid]; decide))
      (Packet.not_stamps (by rw [hoid]; decide))
  unfold handleDeviceReset
  by_cases hlen : request.payload.length ≠ 1
  · rw [if_pos hlen, hstays fun hr => hlen (by rw [hr.2.2.2]; rfl)]
    exact h
  by_cases hvalue : byteAt request.payload 0 ≠ coreDeviceResetConfigValid
  · rw [if_neg hlen, if_pos hvalue, hstays fun hr => hvalue (by rw [hr.2.2.2]; rfl)]
    exact h
  obtain ⟨b,hb⟩ := List.length_eq_one_iff.mp (not_not.mp hlen)
  have hresets : request.Resets := by
    refine ⟨hmt,hgid,hoid,?_⟩
    rw [hb]
    simpa [byteAt, hb] using hvalue
  rw [if_neg hlen, if_neg hvalue, CoreLedger.told, if_pos hresets]
  dsimp only
  obtain ⟨pending,hpending⟩ := emit_device
    (({ start d with device := d.resetRuntimeState }).makeStatusResponse request statusOk)
    (deviceStatusNotification d.resetRuntimeState.deviceState)
  rw [show (start d).device = d from rfl]
  exact hpending ▸ (Device.Holds.defaults h.core.profile).withPending pending

theorem core_set_config_holds (h : d.Holds ledger) (hmt : request.mt = mtCommand)
    (hgid : request.gid = gidCore) (hoid : request.oid = coreSetConfig) :
    ((start d).handleCoreSetConfig request).2.device.Holds (ledger.told (.submit request)) := by
  rw [CoreLedger.told, if_neg (Packet.not_resets (by rw [hoid]; decide)),
    if_neg (Packet.not_stamps (by rw [hoid]; decide)), Packet.grantedCore,
    if_pos ⟨hmt,hgid,hoid⟩]
  unfold handleCoreSetConfig Packet.carriedCore Packet.declaredCore
  cases request.payload with
  | nil =>
    rw [show carriedEntries (byteAt [] 0).toNat (List.drop 1 []) = [] from rfl, List.filter_nil,
      List.append_nil]
    exact h
  | cons count rest =>
    have hsmall : count.toNat < 256 := UInt8.toNat_lt count
    exact h.loop count.toNat rest [] false (by
      rw [List.length_nil]
      simp only [maxPayload]
      omega)

theorem query_uwbs_timestamp_holds (h : d.Holds ledger) (hmt : request.mt = mtCommand)
    (hgid : request.gid = gidCore) (hoid : request.oid = coreQueryUwbsTimestamp) :
    ((start d).handleQueryUwbsTimestamp request).2.device.Holds
      (ledger.told (.submit request)) := by
  rw [CoreLedger.told, if_neg (Packet.not_resets (by rw [hoid]; decide)),
    Packet.granted_none (by rw [hoid]; decide), List.append_nil]
  unfold handleQueryUwbsTimestamp
  by_cases hempty : request.payload = []
  · have hstamps : request.Stamps := ⟨hmt,hgid,hoid,hempty⟩
    rw [if_neg (by simp [hempty]), if_pos hstamps]
    refine ⟨h.core.same rfl rfl rfl,h.values,?_,h.state⟩
    show d.nextUwbsTimestamp+d.profile.uwbsTimestampIncrement =
      CoreLedger.timestamp ⟨ledger.log,ledger.stamps+1⟩
    rw [h.timestamp, h.core.profile, CoreLedger.timestamp, CoreLedger.timestamp]
    dsimp only
    rw [UInt64.ofNat_add, UInt64.add_mul, show UInt64.ofNat 1 = 1 from rfl, UInt64.one_mul,
      UInt64.add_assoc]
  · rw [if_pos (by simpa using hempty), if_neg fun hs : request.Stamps => hempty hs.2.2.2]
    exact h

theorem core_holds (h : d.Holds ledger) (hmt : request.mt = mtCommand)
    (hgid : request.gid = gidCore) :
    ((start d).handleCore request).2.device.Holds (ledger.told (.submit request)) := by
  by_cases hwrites : request.oid ∈ [coreDeviceReset,coreSetConfig,coreQueryUwbsTimestamp]
  swap
  · obtain ⟨rc,gid,oid,payload,houtcome⟩ := core_only (d := d) hwrites
    rw [houtcome, ledger.told_ignored fun hr => hwrites hr.2.2]
    exact h
  have hwriting : ∀ oid ∈ [coreDeviceReset,coreSetConfig,coreQueryUwbsTimestamp],
      defaultProfile.supportsCommand gidCore oid = true := by decide +kernel
  have hs : (start d).device.profile.supportsCommand request.gid request.oid = true := by
    rw [show (start d).device.profile = defaultProfile from h.core.profile, hgid]
    exact hwriting _ hwrites
  obtain hoid | hoid | hoid : request.oid = coreDeviceReset ∨ request.oid = coreSetConfig ∨
      request.oid = coreQueryUwbsTimestamp := by simpa using hwrites
  · rw [handle_core_of (.deviceReset hoid) hs]
    exact device_reset_holds h hmt hgid hoid
  · rw [handle_core_of (.setConfig hoid) hs]
    exact core_set_config_holds h hmt hgid hoid
  · rw [handle_core_of (.queryTimestamp hoid) hs]
    exact query_uwbs_timestamp_holds h hmt hgid hoid

theorem Device.Holds.handled (h : d.Holds ledger) (request : Packet) :
    (d.handlePacket request).2.device.Holds (ledger.told (.submit request)) := by
  by_cases hcore : request.mt = mtCommand ∧ request.gid = gidCore
  · obtain ⟨pending,hdevice⟩ := handle_command_device d request hcore.1
    rw [hdevice, dispatch_core hcore.2]
    exact (core_holds h hcore.1 hcore.2).withPending pending
  rw [ledger.told_ignored fun hr => hcore ⟨hr.1,hr.2.1⟩]
  by_cases hsession : request.ForSession
  · have hisolated := session_packets_isolated d request hsession
    exact h.same hisolated.profile hisolated.state hisolated.configs hisolated.timestamp
  obtain ⟨hdata,hothers⟩ := not_or.mp hsession
  by_cases hmt : request.mt = mtCommand
  · have hreads : ReadOnly request.gid request.oid :=
      ⟨fun hgid => absurd ⟨hmt,hgid⟩ hcore,fun hgid => absurd ⟨hmt,Or.inl hgid⟩ hothers,
        fun hgid => absurd ⟨hmt,Or.inr hgid⟩ hothers⟩
    obtain ⟨pending,hdevice⟩ := handle_command_device d request hmt
    obtain ⟨rc,gid,oid,payload,houtcome⟩ := query_dispatched (d := d) hreads
    rw [hdevice, houtcome]
    exact h.withPending pending
  · rw [handle_packet_other d request hdata hmt]
    exact h

end

theorem ranged_stamp {d d' : Device} {i : Fin maxSessions} {rc : Rc} {ns : List Packet}
    (h : Ranged d i rc ns d') : d'.nextUwbsTimestamp = d.nextUwbsTimestamp := by
  have hsampled : ∀ {ns d'}, Sampled d ns d' → d'.nextUwbsTimestamp = d.nextUwbsTimestamp := by
    intro ns d' h
    cases h <;> rfl
  cases h with
  | blocked _ _ _ _ sampled => exact hsampled sampled
  | measured _ _ _ _ _ sampled =>
    have hstamp := hsampled sampled
    exact hstamp
  | finished _ _ _ _ _ _ sampled =>
    have hstamp := hsampled sampled
    exact hstamp
  | _ => rfl

theorem transferred_stamp {d d' : Device} {i : Fin maxSessions} {rc : Rc} {ns : List Packet}
    (h : Transferred d i rc ns d') : d'.nextUwbsTimestamp = d.nextUwbsTimestamp := by
  cases h <;> rfl

theorem resumed_stamp (d : Device) (type : EventType) (i : Fin maxSessions) :
    (d.resumed type i).nextUwbsTimestamp = d.nextUwbsTimestamp := by
  obtain ⟨events,hresumed⟩ := resumed_eq d type i
  rw [hresumed]
  rfl

theorem fired_stamp {d d' : Device} {event : ScheduledEvent} {flushes : Bool} {ns : List Packet}
    (h : Fired d event flushes ns d') : d'.nextUwbsTimestamp = d.nextUwbsTimestamp := by
  cases h with
  | unmatched _ => rfl
  | transferIdle _ _ _ _ => rfl
  | rangingFailed _ _ _ _ _ ranged => exact ranged_stamp ranged
  | rangingOver _ _ _ _ _ ranged _ => exact ranged_stamp ranged
  | rangingOn i _ d' _ _ ranged _ =>
    exact (resumed_stamp d' .rangeData i).trans (ranged_stamp ranged)
  | transferFailed _ _ _ _ _ _ transferred => exact transferred_stamp transferred
  | transferOver _ _ _ _ _ _ transferred _ => exact transferred_stamp transferred
  | transferOn i _ d' _ _ _ transferred _ =>
    exact (resumed_stamp d' .dataTransfer i).trans (transferred_stamp transferred)

theorem Device.Holds.ticked {d d' : Device} {ledger : CoreLedger} (h : d.Holds ledger)
    {elapsedMs : UInt32} {flushes : Bool} {ns : List Packet}
    (hticked : Ticked d elapsedMs flushes ns d') : d'.Holds ledger := by
  have hprofile := (ticked_frame hticked).2.1
  cases hticked with
  | waiting _ => exact h.same rfl rfl rfl rfl
  | served event d₁ _ _ _ ready fired =>
    obtain ⟨-,rfl⟩ := Device.dequeue_ready_event_some ready
    obtain ⟨hconfigs,hstate⟩ := fired_core fired
    have hstamp := fired_stamp fired
    exact h.same hprofile hstate hconfigs hstamp

theorem Run.core_holds (scenario : Scenario) (ops : List Op) :
    (reached defaultProfile scenario ops).engine.device.Holds (CoreLedger.kept ops) := by
  refine Runs.related_of_all_steps (R := fun (r : Run) ledger => r.engine.device.Holds ledger)
    (fun r ledger op hr => ?_) _ _ ops ?_
  · refine r.step_handled (P := fun d => d.Holds (ledger.told op))
      (fun _ p hd => hd.withPending p) (fun _ _ _ _ _ hd hticked => hd.ticked hticked) op ?_
    cases op with
    | dequeue | tick => exact hr
    | submit request => exact hr.handled request
  · exact ⟨.defaults rfl rfl rfl rfl,Table.mirrors_self (by decide),rfl,rfl⟩

end UciSim
