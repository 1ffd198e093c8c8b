import UciSim.Calibrations
import UciSim.GetReplies
import UciSim.ListMoves
import UciSim.Listings

/-!
# Accepted commands

Whether a command succeeds is decided by the request and the device it meets.
Each group has its conditions, and a core handler returns the code of success
exactly when its condition holds.
-/

set_option autoImplicit false

namespace UciSim

open Exchange

/-- Every entry is complete and can be stored behind those before it. -/
def Device.grantsEntries : ℕ → List UInt8 → Device → Bool
  | remaining+1, configId::valueLen::rest, device =>
    decide (valueLen.toNat ≤ rest.length ∧ configId ≠ deviceConfigDeviceState ∧
        device.profile.supportsCoreConfig configId = true) &&
      (device.storeConfig configId (rest.take valueLen.toNat)).any fun device =>
        grantsEntries remaining (rest.drop valueLen.toNat) device
  | 0, _, _ => true
  | _+1, _, _ => false

/-- Every entry is complete and changes the list that those before it leave; `done` of them
have their items in the reply. -/
def Session.updatesEntries (action : UInt8) : ℕ → ℕ → List UInt8 → Session → Bool
  | 0, _, _, _ => true
  | remaining+1, done, rest, session =>
    decide (6 ≤ rest.length ∧ 2+7*done+7 ≤ maxPayload) &&
      (multicastKey action (rest.drop 6)).any fun entry =>
        let changed :=
          if action = multicastActionRemove then
            session.removeMulticastEntry (readU16Le rest 0) (readU32Le rest 2)
          else session.addMulticastEntry (readU16Le rest 0) (readU32Le rest 2) entry.1
        changed.1 == statusOk && updatesEntries action remaining (done+1) entry.2 changed.2

theorem surface_iff (outcome : Check) (surface : UInt8) :
    (outcome.tryCatch fun invalid =>
        if invalid.surface = surface then .ok () else .error invalid).isOk = true ↔
      ∀ invalid, outcome = .error invalid → invalid.surface = surface := by
  cases outcome with
  | ok a => exact iff_of_true rfl fun invalid h => by cases h
  | error invalid =>
    by_cases hsurface : invalid.surface = surface
    · refine iff_of_true ?_ fun other h => by cases h; exact hsurface
      show (if invalid.surface = surface then Except.ok () else Except.error invalid).isOk = true
      rw [if_pos hsurface]
      rfl
    · refine iff_of_false ?_ fun h => hsurface (h invalid rfl)
      show ¬ (if invalid.surface = surface then Except.ok () else Except.error invalid).isOk = true
      rw [if_neg hsurface]
      exact Bool.false_ne_true

instance (outcome : Check) (surface : UInt8) :
    Decidable (∀ invalid, outcome = .error invalid → invalid.surface = surface) :=
  decidable_of_iff _ (surface_iff outcome surface)

theorem lists_some_keys (request : Packet) : (∃ keys, request.ListsKeys keys) ↔
    ¬ request.payload.length < 2 ∧ ∃ outcome ∈ Format.counted.readMany
      (readU16Le request.payload 0).toNat (request.payload.drop 2), outcome.2 = [] := by
  simp only [lists_keys_iff]
  constructor
  · rintro ⟨keys,hlong,hread⟩
    exact ⟨hlong,(keys,[]),hread,rfl⟩
  · rintro ⟨hlong,⟨keys,rest⟩,hread,hrest⟩
    cases hrest
    exact ⟨keys,hlong,hread⟩

instance (request : Packet) : Decidable (∃ keys, request.ListsKeys keys) :=
  decidable_of_iff _ (lists_some_keys request).symm

namespace Device

/-- Some session has the identifier the request names, and it meets the condition. -/
def Targets (d : Device) (request : Packet) (condition : Fin maxSessions → Prop) : Prop :=
  ∃ i, d.findSession (readU32Le request.payload 0) = some i ∧ condition i

instance (d : Device) (request : Packet) (condition : Fin maxSessions → Prop)
    [∀ i, Decidable (condition i)] : Decidable (d.Targets request condition) :=
  inferInstanceAs (Decidable (∃ _, _ ∧ _))

/-- The identifiers the request both declares and carries can be answered. -/
def AnswersIds (d : Device) (request : Packet) : Prop :=
  Answerable (d.requestedConfig request) 2 (request.carriedIds.take request.declaredIds)

instance (d : Device) (request : Packet) : Decidable (d.AnswersIds request) :=
  inferInstanceAs (Decidable (Answerable _ _ _))

def AcceptsCore (d : Device) (request : Packet) : Prop :=
  if request.oid = coreDeviceReset then request.payload = [coreDeviceResetConfigValid]
  else if request.oid = coreDeviceInfo then True
  else if request.oid = coreGetCapsInfo then d.profile.coreCapsPayload.length ≠ 0
  else if request.oid = coreSetConfig then request.payload ≠ [] ∧
    d.grantsEntries (byteAt request.payload 0).toNat (request.payload.drop 1) = true
  else if request.oid = coreGetConfig then request.payload ≠ [] ∧ d.AnswersIds request ∧
    request.carriedIds.take request.declaredIds ≠ []
  else if request.oid = coreQueryUwbsTimestamp then request.payload = []
  else False

instance (d : Device) (request : Packet) : Decidable (d.AcceptsCore request) :=
  inferInstanceAs (Decidable (@ite _ _ _ _ _))

def AcceptsConfig (d : Device) (request : Packet) : Prop :=
  if request.oid = sessionInit then 5 ≤ request.payload.length ∧
    byteAt request.payload 4 = sessionTypeRanging ∧
    (d.findSession (readU32Le request.payload 0) = none → d.freeSession ≠ none)
  else if request.oid = sessionDeinit then 4 ≤ request.payload.length ∧
    d.Targets request fun _ => True
  else if request.oid = sessionSetAppConfig then 5 ≤ request.payload.length ∧
    d.Targets request fun i => (request.setEnd d i).status = statusOk
  else if request.oid = sessionGetAppConfig then 5 ≤ request.payload.length ∧
    d.Targets request fun i => if byteAt request.payload 4 = 0 then
      listingSize ((d.sessions i).listing d.profile) ≤ maxPayload else d.AnswersIds request
  else if request.oid = sessionGetCount then True
  else if request.oid = sessionQueryDataSizeInRanging ∨ request.oid = sessionGetState then
    4 ≤ request.payload.length ∧ d.Targets request fun _ => True
  else if request.oid = sessionUpdateControllerMulticastList then
    6 ≤ request.payload.length ∧ d.Targets request fun i =>
      supportsMulticastAction (byteAt request.payload 5) = true ∧
      (d.sessions i).updatesEntries (byteAt request.payload 5)
        (byteAt request.payload 4).toNat 0 (request.payload.drop 6) = true
  else if request.oid = sessionUpdateDtAnchorRangingRounds ∨
      request.oid = sessionUpdateDtTagRangingRounds then
    5+(byteAt request.payload 4).toNat ≤ request.payload.length ∧
    (byteAt request.payload 4).toNat ≤ maxDtRounds ∧ d.Targets request fun _ => True
  else if request.oid = sessionDataTransferPhaseConfig then 7 ≤ request.payload.length ∧
    (byteAt request.payload 6).toNat ≤ 64 ∧
    UInt8.ofNat (request.payload.length-7) = byteAt request.payload 6 ∧
    d.Targets request fun _ => True
  else False

instance (d : Device) (request : Packet) : Decidable (d.AcceptsConfig request) :=
  inferInstanceAs (Decidable (@ite _ _ _ _ _))

/-- The transition is listed for the session's state; a start also passes the validation, or
fails it in a way that a session status reports. -/
def AcceptsTransition (d : Device) (request : Packet) (i : Fin maxSessions) : Prop :=
  ∃ transition ∈ d.profile.getSessionTransition request.oid,
    transition.allows (d.sessions i).state = true ∧
    (request.oid = sessionStart →
      ∀ invalid, validateSessionStart d.profile (d.sessions i) = .error invalid →
        invalid.surface = invalidConfigSurfaceSessionStatus)

instance (d : Device) (request : Packet) (i : Fin maxSessions) :
    Decidable (d.AcceptsTransition request i) :=
  inferInstanceAs (Decidable (∃ _ ∈ d.profile.getSessionTransition request.oid, _))

def AcceptsControl (d : Device) (request : Packet) (i : Fin maxSessions) : Prop :=
  if request.oid = sessionGetRangingCount then True
  else if request.oid = sessionLogicalLinkCreate then 5 ≤ request.payload.length ∧
    (request.linkId ≠ 0xFF → (d.sessions i).findLogicalLink request.linkId = none) ∧
    (d.sessions i).logicalLinks.length < maxLogicalLinks ∧
    (d.sessions i).allocateLogicalLink request.linkId request.linkMode request.linkCredit ≠ none
  else if request.oid = sessionLogicalLinkClose ∨ request.oid = sessionLogicalLinkGetParam then
    5 ≤ request.payload.length ∧ (d.sessions i).findLogicalLink request.linkId ≠ none
  else d.AcceptsTransition request i

instance (d : Device) (request : Packet) (i : Fin maxSessions) :
    Decidable (d.AcceptsControl request i) := inferInstanceAs (Decidable (@ite _ _ _ _ _))

def Accepts (d : Device) (request : Packet) : Prop :=
  if request.gid = gidCore then
    d.profile.supportsCommand request.gid request.oid = true ∧ d.AcceptsCore request
  else if request.gid = gidSessionConfig then
    d.profile.supportsCommand request.gid request.oid = true ∧ d.AcceptsConfig request
  else if request.gid = gidSessionControl then
    d.profile.supportsCommand request.gid request.oid = true ∧ 4 ≤ request.payload.length ∧
      d.Targets request fun i => d.AcceptsControl request i
  else if request.gid = gidQorvoExt2 then request.oid = oidQorvoCoreGetDeviceStats
  else if request.gid = gidQorvoMac then
    request.oid = oidQorvoMacSetCalibrations ∨
      request.oid = oidQorvoMacGetCalibrations ∧ ∃ keys, request.ListsKeys keys
  else False

instance (d : Device) (request : Packet) : Decidable (d.Accepts request) :=
  inferInstanceAs (Decidable (@ite _ _ _ _ _))

end Device

theorem err_ne_ok : Rc.err ≠ .ok := by decide

theorem rc_of_ok (status : UInt8) : rcOf status = .ok ↔ status = statusOk := by
  unfold rcOf
  split <;> simp [*]

section

variable {d : Device} {request : Packet}

theorem core_set_configs_failed (count : ℕ) (rest : List UInt8) (d : Device)
    (items : List UInt8) : (coreSetConfigs count rest d items true).2.2 = true := by
  induction count generalizing rest d items with
  | zero => rfl
  | succ count ih =>
    cases rest with
    | nil => rfl
    | cons configId rest =>
      cases rest with
      | nil => rfl
      | cons valueLen rest =>
        unfold coreSetConfigs
        dsimp only
        split
        · rfl
        split
        · exact ih _ _ _
        split
        · exact ih _ _ _
        · split <;> exact ih _ _ _

/-- The pairs of `done` entries are in the reply, which has room for those to come. -/
theorem core_set_configs_granted (count : ℕ) (rest : List UInt8) (d : Device)
    (items : List UInt8) (done : ℕ) (hitems : items.length = 2*done)
    (hroom : 2+2*(done+count) ≤ maxPayload) :
    ((coreSetConfigs count rest d items false).2.2 = false ∧
        (coreSetConfigs count rest d items false).2.1.length/2 = done+count) ↔
      d.grantsEntries count rest = true := by
  induction count generalizing rest d items done with
  | zero =>
    have hdone : items.length/2 = done := by omega
    simp [coreSetConfigs, Device.grantsEntries, hdone]
  | succ count ih =>
    have hshort : items.length/2 ≠ done+(count+1) := by omega
    have hfailed : ∀ rest d items, ¬ ((coreSetConfigs count rest d items true).2.2 = false ∧
        (coreSetConfigs count rest d items true).2.1.length/2 = done+(count+1)) := by
      intro rest d items h
      rw [core_set_configs_failed] at h
      cases h.1
    cases rest with
    | nil => simp [coreSetConfigs, Device.grantsEntries, hshort]
    | cons configId rest =>
      cases rest with
      | nil => simp [coreSetConfigs, Device.grantsEntries, hshort]
      | cons valueLen rest =>
        unfold coreSetConfigs Device.grantsEntries
        dsimp only
        by_cases hcut : rest.length < valueLen.toNat
        · rw [if_pos (Or.inl hcut)]
          simp [hshort, Nat.not_le_of_lt hcut]
        rw [if_neg (by omega)]
        by_cases hstate : configId = deviceConfigDeviceState
        · rw [if_pos hstate]
          exact iff_of_false (hfailed _ _ _) (by simp [hstate])
        rw [if_neg hstate]
        by_cases hsupported : d.profile.supportsCoreConfig configId = true
        swap
        · rw [if_pos (by simpa using hsupported)]
          exact iff_of_false (hfailed _ _ _) (by simp [hsupported])
        rw [if_neg (by simp [hsupported]),
          decide_eq_true ⟨Nat.le_of_not_lt hcut,hstate,hsupported⟩, Bool.true_and]
        cases d.storeConfig configId (rest.take valueLen.toNat) with
        | none => exact iff_of_false (hfailed _ _ _) (by simp)
        | some d' =>
          have hnext := ih (rest.drop valueLen.toNat) d' (items ++ [configId,statusOk]) (done+1)
            (by simp only [List.length_append, List.length_cons, List.length_nil]; omega)
            (by omega)
          rw [show done+1+count = done+(count+1) by omega] at hnext
          exact hnext

theorem update_multicast_list_failed (action : UInt8) (count : ℕ) (rest : List UInt8)
    (session : Session) (items : List UInt8) (overall : UInt8) (h : overall ≠ statusOk) :
    (session.updateMulticastList action count rest items overall).1 ≠ statusOk := by
  have hinvalid : statusInvalidParam ≠ statusOk := by decide
  induction count generalizing rest session items with
  | zero => exact h
  | succ count ih =>
    unfold Session.updateMulticastList
    split
    · exact hinvalid
    dsimp only
    split
    · exact hinvalid
    · rename_i key tail _
      generalize (if action = multicastActionRemove then
        session.removeMulticastEntry (readU16Le rest 0) (readU32Le rest 2)
        else session.addMulticastEntry (readU16Le rest 0) (readU32Le rest 2) key) = changed
      rw [if_neg fun hok => h hok.2]
      exact ih _ _ _

theorem update_multicast_list_granted (action : UInt8) (count : ℕ) (rest : List UInt8)
    (session : Session) (items : List UInt8) (done : ℕ) (hitems : items.length = 7*done) :
    ((session.updateMulticastList action count rest items statusOk).1 = statusOk ↔
        session.updatesEntries action count done rest = true) ∧
      ((session.updateMulticastList action count rest items statusOk).1 = statusOk →
        (session.updateMulticastList action count rest items statusOk).2.1.length/7 =
          done+count) := by
  have hinvalid : statusInvalidParam ≠ statusOk := by decide
  have hfailed : statusFailed ≠ statusOk := by decide
  induction count generalizing rest session items done with
  | zero =>
    refine ⟨iff_of_true rfl rfl,fun _ => ?_⟩
    show items.length/7 = done
    omega
  | succ count ih =>
    unfold Session.updateMulticastList Session.updatesEntries
    rw [hitems]
    by_cases hcut : rest.length < 6 ∨ 2+7*done+7 > maxPayload
    · rw [if_pos hcut, decide_eq_false (by omega)]
      exact ⟨iff_of_false hinvalid Bool.false_ne_true,fun hok => absurd hok hinvalid⟩
    rw [if_neg hcut, decide_eq_true (by omega), Bool.true_and]
    dsimp only
    cases Session.multicastKey action (rest.drop 6) with
    | none => exact ⟨iff_of_false hinvalid Bool.false_ne_true,fun hok => absurd hok hinvalid⟩
    | some entry =>
      rw [Option.any_some]
      dsimp only
      generalize (if action = multicastActionRemove then
        session.removeMulticastEntry (readU16Le rest 0) (readU32Le rest 2)
        else session.addMulticastEntry (readU16Le rest 0) (readU32Le rest 2) entry.1) = changed
      by_cases hok : changed.1 = statusOk
      · rw [if_neg fun hne => hne.1 hok, hok]
        have hnext := ih entry.2 changed.2
          (items ++ writeU16Le (readU16Le rest 0) ++ writeU32Le (readU32Le rest 2) ++ [statusOk])
          (done+1) (by
            simp only [List.length_append, List.length_cons, List.length_nil, writeU16Le,
              writeU32Le]
            omega)
        rw [show done+1+count = done+(count+1) by omega] at hnext
        simpa using hnext
      · rw [if_pos ⟨hok,rfl⟩]
        have hnever := update_multicast_list_failed action count entry.2 changed.2
          (items ++ writeU16Le (readU16Le rest 0) ++ writeU32Le (readU32Le rest 2) ++ [changed.1])
          statusFailed hfailed
        exact ⟨iff_of_false hnever (by simp [hok]),fun h => absurd h hnever⟩

theorem device_reset_verdict : ((start d).handleDeviceReset request).1 = .ok ↔
    request.payload = [coreDeviceResetConfigValid] := by
  unfold handleDeviceReset
  split
  · rename_i hlen
    exact iff_of_false err_ne_ok fun h => hlen (by rw [h]; rfl)
  rename_i hlen
  split
  · rename_i hvalue
    exact iff_of_false err_ne_ok fun h => hvalue (by rw [h]; rfl)
  · rename_i hvalue
    rcases List.length_eq_one_iff.mp (not_not.mp hlen) with ⟨value,hpayload⟩
    rw [hpayload] at hvalue ⊢
    exact iff_of_true rfl (congrArg (fun value => [value]) (not_not.mp hvalue))

theorem core_set_config_verdict : ((start d).handleCoreSetConfig request).1 = .ok ↔
    request.payload ≠ [] ∧
      d.grantsEntries (byteAt request.payload 0).toNat (request.payload.drop 1) = true := by
  unfold handleCoreSetConfig
  cases request.payload with
  | nil => exact iff_of_false err_ne_ok fun h => h.1 rfl
  | cons count rest =>
    have hsmall : count.toNat < 256 := UInt8.toNat_lt count
    have hgranted := core_set_configs_granted count.toNat rest d [] 0 rfl
      (by simp only [maxPayload]; omega)
    rw [Nat.zero_add] at hgranted
    rw [show byteAt (count::rest) 0 = count from rfl, show (count::rest).drop 1 = rest from rfl,
      ← hgranted]
    dsimp only
    rw [rc_of_ok, show (start d).device = d from rfl]
    generalize coreSetConfigs count.toNat rest d [] false = outcome
    rcases outcome with ⟨d',items,failed⟩
    have hinvalid : statusInvalidParam ≠ statusOk := by decide
    cases failed <;> by_cases hcount : items.length/2 = count.toNat <;> simp [hcount, hinvalid]

theorem collected_verdict (lookup : UInt8 → Option (List UInt8)) (count : ℕ) (ids : List UInt8) :
    (collectConfigs lookup count ids [] 0).1 = statusOk ↔
      Answerable lookup 2 (ids.take count) := by
  have houtcome := collect_configs_outcome lookup count ids [] 0 (by decide)
  constructor
  · intro hok
    by_contra hanswers
    exact absurd ((houtcome.2 hanswers).1.symm.trans hok) (by decide)
  · exact fun hanswers => (houtcome.1 hanswers).1

theorem core_get_config_verdict (hgid : request.gid = gidCore) :
    ((start d).handleCoreGetConfig request).1 = .ok ↔ request.payload ≠ [] ∧
      d.AnswersIds request ∧ request.carriedIds.take request.declaredIds ≠ [] := by
  unfold handleCoreGetConfig Device.AnswersIds Packet.carriedIds Packet.declaredIds
  have hlookup : d.requestedConfig request = fun configId =>
      if d.profile.supportsCoreConfig configId then d.getConfig configId else none := by
    funext configId
    rw [Device.requestedConfig, if_pos hgid]
  rw [if_pos hgid, if_pos hgid, hlookup]
  cases request.payload with
  | nil => exact iff_of_false err_ne_ok fun h => h.1 rfl
  | cons count rest =>
    rw [show byteAt (count::rest) 0 = count from rfl, show (count::rest).drop 1 = rest from rfl]
    dsimp only
    rw [show (start d).device = d from rfl]
    have hverdict := collected_verdict (fun configId =>
      if d.profile.supportsCoreConfig configId then d.getConfig configId else none)
      count.toNat rest
    have houtcome := collect_configs_outcome (fun configId =>
      if d.profile.supportsCoreConfig configId then d.getConfig configId else none)
      count.toNat rest [] 0 (by decide)
    generalize collectConfigs _ count.toNat rest [] 0 = outcome at hverdict houtcome ⊢
    rw [rc_of_ok, ← hverdict]
    have hinvalid : statusInvalidParam ≠ statusOk := by decide
    by_cases hanswers : outcome.1 = statusOk
    · have hcount := (houtcome.1 (hverdict.mp hanswers)).2
      rw [Nat.zero_add] at hcount
      by_cases hnone : rest.take count.toNat = []
      · rw [hnone, List.length_nil] at hcount
        rw [if_pos hcount]
        exact iff_of_false hinvalid fun h => h.2.2 hnone
      · rw [if_neg (by rw [hcount]; exact fun h => hnone (List.length_eq_zero_iff.mp h))]
        exact iff_of_true hanswers ⟨List.cons_ne_nil _ _,hanswers,hnone⟩
    · refine iff_of_false ?_ fun h => hanswers h.2.1
      split
      · exact hinvalid
      · exact hanswers

theorem query_timestamp_verdict : ((start d).handleQueryUwbsTimestamp request).1 = .ok ↔
    request.payload = [] := by
  unfold handleQueryUwbsTimestamp
  split
  · rename_i hlen
    exact iff_of_false err_ne_ok fun h => hlen (by rw [h]; rfl)
  · rename_i hlen
    exact iff_of_true rfl (List.length_eq_zero_iff.mp (not_not.mp hlen))

theorem core_accepted_listed (h : d.AcceptsCore request) :
    ∃ handler, CoreCommand request.oid handler := by
  unfold Device.AcceptsCore at h
  split at h
  · exact ⟨_,.deviceReset ‹_›⟩
  split at h
  · exact ⟨_,.deviceInfo ‹_›⟩
  split at h
  · exact ⟨_,.getCaps ‹_›⟩
  split at h
  · exact ⟨_,.setConfig ‹_›⟩
  split at h
  · exact ⟨_,.getConfig ‹_›⟩
  split at h
  · exact ⟨_,.queryTimestamp ‹_›⟩
  · exact h.elim

theorem core_verdict (hgid : request.gid = gidCore) : ((start d).handleCore request).1 = .ok ↔
    d.profile.supportsCommand request.gid request.oid = true ∧ d.AcceptsCore request := by
  cases core_dispatch d.profile request with
  | refused unlisted fails =>
    rw [fails (start d) rfl]
    refine iff_of_false err_ne_ok fun ⟨hs,haccepts⟩ => ?_
    rcases core_accepted_listed haccepts with ⟨handler,hlisted⟩
    exact absurd hs (by rw [unlisted handler hlisted]; decide)
  | handled handler listed supported runs =>
    rw [runs (start d) rfl, and_iff_right supported]
    unfold Device.AcceptsCore
    cases listed with
    | deviceReset opcode =>
      rw [opcode]
      exact device_reset_verdict
    | deviceInfo opcode =>
      rw [opcode]
      exact iff_of_true rfl trivial
    | getCaps opcode =>
      rw [opcode]
      show (if d.profile.coreCapsPayload.length = 0 then (start d).fail request statusFailed
        else (Rc.ok,_)).1 = .ok ↔ d.profile.coreCapsPayload.length ≠ 0
      split
      · exact iff_of_false err_ne_ok (not_not.mpr ‹_›)
      · exact iff_of_true rfl ‹_›
    | setConfig opcode =>
      rw [opcode]
      exact core_set_config_verdict
    | getConfig opcode =>
      rw [opcode]
      exact core_get_config_verdict hgid
    | queryTimestamp opcode =>
      rw [opcode]
      exact query_timestamp_verdict

end

end UciSim
