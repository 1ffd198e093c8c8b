import UciSim.CommandReplies
import UciSim.ConfigRoundTrip

/-!
# The count of a get reply

Both get commands answer identifiers in order until one is refused. Their loops
also end where the payload does, and then report success for the identifiers
that were there.
-/

set_option autoImplicit false

namespace UciSim

open Exchange

def Packet.declaredIds (request : Packet) : ℕ :=
  (byteAt request.payload (if request.gid = gidCore then 0 else 4)).toNat

def Packet.carriedIds (request : Packet) : List UInt8 :=
  request.payload.drop (if request.gid = gidCore then 1 else 5)

/-- A get request for core parameters, or for the parameters of an existing session. -/
def GetsConfigs (d : Device) (request : Packet) : Prop :=
  request.mt = mtCommand ∧
    ((request.gid = gidCore ∧ request.oid = coreGetConfig) ∨
      (request.gid = gidSessionConfig ∧ request.oid = sessionGetAppConfig ∧
        d.findSession (readU32Le request.payload 0) ≠ none)) ∧
    1 ≤ request.declaredIds

namespace Device

def requestedConfig (d : Device) (request : Packet) (configId : UInt8) : Option (List UInt8) :=
  if request.gid = gidCore then
    if d.profile.supportsCoreConfig configId then d.getConfig configId else none
  else match d.findSession (readU32Le request.payload 0) with
    | none => none
    | some i => if d.profile.supportsSessionAppConfig configId then
        (d.sessions i).getConfig configId else none

/-- The reply reports success exactly when it has the declared number of items, and never for
more identifiers than the request carries. -/
def CountsItems (d : Device) (request : Packet) : Prop :=
  ∃ response, (d.handlePacket request).2.result.response = some response ∧
    (byteAt response.payload 0 = statusOk ↔
      (byteAt response.payload 1).toNat = request.declaredIds) ∧
    (request.carriedIds.length < request.declaredIds → byteAt response.payload 0 ≠ statusOk)

end Device

/-- Every identifier has a value, and the values fit behind the bytes used so far. -/
def Answerable (lookup : UInt8 → Option (List UInt8)) (used : ℕ) (ids : List UInt8) : Prop :=
  (∀ configId ∈ ids, lookup configId ≠ none) ∧
    used+(ids.map (fun configId => 2+((lookup configId).getD []).length)).sum ≤ maxPayload

instance (lookup : UInt8 → Option (List UInt8)) (used : ℕ) (ids : List UInt8) :
    Decidable (Answerable lookup used ids) := inferInstanceAs (Decidable (_ ∧ _))

/-- The request ends before the declared count and can be answered as far as it goes. -/
def Device.StopsShort (d : Device) (request : Packet) : Prop :=
  d.profile.supportsCommand request.gid request.oid = true ∧
    request.carriedIds.length < request.declaredIds ∧
    Answerable (d.requestedConfig request) 2 request.carriedIds ∧
    (request.gid = gidCore → request.carriedIds ≠ [])

theorem answerable_nil (lookup : UInt8 → Option (List UInt8)) {used : ℕ}
    (h : used ≤ maxPayload) : Answerable lookup used [] :=
  ⟨by simp,by simpa using h⟩

theorem answerable_cons {lookup : UInt8 → Option (List UInt8)} {used : ℕ} {configId : UInt8}
    {value : List UInt8} (h : lookup configId = some value) (ids : List UInt8) :
    Answerable lookup used (configId::ids) ↔ Answerable lookup (used+2+value.length) ids := by
  simp [Answerable, h, Nat.add_assoc]

theorem Answerable.room {lookup : UInt8 → Option (List UInt8)} {used : ℕ} {ids : List UInt8}
    (h : Answerable lookup used ids) : used ≤ maxPayload := by
  have hsum := h.2
  omega

/-- The loop succeeds on all the identifiers it can reach, or it fails before their last. -/
theorem collect_configs_outcome (lookup : UInt8 → Option (List UInt8)) (count : ℕ)
    (ids items : List UInt8) (processed : ℕ) (hroom : 2+items.length ≤ maxPayload) :
    let outcome := collectConfigs lookup count ids items processed
    (Answerable lookup (2+items.length) (ids.take count) → outcome.1 = statusOk ∧
      outcome.2.2 = processed+(ids.take count).length) ∧
    (¬ Answerable lookup (2+items.length) (ids.take count) → outcome.1 = statusInvalidParam ∧
      outcome.2.2 < processed+(ids.take count).length) := by
  induction count generalizing ids items processed with
  | zero =>
    rw [List.take_zero]
    exact ⟨fun _ => ⟨rfl,rfl⟩,fun h => absurd (answerable_nil lookup hroom) h⟩
  | succ count ih =>
    cases ids with
    | nil =>
      rw [List.take_nil]
      exact ⟨fun _ => ⟨rfl,rfl⟩,fun h => absurd (answerable_nil lookup hroom) h⟩
    | cons configId ids =>
      rw [List.take_succ_cons, List.length_cons]
      unfold collectConfigs
      cases hvalue : lookup configId with
      | none =>
        refine ⟨fun h => absurd hvalue (h.1 configId List.mem_cons_self),fun _ => ⟨rfl,?_⟩⟩
        dsimp only
        omega
      | some value =>
        rw [answerable_cons hvalue]
        dsimp only
        by_cases hlong : 2+items.length+2+value.length > maxPayload
        · rw [if_pos hlong]
          refine ⟨fun h => absurd h.room (Nat.not_le_of_lt hlong),fun _ => ⟨rfl,?_⟩⟩
          dsimp only
          omega
        · have hlength : 2+(items ++ [configId,UInt8.ofNat value.length] ++ value).length =
              2+items.length+2+value.length := by
            simp only [List.length_append, List.length_cons, List.length_nil]
            omega
          have hnext := ih ids (items ++ [configId,UInt8.ofNat value.length] ++ value)
            (processed+1) (by omega)
          rw [hlength, show processed+1+(ids.take count).length =
            processed+((ids.take count).length+1) by omega] at hnext
          rw [if_neg hlong]
          exact hnext

section

variable {d : Device} {request : Packet}

def Device.collected (d : Device) (request : Packet) : UInt8 × List UInt8 × ℕ :=
  collectConfigs (d.requestedConfig request) request.declaredIds request.carriedIds [] 0

theorem get_config_command (h : GetsConfigs d request)
    (hs : d.profile.supportsCommand request.gid request.oid = true) :
    ∃ response, ((start d).dispatchCommand request).2.result.response = some response ∧
      byteAt response.payload 0 = (if request.gid = gidCore ∧ (d.collected request).2.2 = 0 then
        statusInvalidParam else (d.collected request).1) ∧
      byteAt response.payload 1 = UInt8.ofNat (d.collected request).2.2 := by
  rcases h with ⟨hmt,⟨hgid,hoid⟩ | ⟨hgid,hoid,hfound⟩,hcount⟩
  · have hdispatch : (start d).dispatchCommand request =
        (start d).handleCoreGetConfig request := dispatch_core_of (.getConfig hoid) hgid hs
    unfold Packet.declaredIds at hcount
    rw [if_pos hgid] at hcount
    rw [hdispatch, handleCoreGetConfig]
    cases hp : request.payload with
    | nil =>
      rw [hp] at hcount
      exact absurd hcount (by decide)
    | cons count rest =>
      have hlookup : d.requestedConfig request = fun configId =>
          if d.profile.supportsCoreConfig configId then d.getConfig configId else none := by
        funext configId
        rw [Device.requestedConfig, if_pos hgid]
      have hcollected : d.collected request = collectConfigs (fun configId =>
          if d.profile.supportsCoreConfig configId then d.getConfig configId else none)
          count.toNat rest [] 0 := by
        rw [Device.collected, hlookup, Packet.declaredIds, Packet.carriedIds, if_pos hgid,
          if_pos hgid, hp]
        rfl
      rw [hcollected]
      refine ⟨_,rfl,?_,rfl⟩
      simp only [hgid, true_and]
      rfl
  · have hdispatch : (start d).dispatchCommand request =
        (start d).handleSessionGetAppConfig request := by
      rw [hgid, hoid] at hs
      exact get_app_config_command ⟨hmt,hgid,hoid,hs⟩
    have hcore : ¬ request.gid = gidCore := by rw [hgid]; decide
    rcases Option.ne_none_iff_exists'.mp hfound with ⟨i,hi⟩
    unfold Packet.declaredIds at hcount
    rw [if_neg hcore] at hcount
    have hlong : ¬ request.payload.length < 5 := by
      intro hshort
      rw [byteAt, List.getD_eq_getElem?_getD, List.getElem?_eq_none (by omega)] at hcount
      exact absurd hcount (by decide)
    have hnonzero : byteAt request.payload 4 ≠ 0 := by
      intro hzero
      rw [hzero] at hcount
      exact absurd hcount (by decide)
    have hlookup : d.requestedConfig request = fun configId =>
        if d.profile.supportsSessionAppConfig configId then
          (d.sessions i).getConfig configId else none := by
      funext configId
      rw [Device.requestedConfig, if_neg hcore, hi]
    have hcollected : d.collected request = collectConfigs (fun configId =>
        if d.profile.supportsSessionAppConfig configId then
          (d.sessions i).getConfig configId else none)
        (byteAt request.payload 4).toNat (request.payload.drop 5) [] 0 := by
      rw [Device.collected, hlookup, Packet.declaredIds, Packet.carriedIds, if_neg hcore,
        if_neg hcore]
    rw [hdispatch, handleSessionGetAppConfig, if_neg hlong,
      show (start d).device = d from rfl, hi, hcollected]
    dsimp only
    rw [if_neg hnonzero, if_neg fun h => hcore h.1]
    exact ⟨_,rfl,rfl,rfl⟩

theorem get_config_unsupported (h : GetsConfigs d request)
    (hs : ¬ d.profile.supportsCommand request.gid request.oid = true) :
    ∃ response, ((start d).dispatchCommand request).2.result.response = some response ∧
      response.payload = [statusUnknownOid] := by
  have hlacks : (!(start d).device.profile.supportsCommand request.gid request.oid) = true := by
    simpa [start] using hs
  rcases h with ⟨-,⟨hgid,-⟩ | ⟨hgid,-⟩,-⟩
  · rw [dispatch_core hgid, handleCore, if_pos hlacks]
    exact ⟨_,rfl,rfl⟩
  · rw [dispatch_config hgid, handleSessionConfig, if_pos hlacks]
    exact ⟨_,rfl,rfl⟩

theorem declared_small (request : Packet) : request.declaredIds < 256 := UInt8.toNat_lt _

theorem counts_items_iff (h : GetsConfigs d request) :
    d.CountsItems request ↔ ¬ d.StopsShort request := by
  have hdeclared := h.2.2
  have hsmall := declared_small request
  unfold Device.CountsItems
  rw [handle_command_response d request h.1]
  by_cases hs : d.profile.supportsCommand request.gid request.oid = true
  · rcases get_config_command h hs with ⟨response,hresponse,hstatus,hcount⟩
    have houtcome := collect_configs_outcome (d.requestedConfig request) request.declaredIds
      request.carriedIds [] 0 (by decide)
    change (_ → (d.collected request).1 = _ ∧ (d.collected request).2.2 = _) ∧
      (_ → (d.collected request).1 = _ ∧ (d.collected request).2.2 < _) at houtcome
    rw [hresponse]
    simp only [Option.some.injEq, exists_eq_left']
    rw [hstatus, hcount]
    generalize (d.collected request).1 = status at houtcome
    generalize (d.collected request).2.2 = processed at houtcome
    rw [List.length_nil, Nat.zero_add, Nat.add_zero, List.length_take] at houtcome
    have hcount : processed < 256 → ((UInt8.ofNat processed).toNat = request.declaredIds ↔
        processed = request.declaredIds) := by
      intro hlt
      rw [UInt8.toNat_ofNat_of_lt' hlt]
    have hinvalid : statusInvalidParam ≠ statusOk := by decide
    by_cases hanswerable : Answerable (d.requestedConfig request) 2
        (request.carriedIds.take request.declaredIds)
    · rcases houtcome.1 hanswerable with ⟨rfl,rfl⟩
      rw [hcount (by omega)]
      by_cases hshort : request.carriedIds.length < request.declaredIds
      · rw [List.take_of_length_le (by omega)] at hanswerable
        rw [Nat.min_eq_right (by omega)]
        by_cases hempty : request.gid = gidCore ∧ request.carriedIds.length = 0
        · rw [if_pos hempty]
          refine iff_of_true ⟨iff_of_false hinvalid (by omega),fun _ => hinvalid⟩ fun hstops => ?_
          exact hstops.2.2.2 hempty.1 (List.length_eq_zero_iff.mp hempty.2)
        · rw [if_neg hempty]
          refine iff_of_false (fun hfull => hfull.2 hshort rfl) (not_not.mpr ?_)
          exact ⟨hs,hshort,hanswerable,
            fun hcore hnil => hempty ⟨hcore,List.length_eq_zero_iff.mpr hnil⟩⟩
      · rw [Nat.min_eq_left (by omega), if_neg fun hempty => by omega]
        exact iff_of_true ⟨iff_of_true rfl rfl,fun hlt => absurd hlt hshort⟩
          fun hstops => hshort hstops.2.1
    · rcases houtcome.2 hanswerable with ⟨rfl,hless⟩
      rw [hcount (by omega), ite_self]
      refine iff_of_true ⟨iff_of_false hinvalid (by omega),fun _ => hinvalid⟩ fun hstops => ?_
      apply hanswerable
      rw [List.take_of_length_le (by have := hstops.2.1; omega)]
      exact hstops.2.2.1
  · rcases get_config_unsupported h hs with ⟨response,hresponse,hpayload⟩
    refine iff_of_true ⟨response,hresponse,?_,?_⟩ fun hstops => hs hstops.1
    · rw [hpayload]
      refine iff_of_false (by decide) ?_
      change ¬ 0 = request.declaredIds
      omega
    · intro _
      rw [hpayload]
      decide

end

/-- In every reachable state a get request's status and count agree, and more identifiers than
it carries are never granted, exactly when the request does not stop short. -/
theorem get_reply_counts_items (profile : Profile) (scenario : Scenario) (ops : List Op)
    (request : Packet)
    (h : GetsConfigs (Run.reached profile scenario ops).engine.device request) :
    (Run.reached profile scenario ops).engine.device.CountsItems request ↔
      ¬ (Run.reached profile scenario ops).engine.device.StopsShort request :=
  counts_items_iff h

theorem get_reply_counts_two :
    let d := (Run.reached defaultProfile .default [.submit (initRequest 1)]).engine.device
    let request := getAppConfigRequest 1 [appConfigPrfMode,appConfigStsConfig]
    d.CountsItems request ↔ ¬ d.StopsShort request :=
  get_reply_counts_items defaultProfile .default [.submit (initRequest 1)] _
    ⟨rfl,.inr ⟨rfl,rfl,by decide +kernel⟩,by decide⟩

/-- Two parameters are asked for, one identifier is there, and the reply reports success. -/
theorem short_get_granted :
    let d := (Run.reached defaultProfile .default [.submit (initRequest 1)]).engine.device
    let core := hostCommand gidCore coreGetConfig [2,deviceConfigLowPowerMode]
    let app := hostCommand gidSessionConfig sessionGetAppConfig
      (writeU32Le 1 ++ [2,appConfigPrfMode])
    (GetsConfigs d core ∧ ¬ d.CountsItems core) ∧ GetsConfigs d app ∧ ¬ d.CountsItems app := by
  have hcore : GetsConfigs (Run.reached defaultProfile .default
      [.submit (initRequest 1)]).engine.device
        (hostCommand gidCore coreGetConfig [2,deviceConfigLowPowerMode]) :=
    ⟨rfl,.inl ⟨rfl,rfl⟩,by decide⟩
  have happ : GetsConfigs (Run.reached defaultProfile .default
      [.submit (initRequest 1)]).engine.device
        (hostCommand gidSessionConfig sessionGetAppConfig
          (writeU32Le 1 ++ [2,appConfigPrfMode])) :=
    ⟨rfl,.inr ⟨rfl,rfl,by decide +kernel⟩,by decide⟩
  refine ⟨⟨hcore,fun h => (counts_items_iff hcore).mp h ?_⟩,
    happ,fun h => (counts_items_iff happ).mp h ?_⟩
  · exact ⟨by decide +kernel,by decide,by decide +kernel,fun _ => by decide⟩
  · exact ⟨by decide +kernel,by decide,by decide +kernel,fun h => absurd h (by decide)⟩

end UciSim
