import UciSim.PacketEffects

/-!
# The entries of a set request

An entry is refused before anything is stored, or it is stored, and the stored
interval of a live stream may still fail to move the stream's event. The loop
stores entries until one of these ends it or the payload does.
-/

set_option autoImplicit false

namespace UciSim

namespace Device

/-- The status of an immediate refusal by the validation. -/
def rejection (d : Device) (i : Fin maxSessions) (configId : UInt8) (value : List UInt8) :
    Option UInt8 :=
  match if validatedAppConfigs.contains configId then
      validateSessionAppConfig d.profile (d.sessions i) configId value
    else .ok () with
  | .ok () => none
  | .error invalid =>
    if invalid.surface = invalidConfigSurfaceImmediate then some invalid.status else none

def refusal (d : Device) (i : Fin maxSessions) (configId : UInt8) (value : List UInt8) :
    Option UInt8 :=
  if !d.profile.supportsSessionAppConfig configId then some statusInvalidParam
  else match d.rejection i configId value with
    | some status => some status
    | none =>
      if (d.sessions i).storeConfig configId value = none then some statusRejected else none

/-- The interval of a session that streams is being set. -/
def MovesStream (d : Device) (i : Fin maxSessions) (configId : UInt8) : Prop :=
  configId = appConfigRangingInterval ∧ (d.sessions i).state = sessionStateActive ∧
    (d.sessions i).rangingStreamRemaining > 0

instance (d : Device) (i : Fin maxSessions) (configId : UInt8) :
    Decidable (d.MovesStream i configId) := inferInstanceAs (Decidable (_ ∧ _ ∧ _))

/-- The stream's event finds no room: the other events already fill the queue. -/
def Strands (d : Device) (i : Fin maxSessions) (configId : UInt8) : Prop :=
  d.MovesStream i configId ∧
    maxScenarioEvents ≤ (d.eventsWithout .rangeData (d.sessions i).sessionId).length

instance (d : Device) (i : Fin maxSessions) (configId : UInt8) :
    Decidable (d.Strands i configId) := inferInstanceAs (Decidable (_ ∧ _))

def storing (d : Device) (i : Fin maxSessions) (configId : UInt8) (value : List UInt8) :
    Session :=
  (((d.sessions i).storeConfig configId value).getD (d.sessions i)).forgetProximity configId

def stored (d : Device) (i : Fin maxSessions) (configId : UInt8) (value : List UInt8) : Device :=
  if d.MovesStream i configId then
    (d.setSession i (d.storing i configId value)).withEvents
      (d.rescheduledEvents .rangeData (d.sessions i).sessionId
        ((d.storing i configId value).getRangingIntervalMs d.profile))
  else d.setSession i (d.storing i configId value)

theorem forget_proximity_eq (session : Session) (configId : UInt8) :
    (session.forgetProximity configId).state = session.state ∧
      (session.forgetProximity configId).rangingStreamRemaining =
        session.rangingStreamRemaining ∧
      (session.forgetProximity configId).sessionId = session.sessionId ∧
      (session.forgetProximity configId).allocated = session.allocated ∧
      (session.forgetProximity configId).configs = session.configs := by
  unfold Session.forgetProximity
  split
  · exact ⟨rfl,rfl,rfl,rfl,rfl⟩
  · exact ⟨rfl,rfl,rfl,rfl,rfl⟩

theorem storing_eq (d : Device) (i : Fin maxSessions) (configId : UInt8) (value : List UInt8) :
    (d.storing i configId value).state = (d.sessions i).state ∧
      (d.storing i configId value).rangingStreamRemaining =
        (d.sessions i).rangingStreamRemaining ∧
      (d.storing i configId value).sessionId = (d.sessions i).sessionId ∧
      (d.storing i configId value).allocated = (d.sessions i).allocated := by
  unfold storing
  obtain ⟨hstate,hremaining,hid,ha,-⟩ := forget_proximity_eq
    (((d.sessions i).storeConfig configId value).getD (d.sessions i)) configId
  rw [hstate, hremaining, hid, ha]
  cases hs : (d.sessions i).storeConfig configId value with
  | none => exact ⟨rfl,rfl,rfl,rfl⟩
  | some session =>
    rw [store_config_eq hs]
    exact ⟨rfl,rfl,rfl,rfl⟩

theorem reschedule_range_data (d : Device) (i : Fin maxSessions) (session : Session)
    (sessionId delayMs : UInt32) :
    (d.setSession i session).rescheduleSessionEvent .rangeData sessionId delayMs =
      (if maxScenarioEvents ≤ (d.eventsWithout .rangeData sessionId).length then .err else .ok,
        (d.setSession i session).withEvents
          (d.rescheduledEvents .rangeData sessionId delayMs)) := by
  refine Prod.ext ?_ (reschedule_session_event_snd _ .rangeData _ _ (by decide))
  rw [reschedule_event_eq _ _ _ _ (by decide),
    show (d.setSession i session).eventsWithout .rangeData sessionId =
      d.eventsWithout .rangeData sessionId from rfl]
  by_cases hfull : maxScenarioEvents ≤ (d.eventsWithout .rangeData sessionId).length
  · rw [if_pos hfull, schedule_event_full _ _ _ _ hfull]
  · rw [if_neg hfull, schedule_event_room _ _ _ _ (by decide) (Nat.lt_of_not_le hfull)]

theorem set_app_config_eq (d : Device) (i : Fin maxSessions) (configId : UInt8)
    (value : List UInt8) :
    d.setAppConfig i configId value =
      match d.refusal i configId value with
      | some status => (some status,d)
      | none => (if d.Strands i configId then some statusRejected else none,
          d.stored i configId value) := by
  unfold setAppConfig refusal
  by_cases hs : (!d.profile.supportsSessionAppConfig configId) = true
  · rw [if_pos hs, if_pos hs]
  rw [if_neg hs, if_neg hs]
  change (match d.rejection i configId value with
    | some status => (some status,d)
    | none => _) = _
  cases d.rejection i configId value with
  | some status => rfl
  | none =>
    dsimp only
    cases hstore : (d.sessions i).storeConfig configId value with
    | none => rfl
    | some session =>
      have hstoring : session.forgetProximity configId = d.storing i configId value := by
        rw [storing, hstore, Option.getD_some]
      obtain ⟨hstate,hremaining,hid,-⟩ := storing_eq d i configId value
      rw [if_neg (by simp)]
      dsimp only
      rw [hstoring, hstate, hremaining, hid]
      unfold stored
      by_cases hmoves : d.MovesStream i configId
      · rw [if_pos hmoves, if_pos (by exact hmoves), reschedule_range_data]
        by_cases hfull : maxScenarioEvents ≤
            (d.eventsWithout .rangeData (d.sessions i).sessionId).length
        · rw [if_pos hfull, if_pos (show d.Strands i configId from ⟨hmoves,hfull⟩)]
          rfl
        · rw [if_neg hfull, if_neg (show ¬ d.Strands i configId from fun h => hfull h.2)]
          rfl
      · rw [if_neg hmoves, if_neg (by exact hmoves),
          if_neg (show ¬ d.Strands i configId from fun h => hmoves h.1)]

def storedEntries : ℕ → List UInt8 → Device → Fin maxSessions → List (UInt8 × List UInt8)
  | remaining+1, configId::valueLen::rest, d, i =>
    let value := rest.take valueLen.toNat
    if rest.length < valueLen.toNat ∨ d.refusal i configId value ≠ none then []
    else if d.Strands i configId then [(configId,value)]
    else (configId,value) ::
      storedEntries remaining (rest.drop valueLen.toNat) (d.stored i configId value) i
  | _, _, _, _ => []

theorem set_app_configs_invariant {P : Device → Prop} {e : UInt8 → List UInt8 → Prop}
    {i : Fin maxSessions}
    (hstep : ∀ d configId value, P d → e configId value →
      d.refusal i configId value = none → P (d.stored i configId value))
    (count : ℕ) (rest : List UInt8) (d : Device) (hd : P d)
    (hentries : ∀ entry ∈ storedEntries count rest d i, e entry.1 entry.2) :
    P (setAppConfigs count rest d i).2 := by
  induction count generalizing rest d with
  | zero => exact hd
  | succ count ih =>
    match rest with
    | [] => exact hd
    | [_] => exact hd
    | configId::valueLen::rest =>
      unfold setAppConfigs
      unfold storedEntries at hentries
      dsimp only at hentries
      by_cases hcut : rest.length < valueLen.toNat
      · rw [if_pos hcut]
        exact hd
      rw [if_neg hcut, set_app_config_eq]
      cases hrefusal : d.refusal i configId (rest.take valueLen.toNat) with
      | some status => exact hd
      | none =>
        rw [if_neg (by simp [hcut, hrefusal])] at hentries
        have hstored : e configId (rest.take valueLen.toNat) →
            P (d.stored i configId (rest.take valueLen.toNat)) :=
          fun hentry => hstep d _ _ hd hentry hrefusal
        by_cases hstrands : d.Strands i configId
        · rw [if_pos hstrands] at hentries ⊢
          exact hstored (hentries _ List.mem_cons_self)
        · rw [if_neg hstrands] at hentries ⊢
          exact ih _ _ (hstored (hentries _ List.mem_cons_self))
            fun entry hmem => hentries entry (List.mem_cons_of_mem _ hmem)

/-- What every stored entry does to a part of the device, the loop does one after the other. -/
theorem set_app_configs_fold {α : Type} {f : Device → α} {g : α → UInt8 × List UInt8 → α}
    {i : Fin maxSessions}
    (hstep : ∀ d configId value, d.refusal i configId value = none →
      f (d.stored i configId value) = g (f d) (configId,value))
    (count : ℕ) (rest : List UInt8) (d : Device) :
    f (setAppConfigs count rest d i).2 = (storedEntries count rest d i).foldl g (f d) := by
  induction count generalizing rest d with
  | zero => rfl
  | succ count ih =>
    match rest with
    | [] => rfl
    | [_] => rfl
    | configId::valueLen::rest =>
      unfold setAppConfigs storedEntries
      dsimp only
      by_cases hcut : rest.length < valueLen.toNat
      · rw [if_pos hcut, if_pos (Or.inl hcut)]
        rfl
      rw [if_neg hcut, set_app_config_eq]
      cases hrefusal : d.refusal i configId (rest.take valueLen.toNat) with
      | some status =>
        rw [if_pos (show rest.length < valueLen.toNat ∨ some status ≠ none by simp)]
        rfl
      | none =>
        rw [if_neg (show ¬ (rest.length < valueLen.toNat ∨ (none : Option UInt8) ≠ none) by
          simp [hcut])]
        by_cases hstrands : d.Strands i configId
        · rw [if_pos hstrands, if_pos hstrands]
          exact hstep d _ _ hrefusal
        · rw [if_neg hstrands, if_neg hstrands]
          dsimp only
          rw [ih, hstep d _ _ hrefusal]
          rfl

end Device

def Sets (d : Device) (request : Packet) (i : Fin maxSessions) : Prop :=
  (request.mt = mtCommand ∧ request.gid = gidSessionConfig ∧
    request.oid = sessionSetAppConfig) ∧
  d.profile.supportsCommand request.gid request.oid = true ∧ 5 ≤ request.payload.length ∧
  d.findSession (readU32Le request.payload 0) = some i

instance (d : Device) (request : Packet) (i : Fin maxSessions) : Decidable (Sets d request i) :=
  inferInstanceAs (Decidable (_ ∧ _))

def Packet.entriesFor (request : Packet) (d : Device) (i : Fin maxSessions) :
    List (UInt8 × List UInt8) :=
  Device.storedEntries (byteAt request.payload 4).toNat (request.payload.drop 5) d i

end UciSim
