import UciSim.MessageMoves
import UciSim.RangingPace
import UciSim.TickCodes

/-!
# Events keep the pace of the streams

The event of a paced stream is the only one of its key, so the measurement it takes
comes when the interval has passed, and the next event is scheduled beside no other.
-/

set_option autoImplicit false

namespace UciSim

open Exchange

namespace Device.Paced

variable {d d' : Device} {event : ScheduledEvent} {since since' : Fin maxSessions → ℕ}
  {i : Fin maxSessions}

theorem elapsed (h : d.Paced since) (elapsedMs : UInt32) :
    (d.tickEvents elapsedMs).Paced (fun i => since i+elapsedMs.toNat) := by
  refine ⟨h.distinct,h.vacant,fun i ha hstreaming => ?_⟩
  refine Timers.paced_aged (fun _ => rfl) (fun event => ?_) (h.paced i ha hstreaming)
  unfold ScheduledEvent.left
  dsimp only
  split
  · rename_i hlong
    rw [UInt32.toNat_sub_of_le _ _ (UInt32.le_of_lt hlong)]
    omega
  · rename_i hshort
    have hle : event.delayMs.toNat ≤ elapsedMs.toNat := Nat.le_of_not_lt hshort
    exact hle.trans (Nat.le_add_right _ _)

theorem sampled {ns : List Packet} (h : d.Paced since) (hsampled : Sampled d ns d') :
    d'.Paced since := by
  cases hsampled with
  | silent => exact h
  | sent => exact h.of_same rfl rfl rfl

theorem stream_over (h : d.Paced since) (i : Fin maxSessions) :
    (d.rangingFinished i).Paced since := by
  have hover : (d.sessions i).endStream.rangingStreamRemaining = 0 := rfl
  exact h.ended rfl rfl hover List.filter_sublist

/-- A measurement may set the clock of its own stream, which has no event left. -/
theorem reclocked (h : d.Paced since) (halone : (d.sessions i).Streaming →
      ∀ event ∈ d.scheduledEvents, event.key ≠ (d.sessions i).rangeKey)
    (hsince : ∀ j, j ≠ i → since' j = since j) : d.Paced since' := by
  refine ⟨h.distinct,h.vacant,fun j => ?_⟩
  by_cases hj : j = i
  · subst hj
    intro ha hstreaming
    exact Session.paced_alone _ _ (halone hstreaming) ha hstreaming
  · rw [hsince j hj]
    exact h.paced j

theorem counted (h : d.Paced since) (ha : (d.sessions i).allocated = true)
    (halone : ∀ event ∈ d.scheduledEvents, event.key ≠ (d.sessions i).rangeKey)
    (policyResult : PolicyResult) :
    (d.setSession i ((d.sessions i).countMeasurement policyResult)).Paced since := by
  refine h.replaced d.scheduledEvents (h.id_other rfl rfl) (fun hfree => ?_) (fun _ _ hj => hj) ?_
  · exact absurd (hfree.symm.trans ha) (by decide)
  · exact Session.paced_alone (s := (d.sessions i).countMeasurement policyResult) _ _ halone

theorem ranged {rc : Rc} {ns : List Packet} (h : d.Paced since)
    (ha : (d.sessions i).allocated = true) (halone : (d.sessions i).Streaming →
      ∀ event ∈ d.scheduledEvents, event.key ≠ (d.sessions i).rangeKey)
    (hranged : Ranged d i rc ns d') : d'.Paced since := by
  have hcounted : ∀ {ns d₁}, Sampled d ns d₁ → (d.sessions i).Streaming → ∀ policyResult,
      (d₁.setSession i ((d.sessions i).countMeasurement policyResult)).Paced since := by
    intro ns d₁ hsampled hstreaming policyResult
    have hd₁ := h.sampled hsampled
    rw [← (sampled_sessions hsampled).1] at ha halone hstreaming ⊢
    exact hd₁.counted ha (by rw [sampled_events hsampled]; exact halone hstreaming) policyResult
  cases hranged with
  | idle => exact h
  | exhausted => exact h.stream_over i
  | unbuilt => exact h.of_same rfl rfl rfl
  | blocked _ _ _ _ hsampled => exact h.sampled hsampled
  | measured _ _ policyResult _ hstreaming hsampled => exact hcounted hsampled hstreaming _
  | finished _ _ _ policyResult _ hstreaming hsampled =>
    exact (hcounted hsampled hstreaming policyResult).stream_over i

/-- A stream that goes on after its event has no other. -/
theorem ranged_alone {rc : Rc} {ns : List Packet} (halone : (d.sessions i).Streaming →
      ∀ event ∈ d.scheduledEvents, event.key ≠ (d.sessions i).rangeKey)
    (hranged : Ranged d i rc ns d') (hon : (d'.sessions i).Streaming) :
    ∀ event ∈ d'.scheduledEvents, event.key ≠ (d'.sessions i).rangeKey := by
  have hover : ∀ d : Device, ¬ ((d.rangingFinished i).sessions i).Streaming := by
    intro d hstreaming
    have hsession : (d.rangingFinished i).sessions i = (d.sessions i).endStream :=
      Device.setSession_same d i _
    rw [hsession] at hstreaming
    exact hstreaming.1 rfl
  cases hranged with
  | idle => exact halone hon
  | exhausted => exact absurd hon (hover d)
  | unbuilt _ hstreaming => exact halone hstreaming
  | blocked _ _ _ hstreaming hsampled =>
    rw [(sampled_sessions hsampled).1, sampled_events hsampled]
    exact halone hstreaming
  | measured _ d₁ policyResult _ hstreaming hsampled =>
    rw [Device.setSession_same, Device.setSession_events, sampled_events hsampled]
    exact halone hstreaming
  | finished => exact absurd hon (hover _)

theorem resumed (h : d.Paced since) (ha : (d.sessions i).allocated = true)
    (halone : ∀ event ∈ d.scheduledEvents, event.key ≠ (d.sessions i).rangeKey) :
    (d.resumed .rangeData i).Paced since := by
  unfold Device.resumed
  by_cases hroom : d.scheduledEvents.length < maxScenarioEvents
  · rw [Device.schedule_event_room _ _ _ _ (by decide) hroom]
    refine ⟨h.distinct,h.vacant,fun j => ?_⟩
    by_cases hj : j = i
    · subst hj
      exact Session.paced_scheduled _ _ halone
    · exact h.stream_other ha hj (h.paced j) _
  · rw [Device.schedule_event_full _ _ _ _ (Nat.le_of_not_lt hroom)]
    exact h

theorem resumed_transfer (h : d.Paced since) : (d.resumed .dataTransfer i).Paced since := by
  unfold Device.resumed
  by_cases hroom : d.scheduledEvents.length < maxScenarioEvents
  · rw [Device.schedule_event_room _ _ _ _ (by decide) hroom]
    exact h.aside nofun
  · rw [Device.schedule_event_full _ _ _ _ (Nat.le_of_not_lt hroom)]
    exact h

theorem transferred {rc : Rc} {ns : List Packet} (h : d.Paced since)
    (htransferred : Transferred d i rc ns d') : d'.Paced since := by
  cases htransferred with
  | repeated =>
    have hs : (d.sessions i).SameStream (d.sessions i).repeatTransfer :=
      ⟨rfl,rfl,rfl,rfl,Session.interval_of_configs rfl⟩
    exact h.kept hs (List.Sublist.refl _)
  | completed =>
    have hs : (d.sessions i).SameStream (d.sessions i).finishTransfer :=
      ⟨rfl,rfl,rfl,rfl,Session.interval_of_configs rfl⟩
    exact h.kept hs (List.Sublist.refl _)

end Device.Paced

theorem ranged_other {d d' : Device} {i j : Fin maxSessions} {rc : Rc} {ns : List Packet}
    (hranged : Ranged d i rc ns d') (hj : j ≠ i) : d'.sessions j = d.sessions j := by
  cases hranged with
  | idle => rfl
  | exhausted => exact Device.setSession_other _ _ hj
  | unbuilt => rfl
  | blocked _ _ _ _ hsampled => rw [(sampled_sessions hsampled).1]
  | measured _ _ _ _ _ hsampled =>
    rw [Device.setSession_other _ _ hj, (sampled_sessions hsampled).1]
  | finished _ _ d₁ policyResult _ _ hsampled =>
    have hover : ∀ d : Device, (d.rangingFinished i).sessions j = d.sessions j :=
      fun d => Device.setSession_other _ _ hj
    rw [hover, Device.setSession_other _ _ hj, (sampled_sessions hsampled).1]

/-- Only a session that streams is measured. -/
theorem ranged_count {d d' : Device} {i : Fin maxSessions} {rc : Rc} {ns : List Packet}
    (hranged : Ranged d i rc ns d')
    (hcount : (d'.sessions i).rangingCount ≠ (d.sessions i).rangingCount) :
    (d.sessions i).Streaming := by
  cases hranged with
  | idle => exact absurd rfl hcount
  | exhausted _ _ hstreaming => exact hstreaming
  | unbuilt => exact absurd rfl hcount
  | blocked _ _ _ hstreaming => exact hstreaming
  | measured _ _ _ _ hstreaming => exact hstreaming
  | finished _ _ _ _ _ hstreaming => exact hstreaming

theorem transferred_count {d d' : Device} {i : Fin maxSessions} {rc : Rc} {ns : List Packet}
    (htransferred : Transferred d i rc ns d') (j : Fin maxSessions) :
    (d'.sessions j).rangingCount = (d.sessions j).rangingCount := by
  by_cases hj : j = i
  · subst hj
    cases htransferred with
    | repeated | completed =>
      rw [Device.setSession_same]
      rfl
  · cases htransferred with
    | repeated | completed => rw [Device.setSession_other _ _ hj]

theorem found_key {d : Device} {event : ScheduledEvent} {i : Fin maxSessions}
    (htype : event.type = .rangeData) (hfound : d.findSession event.sessionId = some i) :
    event.key = (d.sessions i).rangeKey := by
  unfold ScheduledEvent.key Session.rangeKey
  rw [htype, (Device.find_session_some hfound).2]

/-- The event that has a session measured is that of its stream. -/
theorem fired_count {d d' : Device} {event : ScheduledEvent} {flushes : Bool} {ns : List Packet}
    (hfired : Fired d event flushes ns d') {j : Fin maxSessions}
    (hcount : (d'.sessions j).rangingCount ≠ (d.sessions j).rangingCount) :
    event.key = (d.sessions j).rangeKey ∧ (d.sessions j).allocated = true ∧
      (d.sessions j).Streaming := by
  have hserved : ∀ {d'' : Device} {i rc ns}, event.type = .rangeData →
      d.findSession event.sessionId = some i → Ranged d i rc ns d'' →
      (d''.sessions j).rangingCount ≠ (d.sessions j).rangingCount →
      event.key = (d.sessions j).rangeKey ∧ (d.sessions j).allocated = true ∧
        (d.sessions j).Streaming := by
    intro d'' i rc ns htype hfound hranged hcount
    by_cases hj : j = i
    · subst hj
      exact ⟨found_key htype hfound,(Device.find_session_some hfound).1,
        ranged_count hranged hcount⟩
    · rw [ranged_other hranged hj] at hcount
      exact absurd rfl hcount
  cases hfired with
  | unmatched => exact absurd rfl hcount
  | transferIdle => exact absurd rfl hcount
  | rangingFailed i _ _ htype hfound hranged => exact hserved htype hfound hranged hcount
  | rangingOver i _ _ htype hfound hranged => exact hserved htype hfound hranged hcount
  | rangingOn i _ _ htype hfound hranged =>
    rw [resumed_sessions] at hcount
    exact hserved htype hfound hranged hcount
  | transferFailed i _ _ _ _ _ htransferred =>
    exact absurd (transferred_count htransferred j) hcount
  | transferOver i _ _ _ _ _ htransferred =>
    exact absurd (transferred_count htransferred j) hcount
  | transferOn i _ _ _ _ _ htransferred =>
    rw [resumed_sessions] at hcount
    exact absurd (transferred_count htransferred j) hcount

namespace Device.Paced

variable {d d' : Device} {event : ScheduledEvent} {since since' : Fin maxSessions → ℕ}

theorem fired {flushes : Bool} {ns : List Packet} (h : d.Paced since)
    (halone : ∀ i, event.key = (d.sessions i).rangeKey → (d.sessions i).allocated = true →
      (d.sessions i).Streaming → ∀ other ∈ d.scheduledEvents, other.key ≠ (d.sessions i).rangeKey)
    (hsince : ∀ j, (d'.sessions j).rangingCount = (d.sessions j).rangingCount →
      since' j = since j) (hfired : Fired d event flushes ns d') : d'.Paced since' := by
  have hserved : ∀ i, event.type = .rangeData → d.findSession event.sessionId = some i →
      (d.sessions i).Streaming →
        ∀ other ∈ d.scheduledEvents, other.key ≠ (d.sessions i).rangeKey :=
    fun i htype hfound => halone i (found_key htype hfound) (Device.find_session_some hfound).1
  have hranged : ∀ {d'' : Device} {i rc ns}, event.type = .rangeData →
      d.findSession event.sessionId = some i → Ranged d i rc ns d'' →
      (∀ j, (d''.sessions j).rangingCount = (d.sessions j).rangingCount → since' j = since j) →
      d''.Paced since' := by
    intro d'' i rc ns htype hfound hranged hsince
    have hclocked : d.Paced since' := h.reclocked (hserved i htype hfound) fun j hj =>
      hsince j (by rw [ranged_other hranged hj])
    exact hclocked.ranged (Device.find_session_some hfound).1 (hserved i htype hfound) hranged
  have htransferred : ∀ {d'' : Device} {i rc ns}, Transferred d i rc ns d'' →
      (∀ j, (d''.sessions j).rangingCount = (d.sessions j).rangingCount → since' j = since j) →
      d''.Paced since' := by
    intro d'' i rc ns htransferred hsince
    have hsame : since' = since := funext fun j => hsince j (transferred_count htransferred j)
    rw [hsame]
    exact h.transferred htransferred
  have hkept : (∀ j, since' j = since j) → d.Paced since' := fun hsame => funext hsame ▸ h
  cases hfired with
  | unmatched => exact hkept fun j => hsince j rfl
  | transferIdle => exact hkept fun j => hsince j rfl
  | rangingFailed i _ _ htype hfound hrange => exact hranged htype hfound hrange hsince
  | rangingOver i _ _ htype hfound hrange => exact hranged htype hfound hrange hsince
  | rangingOn i _ d₁ htype hfound hrange hon =>
    rw [resumed_sessions] at hsince
    have ha : (d₁.sessions i).allocated = true :=
      (Device.SameTransfers.ranged hrange i).allocated.trans (Device.find_session_some hfound).1
    exact (hranged htype hfound hrange hsince).resumed ha
      (ranged_alone (hserved i htype hfound) hrange hon)
  | transferFailed i _ _ _ _ _ htransfer => exact htransferred htransfer hsince
  | transferOver i _ _ _ _ _ htransfer => exact htransferred htransfer hsince
  | transferOn i _ _ _ _ _ htransfer =>
    rw [resumed_sessions] at hsince
    exact (htransferred htransfer hsince).resumed_transfer

/-- Of a tick: a session is measured once its interval has passed, and the pace is kept. -/
theorem ticked {elapsedMs : UInt32} {flushes : Bool} {ns : List Packet} (h : d.Paced since)
    (hsince : ∀ j, (d'.sessions j).rangingCount = (d.sessions j).rangingCount →
      since' j = since j+elapsedMs.toNat) (hticked : Ticked d elapsedMs flushes ns d') :
    (∀ j, (d'.sessions j).rangingCount ≠ (d.sessions j).rangingCount →
      ((d.sessions j).getRangingIntervalMs d.profile).toNat ≤ since j+elapsedMs.toNat) ∧
    d'.Paced since' := by
  have helapsed := h.elapsed elapsedMs
  cases hticked with
  | waiting =>
    constructor
    · exact fun j hcount => absurd rfl hcount
    · have hsame : since' = fun j => since j+elapsedMs.toNat := funext fun j => hsince j rfl
      rw [hsame]
      exact helapsed
  | served event d₁ _ _ _ ready hfired =>
    rcases Device.dequeue_ready_event_some ready with ⟨hready,rfl⟩
    have htaken : ∀ i, event.key = (d.sessions i).rangeKey → (d.sessions i).allocated = true →
        (d.sessions i).Streaming →
        ((d.sessions i).getRangingIntervalMs d.profile).toNat ≤
            since i+elapsedMs.toNat+event.left ∧
          ∀ other ∈ (d.tickEvents elapsedMs).scheduledEvents.eraseP
            (fun event => event.delayMs == 0), other.key ≠ event.key := by
      intro i hkey ha hstreaming
      have hpaced := helapsed.paced i ha hstreaming
      rw [show ((d.tickEvents elapsedMs).sessions i).rangeKey = event.key from hkey.symm] at hpaced
      exact Timers.paced_taken hready hpaced
    have hdue : event.left = 0 := by
      have hzero := List.find?_some hready
      rw [ScheduledEvent.left, beq_iff_eq.mp hzero]
      rfl
    constructor
    · intro j hcount
      rcases fired_count hfired hcount with ⟨hkey,ha,hstreaming⟩
      have hpassed := (htaken j hkey ha hstreaming).1
      rwa [hdue] at hpassed
    · have herased : ((d.tickEvents elapsedMs).withEvents
          ((d.tickEvents elapsedMs).scheduledEvents.eraseP
            (fun event => event.delayMs == 0))).Paced (fun j => since j+elapsedMs.toNat) :=
        ⟨h.distinct,h.vacant,fun j => (helapsed.paced j).sublist List.eraseP_sublist⟩
      refine herased.fired (fun i hkey ha hstreaming other hmem => ?_) hsince hfired
      show other.key ≠ (d.sessions i).rangeKey
      rw [← show event.key = (d.sessions i).rangeKey from hkey]
      exact (htaken i hkey ha hstreaming).2 other hmem

end Device.Paced

end UciSim
