import UciSim.MemoryControlSound
import UciSim.EngineRuns

/-!
# Every reached device stays in its arrays

Events move sessions and queues only below their capacities, and a call is sound
on a device in its arrays. So every device of a run is in its arrays, and no
request it may be handed makes an access outside one.
-/

set_option autoImplicit false

namespace UciSim

variable {d d' : Device}

theorem Device.InArrays.ranging_finished (h : d.InArrays) (i : Fin maxSessions) :
    (d.rangingFinished i).InArrays := by
  have hended : (d.setSession i (d.sessions i).endStream).InArrays :=
    h.set_session i ((h.sessions i).congr rfl rfl rfl rfl rfl rfl)
  exact hended.cancel_session_events _

theorem Device.InArrays.resumed (h : d.InArrays) (type : EventType) (i : Fin maxSessions) :
    (d.resumed type i).InArrays := h.schedule_event _ _ _

theorem sampled_in_arrays (h : d.InArrays) {ns : List Packet} (hs : Sampled d ns d') :
    d'.InArrays := by
  cases hs with
  | silent => exact h
  | sent payload => exact h.congr rfl rfl rfl rfl

theorem ranged_in_arrays (h : d.InArrays) {i : Fin maxSessions} {rc : Rc} {ns : List Packet}
    (hr : Ranged d i rc ns d') : d'.InArrays := by
  have hcounted : ∀ {d₁ : Device} (policyResult : PolicyResult), d₁.InArrays →
      (d₁.setSession i ((d.sessions i).countMeasurement policyResult)).InArrays :=
    fun _ h₁ => h₁.set_session i ((h.sessions i).congr rfl rfl rfl rfl rfl rfl)
  cases hr with
  | idle => exact h
  | exhausted => exact h.ranging_finished i
  | unbuilt => exact h.congr rfl rfl rfl rfl
  | blocked _ _ _ _ sampled => exact sampled_in_arrays h sampled
  | measured _ _ policyResult _ _ sampled => exact hcounted _ (sampled_in_arrays h sampled)
  | finished _ _ _ policyResult _ _ sampled =>
    exact (hcounted _ (sampled_in_arrays h sampled)).ranging_finished i

theorem transferred_in_arrays (h : d.InArrays) {i : Fin maxSessions} {rc : Rc}
    {ns : List Packet} (ht : Transferred d i rc ns d') : d'.InArrays := by
  cases ht with
  | repeated => exact h.set_session i ((h.sessions i).congr rfl rfl rfl rfl rfl rfl)
  | completed => exact h.set_session i ((h.sessions i).congr rfl rfl rfl rfl rfl rfl)

theorem fired_in_arrays (h : d.InArrays) {event : ScheduledEvent} {flushes : Bool}
    {ns : List Packet} (hf : Fired d event flushes ns d') : d'.InArrays := by
  cases hf with
  | unmatched => exact h
  | rangingFailed _ _ _ _ _ ranged => exact ranged_in_arrays h ranged
  | rangingOver _ _ _ _ _ ranged => exact ranged_in_arrays h ranged
  | rangingOn i _ _ _ _ ranged => exact (ranged_in_arrays h ranged).resumed _ i
  | transferIdle => exact h
  | transferFailed _ _ _ _ _ _ transferred => exact transferred_in_arrays h transferred
  | transferOver _ _ _ _ _ _ transferred => exact transferred_in_arrays h transferred
  | transferOn i _ _ _ _ _ transferred => exact (transferred_in_arrays h transferred).resumed _ i

theorem ticked_in_arrays (h : d.InArrays) {elapsedMs : UInt32} {flushes : Bool}
    {ns : List Packet} (ht : Ticked d elapsedMs flushes ns d') : d'.InArrays := by
  have haged : (d.tickEvents elapsedMs).InArrays :=
    h.with_events ((List.length_map _).le.trans h.events)
  cases ht with
  | waiting => exact haged
  | served event d₁ _ _ _ ready fired =>
    rcases Device.dequeue_ready_event_some ready with ⟨-,rfl⟩
    exact fired_in_arrays (haged.with_events (List.length_eraseP_le.trans haged.events)) fired

theorem flushed_waiting_length (scenario : Scenario) (l : Lines) :
    (flushedLines scenario l).waiting.length ≤ l.waiting.length := by
  unfold flushedLines
  by_cases hd : scenario.shouldDeferNotification = true
  · rw [if_pos hd]
  · rw [if_neg hd, Relay.forward, List.length_drop]
    exact Nat.sub_le _ _

theorem tick_in_arrays {l : Lines} (h : (d.withPending l.waiting).InArrays)
    (elapsedMs : UInt32) : ((d.carrying l).tick elapsedMs).engine.device.InArrays := by
  rcases Engine.tick_ticked d l elapsedMs with ⟨flushes,ns,d',hticked,hengine,-⟩
  have hqueued : (queuedLines l ns).waiting.length ≤ maxPendingNotifications :=
    Mailbox.queueAll_capacity ns h.pending
  rw [hengine]
  refine (ticked_in_arrays h hticked).with_pending (?_ : List.length _ ≤ _)
  cases flushes with
  | false => exact hqueued
  | true => exact (flushed_waiting_length _ _).trans hqueued

theorem submit_in_arrays {e : Engine} (h : e.device.InArrays)
    (hcaps : e.device.profile.coreCapsPayload.length ≤ maxPayload) (request : Packet) :
    (e.submitPacket request).engine.device.InArrays := by
  have hhandled := (Memory.handle_packet_sound h hcaps request).within
  by_cases hmt : request.mt = mtData ∨ request.mt = mtCommand
  · rcases handle_packet_served e.device request hmt with ⟨rc,response,posting,d',-,hx⟩
    rw [hx] at hhandled
    rw [posted_finalized] at hx hhandled
    rcases Engine.submit_cases e request rc d' response _ hx with
      ⟨-,-,-,hout⟩ | ⟨sent,-,-,-,-,hout⟩ | ⟨-,-,hout⟩
    · rw [hout]
      exact hhandled
    · rw [hout]
      exact hhandled
    · rw [hout]
      refine tick_in_arrays (hhandled.with_pending ?_) 0
      exact (flushed_waiting_length _ _).trans hhandled.pending
  · rcases not_or.mp hmt with ⟨hdata,hcommand⟩
    rw [Engine.submit_other e request hdata hcommand]
    exact h

namespace Run

theorem step_in_arrays {r : Run} (h : r.engine.device.InArrays)
    (hcaps : r.engine.device.profile.coreCapsPayload.length ≤ maxPayload) (op : Op) :
    (r.step op).engine.device.InArrays := by
  cases op with
  | submit request => exact submit_in_arrays h hcaps request
  | tick elapsedMs => exact tick_in_arrays (l := r.engine.lines) h elapsedMs
  | dequeue =>
    rw [step_dequeue_device]
    exact h

theorem reached_in_arrays {profile : Profile} (scenario : Scenario)
    (hcaps : profile.coreCapsPayload.length ≤ maxPayload) (ops : List Op) :
    (reached profile scenario ops).engine.device.InArrays := by
  have hinvariant := Runs.invariant_of_all_steps
    (I := fun r : Run => r.engine.device.profile = profile ∧ r.engine.device.InArrays)
    (fun r op hr => ⟨(r.step_profile op).trans hr.1,step_in_arrays hr.2 (hr.1 ▸ hcaps) op⟩)
    (init profile scenario) ops ⟨rfl,Device.InArrays.init profile scenario⟩
  exact hinvariant.2

/-- In every reached state all lists and values are within the arrays that hold them, and a
call with any request reads, writes and copies within the request, the response, the
notification and these arrays. -/
theorem handlers_stay_in_arrays (profile : Profile) (scenario : Scenario)
    (hcaps : profile.coreCapsPayload.length ≤ maxPayload) (ops : List Op) (request : Packet) :
    (reached profile scenario ops).engine.device.InArrays ∧
      Memory.handlePacket (reached profile scenario ops).engine.device request =
        .ok ((reached profile scenario ops).engine.device.handlePacket request) := by
  have hreached := reached_in_arrays scenario hcaps ops
  have hprofile : (reached profile scenario ops).engine.device.profile = profile :=
    reached_profile ops
  exact ⟨hreached,(Memory.handle_packet_sound hreached (by rw [hprofile]; exact hcaps)
    request).agrees⟩

/-- A request of three entries, one of them of six bytes, for the second of two sessions. -/
theorem default_handlers_stay_in_arrays :
    let d := (reached defaultProfile .rangingStream [.submit (initRequest 1),
      .submit (initRequest 2), .submit (startRequest 1)]).engine.device
    let request := setAppConfigRequest 2 3 [appConfigDstMacAddress,2,7,8,
      appConfigStaticStsIv,6,1,2,3,4,5,6,appConfigDataRepetitionCount,1,4]
    d.InArrays ∧ Memory.handlePacket d request = .ok (d.handlePacket request) :=
  handlers_stay_in_arrays defaultProfile .rangingStream (by decide)
    [.submit (initRequest 1), .submit (initRequest 2), .submit (startRequest 1)]
    (setAppConfigRequest 2 3 [appConfigDstMacAddress,2,7,8,appConfigStaticStsIv,6,1,2,3,4,5,6,
      appConfigDataRepetitionCount,1,4])

end Run

end UciSim
