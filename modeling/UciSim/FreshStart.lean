import UciSim.DeferredDelivery
import UciSim.Requests
import UciSim.Uncongested

/-!
# A reset is a fresh start

An accepted reset leaves the device of a fresh engine. What the host is sent
afterwards is what a fresh engine sends, as long as the outbound queue, which a
reset does not empty, has room for it.
-/

set_option autoImplicit false

namespace UciSim

open Exchange

namespace Engine

theorem flush_carrying (e : Engine) : e.flushDeviceNotifications =
    e.device.carrying (flushedLines e.device.scenario e.lines) := flush_lines e.device e.lines

/-- The outbound queue decides about the waiting notifications only. -/
theorem process_range_data_device (e e' : Engine) (h : e'.device = e.device)
    (i : Fin maxSessions) :
    (e'.processRangeData i).engine.device.withPending [] =
      (e.processRangeData i).engine.device.withPending [] := by
  unfold processRangeData
  rw [h]
  cases (start e.device).emitRangingStream i with
  | mk rc x =>
    cases rc with
    | err => rfl
    | ok =>
      dsimp only
      rw [flush_carrying, flush_carrying]
      by_cases hon : (x.device.sessions i).rangingStreamRemaining > 0 ∧
          (x.device.sessions i).state = sessionStateActive
      · rw [if_pos (by exact hon), if_pos (by exact hon), (schedule_next_carrying _ _ _ _ i).1,
          (schedule_next_carrying _ _ _ _ i).1]
        rfl
      · rw [if_neg (by exact hon), if_neg (by exact hon)]
        rfl

theorem process_data_transfer_device (e e' : Engine) (h : e'.device = e.device)
    (i : Fin maxSessions) :
    (e'.processDataTransfer i).engine.device.withPending [] =
      (e.processDataTransfer i).engine.device.withPending [] := by
  unfold processDataTransfer
  rw [h]
  dsimp only
  by_cases hidle : (e.device.sessions i).state ≠ sessionStateActive ∨
      (e.device.sessions i).dataTransferInProgress = false
  · rw [if_pos hidle, if_pos hidle, h]
  rw [if_neg hidle, if_neg hidle]
  cases (start e.device).progressDataTransfer i with
  | mk rc x =>
    cases rc with
    | err => rfl
    | ok =>
      dsimp only
      rw [flush_carrying, flush_carrying]
      by_cases hon : (x.device.sessions i).dataTransferInProgress = true
      · rw [if_pos (by exact hon), if_pos (by exact hon), (schedule_next_carrying _ _ _ _ i).1,
          (schedule_next_carrying _ _ _ _ i).1]
        rfl
      · rw [if_neg (by exact hon), if_neg (by exact hon)]
        rfl

theorem process_ready_event_device (e e' : Engine) (h : e'.device = e.device)
    (event : ScheduledEvent) :
    (e'.processReadyEvent event).engine.device.withPending [] =
      (e.processReadyEvent event).engine.device.withPending [] := by
  unfold processReadyEvent
  rw [h]
  cases event.type with
  | none => simp [h]
  | rangeData =>
    cases e.device.findSession event.sessionId with
    | none => simp [h]
    | some i => exact process_range_data_device e e' h i
  | dataTransfer =>
    cases e.device.findSession event.sessionId with
    | none => simp [h]
    | some i => exact process_data_transfer_device e e' h i

theorem tick_device (e e' : Engine) (h : e'.device = e.device) (elapsedMs : UInt32) :
    (e'.tick elapsedMs).engine.device.withPending [] =
      (e.tick elapsedMs).engine.device.withPending [] := by
  unfold tick
  rw [h]
  dsimp only
  cases (e.device.tickEvents elapsedMs).dequeueReadyEvent with
  | none => rfl
  | some ready =>
    exact process_ready_event_device ⟨ready.2,e.outboundPackets⟩ ⟨ready.2,e'.outboundPackets⟩
      rfl ready.1

end Engine

theorem submit_same (e e' : Engine) (h : e'.device = e.device) (request : Packet)
    (hq : e.device.Quiet)
    (hroom : e.outboundPackets.length+e.device.demand (.submit request) ≤ maxOutboundPackets)
    (hroom' : e'.outboundPackets.length+e.device.demand (.submit request) ≤ maxOutboundPackets) :
    (e'.submitPacket request).produced = (e.submitPacket request).produced ∧
      (e'.submitPacket request).engine.device.withPending [] =
        (e.submitPacket request).engine.device.withPending [] := by
  by_cases hmt : request.mt = mtData ∨ request.mt = mtCommand
  swap
  · rcases not_or.mp hmt with ⟨hdata,hcommand⟩
    rw [Engine.submit_other e request hdata hcommand, Engine.submit_other e' request hdata hcommand]
    exact ⟨rfl,congrArg (fun d : Device => d.withPending []) h⟩
  rcases handled_packet e.device request hmt hq with ⟨rc,d',response,posting,m,hd⟩
  have hd' : Handled e'.device request rc d' response posting m := h ▸ hd
  have hhanded := hd.handed_le_demand
  rcases submit_queued hd (by omega) with ⟨hrc,hnone,hslot,hout⟩ | ⟨hkept,hout⟩
  · rcases submit_queued hd' (by omega) with ⟨-,-,-,hout'⟩ | ⟨hkept,-⟩
    · rw [hout, hout']
      exact ⟨rfl,rfl⟩
    · exact absurd ⟨hrc,hnone,hslot⟩ hkept
  · rcases submit_queued hd' (by omega) with ⟨hrc,hnone,hslot,-⟩ | ⟨-,hout'⟩
    · exact absurd ⟨hrc,hnone,hslot⟩ hkept
    · have hproduced := Engine.tick_produced
        (d'.carrying ⟨[],e.outboundPackets ++ (response.toList ++ posting.packets)⟩)
        (d'.carrying ⟨[],e'.outboundPackets ++ (response.toList ++ posting.packets)⟩) rfl 0
      have hdevice := Engine.tick_device
        (d'.carrying ⟨[],e.outboundPackets ++ (response.toList ++ posting.packets)⟩)
        (d'.carrying ⟨[],e'.outboundPackets ++ (response.toList ++ posting.packets)⟩) rfl 0
      rw [hout, hout']
      exact ⟨congrArg (response.toList ++ m.accepted ++ ·) hproduced,hdevice⟩

namespace Run

theorem outbound_grows (r : Run) {op : Op} {ns : List Packet} (hop : op ≠ .dequeue)
    (h : (r.step op).emitted = r.emitted ++ ns) :
    (r.step op).engine.outboundPackets = r.engine.outboundPackets ++ ns := by
  have hdelivered : (r.step op).delivered = r.delivered := by
    cases op with
    | dequeue => exact absurd rfl hop
    | submit request => rfl
    | tick elapsedMs => rfl
  rw [emitted, emitted, hdelivered, List.append_assoc] at h
  exact List.append_cancel_left h

theorem dequeue_shortens (r : Run) : (r.step .dequeue).engine.outboundPackets.length =
    r.engine.outboundPackets.length-1 := by
  cases h : r.engine.outboundPackets with
  | nil =>
    rw [step_dequeue_nil h, h]
    rfl
  | cons packet rest => rw [step_dequeue_cons h, List.length_cons, Nat.add_sub_cancel]

end Run

/-- The run goes on like another, behind what the host is sent before. -/
structure Run.Follows (r f : Run) (before : List Packet) : Prop where
  device : r.engine.device = f.engine.device
  emitted : r.emitted = before ++ f.emitted
  shorter : f.engine.outboundPackets.length ≤ r.engine.outboundPackets.length

namespace Run.Follows

variable {r f : Run} {before : List Packet}

theorem fits {op : Op} (h : r.Follows f before) (hfits : r.Fits op) : f.Fits op := by
  cases op with
  | dequeue => trivial
  | submit request =>
    have hroom : _ ≤ maxOutboundPackets := hfits
    rw [h.device] at hroom
    exact (Nat.add_le_add_right h.shorter _).trans hroom
  | tick elapsedMs =>
    have hroom : _ ≤ maxOutboundPackets := hfits
    rw [h.device] at hroom
    exact (Nat.add_le_add_right h.shorter _).trans hroom

theorem called {op : Op} (h : r.Follows f before) (hq : r.engine.device.Quiet)
    (hfits : r.Fits op) :
    ∃ ns, (r.step op).emitted = r.emitted ++ ns ∧ (f.step op).emitted = f.emitted ++ ns ∧
      (r.step op).engine.device = (f.step op).engine.device := by
  have hqf : f.engine.device.Quiet := h.device ▸ hq
  rcases r.step_called op hfits hq with ⟨ns,-,hidle,hemitted,hproduced⟩
  rcases f.step_called op (h.fits hfits) hqf with ⟨ms,-,hidlef,hemittedf,hproducedf⟩
  have hclosed : ∀ {d d' : Device}, d.pendingNotifications = [] → d'.pendingNotifications = [] →
      d.withPending [] = d'.withPending [] → d = d' := by
    intro d d' hd hd' hsame
    have hself : d.withPending [] = d := by rw [← hd]; rfl
    have hself' : d'.withPending [] = d' := by rw [← hd']; rfl
    rw [← hself, hsame, hself']
  cases op with
  | dequeue =>
    refine ⟨[],?_,?_,?_⟩
    · rw [hemitted]
      have hnone : ns = [] := by
        cases hout : r.engine.outboundPackets with
        | nil => simpa [step_dequeue_nil hout] using hproduced
        | cons packet rest => simpa [step_dequeue_cons hout] using hproduced
      rw [hnone]
    · rw [hemittedf]
      have hnone : ms = [] := by
        cases hout : f.engine.outboundPackets with
        | nil => simpa [step_dequeue_nil hout] using hproducedf
        | cons packet rest => simpa [step_dequeue_cons hout] using hproducedf
      rw [hnone]
    · rw [step_dequeue_device, step_dequeue_device, h.device]
  | tick elapsedMs =>
    have hsame := Engine.tick_produced f.engine r.engine h.device elapsedMs
    have hns : ns = ms := by
      have hr : r.produced ++ ns = r.produced ++ (r.engine.tick elapsedMs).produced :=
        hproduced.symm
      have hf : f.produced ++ ms = f.produced ++ (f.engine.tick elapsedMs).produced :=
        hproducedf.symm
      rw [List.append_cancel_left hr, List.append_cancel_left hf, hsame]
    refine ⟨ns,hemitted,hns ▸ hemittedf,hclosed hidle hidlef ?_⟩
    exact Engine.tick_device f.engine r.engine h.device elapsedMs
  | submit request =>
    have hroom : _ ≤ maxOutboundPackets := hfits
    have hroomf : _ ≤ maxOutboundPackets := h.fits hfits
    rw [h.device] at hroom
    rcases submit_same f.engine r.engine h.device request hqf hroomf hroom with ⟨hsame,hdevice⟩
    have hns : ns = ms := by
      have hr : r.produced ++ ns = r.produced ++ (r.engine.submitPacket request).produced :=
        hproduced.symm
      have hf : f.produced ++ ms = f.produced ++ (f.engine.submitPacket request).produced :=
        hproducedf.symm
      rw [List.append_cancel_left hr, List.append_cancel_left hf, hsame]
    exact ⟨ns,hemitted,hns ▸ hemittedf,hclosed hidle hidlef hdevice⟩

theorem step {op : Op} (h : r.Follows f before) (hq : r.engine.device.Quiet)
    (hfits : r.Fits op) : (r.step op).Follows (f.step op) before := by
  rcases h.called hq hfits with ⟨ns,hr,hf,hdevice⟩
  refine ⟨hdevice,?_,?_⟩
  · rw [hr, hf, h.emitted, List.append_assoc]
  · by_cases hop : op = .dequeue
    · subst hop
      rw [dequeue_shortens, dequeue_shortens]
      exact Nat.sub_le_sub_right h.shorter 1
    · rw [outbound_grows r hop hr, outbound_grows f hop hf, List.length_append, List.length_append]
      exact Nat.add_le_add_right h.shorter _

theorem run {ops : List Op} (h : r.Follows f before) (hq : r.engine.device.Quiet)
    (hfits : Runs.Along Run.step Run.Fits r ops) :
    (Runs.run Run.step r ops).Follows (Runs.run Run.step f ops) before := by
  induction ops generalizing r f with
  | nil => exact h
  | cons op ops ih =>
    rcases r.step_called op hfits.1 hq with ⟨ns,-,hidle,-⟩
    exact ih (h.step hq hfits.1) ⟨by rw [r.step_scenario op]; exact hq.prompt,hidle⟩ hfits.2

end Run.Follows

section

variable {d : Device} {request : Packet}

/-- The reset of a host. -/
def resetRequest : Packet := hostCommand gidCore coreDeviceReset [coreDeviceResetConfigValid]

def resetResponse : Packet := ⟨mtResponse,pbfComplete,gidCore,coreDeviceReset,[statusOk]⟩

theorem init_idle (profile : Profile) {scenario : Scenario}
    (hprompt : scenario ≠ .delayedNotifications) (outbound : List Packet) :
    ((Device.initWithProfile profile scenario).carrying
      ⟨[],outbound⟩).flushDeviceNotifications.tick 0 =
      ⟨.ok,(Device.initWithProfile profile scenario).carrying ⟨[],outbound⟩,[]⟩ := by
  have hscenario : (Device.initWithProfile profile scenario).scenario ≠ .delayedNotifications :=
    hprompt
  rw [Engine.flush_lines, flushed_prompt _ _ hscenario, Relay.forward_room _ _ (Nat.zero_le _),
    List.append_nil]
  rfl

theorem reset_handled (h : d.AcceptsReset request) :
    ∃ m : Mail, d.handlePacket request = (.ok,
      ⟨(Device.initWithProfile d.profile d.scenario).withPending m.pending,
        ⟨some resetResponse,m.slot⟩,m.accepted⟩) ∧
      (d.scenario ≠ .delayedNotifications →
        m = ⟨some (deviceStatusNotification d.profile.defaultDeviceState),[],
          [deviceStatusNotification d.profile.defaultDeviceState]⟩) := by
  rcases h.1 with ⟨hmt,hgid,hoid,-⟩
  rw [handle_command d request hmt, reset_dispatched h]
  dsimp only [reportError]
  rw [posted_finalized, hgid, hoid]
  refine ⟨_,rfl,fun hscenario => ?_⟩
  have hdefer : d.scenario.shouldDeferNotification = false := by
    simpa [Scenario.shouldDeferNotification] using hscenario
  rw [Posting.settled, Posting.mail, show d.resetRuntimeState.scenario = d.scenario from rfl,
    hdefer]
  split <;> rfl

theorem reset_step_device (r : Run) (h : r.engine.device.AcceptsReset request) :
    (r.step (.submit request)).engine.device.withPending [] =
      Device.initWithProfile r.engine.device.profile r.engine.device.scenario := by
  refine r.step_handled (P := fun d => d.withPending [] =
    Device.initWithProfile r.engine.device.profile r.engine.device.scenario)
    (fun _ _ hd => hd) ?_ (.submit request) ?_
  · intro d elapsedMs flushes ns d' hd hticked
    have hevents : d.scheduledEvents = [] := congrArg Device.scheduledEvents hd
    have haged : d.tickEvents elapsedMs = d := by
      unfold Device.tickEvents
      rw [hevents]
      exact congrArg (fun events => { d with scheduledEvents := events }) hevents.symm
    cases hticked with
    | waiting => rw [haged, hd]
    | served event d₁ _ _ _ ready =>
      have hfind := (Device.dequeue_ready_event_some ready).1
      rw [haged, hevents] at hfind
      cases hfind
  · rcases reset_handled h with ⟨m,hx,-⟩
    rw [Run.handled, hx]
    rfl

theorem submit_pair {e : Engine} {request : Packet} {d' : Device} {response n : Packet}
    (hx : e.device.handlePacket request =
      (.ok,⟨d'.withPending [],⟨some response,some n⟩,[n]⟩))
    (hidle : ∀ outbound, (d'.carrying ⟨[],outbound⟩).flushDeviceNotifications.tick 0 =
      ⟨.ok,d'.carrying ⟨[],outbound⟩,[]⟩) :
    ∃ sent, sent <+: [response,n] ∧
      (e.outboundPackets.length+2 ≤ maxOutboundPackets → sent = [response,n]) ∧
      (e.submitPacket request).engine = d'.carrying ⟨[],e.outboundPackets ++ sent⟩ := by
  have hengine : ({ e with device := d'.withPending [] } : Engine) =
      d'.carrying ⟨[],e.outboundPackets⟩ := rfl
  unfold Engine.submitPacket
  rw [hx]
  dsimp only
  rw [if_neg (by simp), hengine]
  unfold Engine.queueOptional
  dsimp only
  by_cases hroom : e.outboundPackets.length < maxOutboundPackets
  swap
  · rw [Engine.queue_outbound_full d' _ response (Nat.le_of_not_lt hroom)]
    exact ⟨[], List.nil_prefix,fun hlen => absurd hlen (by omega),by rw [List.append_nil]⟩
  rw [Engine.queue_outbound_room d' _ response hroom]
  dsimp only
  by_cases hroom' : (e.outboundPackets ++ [response]).length < maxOutboundPackets
  · rw [Engine.queue_outbound_room d' _ n hroom']
    dsimp only
    rw [hidle, List.append_assoc]
    exact ⟨[response,n],List.prefix_refl _,fun _ => rfl,rfl⟩
  · rw [Engine.queue_outbound_full d' _ n (Nat.le_of_not_lt hroom')]
    refine ⟨[response],⟨[n],rfl⟩,fun hlen => absurd hlen ?_,rfl⟩
    rw [List.length_append, List.length_singleton] at hroom'
    omega

theorem reset_step (r : Run) (h : r.engine.device.AcceptsReset request)
    (hprompt : r.engine.device.scenario ≠ .delayedNotifications) :
    ∃ sent, sent <+: [resetResponse,
        deviceStatusNotification r.engine.device.profile.defaultDeviceState] ∧
      (r.engine.outboundPackets.length+2 ≤ maxOutboundPackets → sent = [resetResponse,
        deviceStatusNotification r.engine.device.profile.defaultDeviceState]) ∧
      (r.step (.submit request)).engine.device = Device.initWithProfile r.engine.device.profile
        r.engine.device.scenario ∧
      (r.step (.submit request)).emitted = r.emitted ++ sent := by
  rcases reset_handled h with ⟨m,hx,hm⟩
  rw [hm hprompt] at hx
  rcases submit_pair hx (init_idle _ hprompt) with ⟨sent,hsent,hroom,hengine⟩
  refine ⟨sent,hsent,hroom,?_,?_⟩
  · rw [Run.step_submit, Run.after, hengine]
    rfl
  · rw [Run.step_submit, Run.after, Run.emitted, Run.emitted, hengine, List.append_assoc]
    rfl

end

/-- From every reachable state an accepted reset leaves the device of a fresh engine, the waiting
notifications apart. Where nothing is deferred these are gone too, the reset adds nothing but its
response and the device status to what is outbound, and as long as the outbound queue has room
every later call leaves the device and sends the packets that it does on a fresh engine. -/
theorem reset_is_fresh_start (profile : Profile) (scenario : Scenario) (ops : List Op)
    (request : Packet) (hresets : request.Resets)
    (hsupported : profile.supportsCommand gidCore coreDeviceReset = true) :
    let r := Run.reached profile scenario ops
    let r' := r.step (.submit request)
    let fresh := Run.init profile scenario
    r'.engine.device.withPending [] = fresh.engine.device ∧
    (scenario ≠ .delayedNotifications →
      (∃ sent, sent <+: [resetResponse,deviceStatusNotification profile.defaultDeviceState] ∧
        (r.engine.outboundPackets.length+2 ≤ maxOutboundPackets →
          sent = [resetResponse,deviceStatusNotification profile.defaultDeviceState]) ∧
        r'.emitted = r.emitted ++ sent) ∧
      r'.engine.device = fresh.engine.device ∧
      ∀ later, Runs.Along Run.step Run.Fits r' later →
        (Runs.run Run.step r' later).engine.device =
          (Runs.run Run.step fresh later).engine.device ∧
        (Runs.run Run.step r' later).emitted =
          r'.emitted ++ (Runs.run Run.step fresh later).emitted) := by
  intro r r' fresh
  have hprofile : r.engine.device.profile = profile := Run.reached_profile ops
  have hscenario : r.engine.device.scenario = scenario := Run.reached_scenario ops
  have haccepts : r.engine.device.AcceptsReset request := ⟨hresets,hprofile ▸ hsupported⟩
  have hdevice := reset_step_device r haccepts
  rw [hprofile, hscenario] at hdevice
  refine ⟨hdevice,fun hprompt => ?_⟩
  rcases reset_step r haccepts (hscenario ▸ hprompt) with ⟨sent,hsent,hroom,hfresh,hemitted⟩
  rw [hprofile] at hsent hroom
  rw [hprofile, hscenario] at hfresh
  refine ⟨⟨sent,hsent,hroom,hemitted⟩,hfresh,fun later hfits => ?_⟩
  have hstart : r'.Follows fresh r'.emitted := ⟨hfresh,(List.append_nil _).symm,Nat.zero_le _⟩
  have hquiet : r'.engine.device.Quiet := by
    rw [hfresh]
    exact ⟨hprompt,rfl⟩
  have hrun := hstart.run hquiet hfits
  exact ⟨hrun.device,hrun.emitted⟩

/-- A reset while a session streams, and a session afterwards. -/
theorem reset_while_streaming :
    let r := Run.reached defaultProfile .rangingStream
      [.submit (initRequest 1),.submit (startRequest 1),.tick 200]
    let r' := r.step (.submit resetRequest)
    let later := [Op.submit (initRequest 2),.submit (startRequest 2),.tick 200,.dequeue]
    (Runs.run Run.step r' later).emitted = r'.emitted ++
      (Run.reached defaultProfile .rangingStream later).emitted :=
  (((reset_is_fresh_start defaultProfile .rangingStream
    [.submit (initRequest 1),.submit (startRequest 1),.tick 200] resetRequest (by decide)
    (by decide)).2 (by decide)).2.2 _ (by decide +kernel)).2

/-- Sixteen responses that the host has not taken leave no room for the reset's answer, nor for
that of the count request after it, which a fresh engine answers. -/
theorem full_outbound_survives_reset :
    let r := Run.reached defaultProfile .default (List.replicate 16 (.submit getCountRequest))
    let r' := r.step (.submit resetRequest)
    resetRequest.Resets ∧ r'.engine.device.sessions 0 = Session.zero ∧ r'.emitted = r.emitted ∧
      (r'.step (.submit getCountRequest)).emitted ≠ r'.emitted ++
        ((Run.init defaultProfile .default).step (.submit getCountRequest)).emitted := by
  decide +kernel

end UciSim
