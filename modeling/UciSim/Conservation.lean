import UciSim.Uncongested
import UciSim.Requests

/-!
# Conservation of packets

Every packet made is dequeued by the host, waits outbound, or waits in the device,
as long as each call finds room for what it makes. A call that does not loses a
packet, and no later call makes up for it.
-/

set_option autoImplicit false

namespace UciSim

theorem forward_length (l : Lines) :
    (Relay.held (Relay.forward maxOutboundPackets l)).length+
      (Relay.lost maxOutboundPackets l).length = (Relay.held l).length := by
  have := (Relay.forward_held maxOutboundPackets l).length_eq
  rw [List.length_append] at this
  exact this.symm

theorem flushed_length (scenario : Scenario) (l : Lines) :
    (Relay.held (flushedLines scenario l)).length ≤ (Relay.held l).length := by
  unfold flushedLines
  have := forward_length l
  split <;> omega

/-- A flush that does not find room for all that waits loses a packet. -/
theorem forward_overflow (l : Lines)
    (h : maxOutboundPackets < l.outbound.length+l.waiting.length)
    (houtbound : l.outbound.length ≤ maxOutboundPackets) :
    (Relay.held (Relay.forward maxOutboundPackets l)).length < (Relay.held l).length := by
  have hlost : Relay.lost maxOutboundPackets l ≠ [] := by
    rw [Ne, Relay.lost_eq_nil, Relay.room]
    omega
  have := forward_length l
  have := List.length_pos_iff.mpr hlost
  omega

theorem queued_length (l : Lines) (ns : List Packet) :
    (Relay.held (queuedLines l ns)).length = (Relay.held l).length+
      (Mailbox.queueAll maxPendingNotifications ⟨none,l.waiting,[]⟩ ns).accepted.length := by
  have hstart : Mailbox.Balanced l.waiting (⟨none,l.waiting,[]⟩ : Mail) := by
    simp [Mailbox.Balanced, Mailbox.held]
  have := (Mailbox.queueAll_balanced maxPendingNotifications l.waiting _ ns hstart).length_eq
  rw [Mailbox.held, Mailbox.queueAll_slot] at this
  simp only [Option.toList_none, List.nil_append, List.length_append] at this
  simp only [Relay.held, queuedLines, List.length_append]
  omega

namespace Engine

def held (e : Engine) : List Packet := Relay.held e.lines

theorem held_carrying (d : Device) (l : Lines) : (d.carrying l).held = Relay.held l := rfl

theorem tick_held (d : Device) (l : Lines) (elapsedMs : UInt32) :
    ((d.carrying l).tick elapsedMs).engine.held.length ≤
      (Relay.held l).length+((d.carrying l).tick elapsedMs).produced.length := by
  obtain ⟨flushes,ns,d',-,hengine,hproduced⟩ := tick_ticked d l elapsedMs
  have hqueued := queued_length l ns
  have hflushed := flushed_length d.scenario (queuedLines l ns)
  rw [hengine, hproduced, held_carrying]
  split <;> omega

theorem submit_held (e : Engine) (request : Packet) :
    (e.submitPacket request).engine.held.length ≤
      e.held.length+(e.submitPacket request).produced.length := by
  by_cases hmt : request.mt = mtData ∨ request.mt = mtCommand
  swap
  · obtain ⟨hdata,hcommand⟩ := not_or.mp hmt
    rw [submit_other e request hdata hcommand]
    exact Nat.le_refl _
  obtain ⟨rc,response,posting,d',hserved,hx⟩ := handle_packet_served e.device request hmt
  rw [posted_finalized] at hx
  have hbalanced := (settled_balanced d' posting
    e.device.pendingNotifications.length).length_eq
  generalize posting.settled d' e.device.pendingNotifications.length = m at hx hbalanced
  have hpending : d'.pendingNotifications.length ≤ e.device.pendingNotifications.length := by
    obtain h | ⟨-,h⟩ := served_pending hserved <;> simp [h]
  have hheld : e.held.length =
      e.outboundPackets.length+e.device.pendingNotifications.length := List.length_append
  simp only [Mailbox.held, List.length_append] at hbalanced
  obtain ⟨-,-,-,hout⟩ | ⟨sent,unsent,hsent,-,-,hout⟩ | ⟨-,-,hout⟩ :=
    submit_cases e request rc d' response m hx
  · rw [hout]
    simp only [held_carrying, Relay.held, List.length_append]
    omega
  · have hlen := congrArg List.length hsent
    rw [hout]
    simp only [held_carrying, Relay.held, List.length_append] at hlen ⊢
    omega
  · have htick := tick_held d' (flushedLines d'.scenario
      ⟨m.pending,e.outboundPackets ++ (response.toList ++ m.slot.toList)⟩) 0
    have hflushed := flushed_length d'.scenario
      ⟨m.pending,e.outboundPackets ++ (response.toList ++ m.slot.toList)⟩
    rw [hout]
    unfold closingTick
    simp only [Relay.held, List.length_append] at htick hflushed ⊢
    omega

theorem queue_optional_outbound (e : Engine) (packet : Option Packet)
    (h : e.outboundPackets.length ≤ maxOutboundPackets) :
    (e.queueOptional packet).2.outboundPackets.length ≤ maxOutboundPackets := by
  cases packet with
  | none => exact h
  | some packet =>
    change (e.queueOutboundPacket packet).2.outboundPackets.length ≤ maxOutboundPackets
    unfold queueOutboundPacket
    split
    · exact h
    · simp only [List.length_append, List.length_singleton]
      omega

theorem flushed_outbound (scenario : Scenario) (l : Lines)
    (h : l.outbound.length ≤ maxOutboundPackets) :
    (flushedLines scenario l).outbound.length ≤ maxOutboundPackets := by
  unfold flushedLines
  split
  · exact h
  · simp only [Relay.forward, Relay.room, List.length_append, List.length_take]
    omega

theorem tick_outbound (d : Device) (l : Lines) (elapsedMs : UInt32)
    (h : l.outbound.length ≤ maxOutboundPackets) :
    ((d.carrying l).tick elapsedMs).engine.outboundPackets.length ≤ maxOutboundPackets := by
  obtain ⟨flushes,ns,d',-,hengine,-⟩ := tick_ticked d l elapsedMs
  rw [hengine]
  cases flushes with
  | true => exact flushed_outbound _ (queuedLines l ns) h
  | false => exact h

theorem submit_outbound (e : Engine) (request : Packet)
    (h : e.outboundPackets.length ≤ maxOutboundPackets) :
    (e.submitPacket request).engine.outboundPackets.length ≤ maxOutboundPackets := by
  unfold submitPacket
  dsimp only
  split
  · exact h
  have hresponse := queue_optional_outbound
    ⟨(e.device.handlePacket request).2.device,e.outboundPackets⟩
    (e.device.handlePacket request).2.result.response h
  split <;> rename_i hq <;> rw [hq] at hresponse
  · exact hresponse
  rename_i e'
  have hnotification := queue_optional_outbound e'
    (e.device.handlePacket request).2.result.notification hresponse
  split <;> rename_i hq <;> rw [hq] at hnotification
  · exact hnotification
  rename_i e''
  have hflush := flush_lines e''.device e''.lines
  rw [carrying_lines] at hflush
  rw [hflush]
  exact tick_outbound _ _ _ (flushed_outbound _ _ hnotification)

end Engine

namespace Run

/-- Everything made that is not lost: dequeued, outbound or pending. -/
def carried (r : Run) : List Packet :=
  r.delivered ++ r.engine.outboundPackets ++ r.engine.device.pendingNotifications

/-- Each packet made is carried exactly once. -/
def Conserved (r : Run) : Prop := List.Perm r.produced r.carried

theorem carried_length (r : Run) :
    r.carried.length = r.delivered.length+r.engine.held.length := by
  simp [carried, Engine.held, Relay.held, Engine.lines]

/-- No call makes up for a packet that is missing. -/
theorem step_carried (r : Run) (op : Op) :
    (r.step op).carried.length+r.produced.length ≤
      r.carried.length+(r.step op).produced.length := by
  rw [carried_length, carried_length]
  cases op with
  | submit request =>
    have := r.engine.submit_held request
    simp only [step_submit, after, List.length_append]
    omega
  | tick elapsedMs =>
    have := Engine.tick_held r.engine.device r.engine.lines elapsedMs
    rw [Engine.carrying_lines] at this
    simp only [step, after, List.length_append, Engine.held] at this ⊢
    omega
  | dequeue =>
    cases h : r.engine.outboundPackets with
    | nil => rw [step_dequeue_nil h]
    | cons packet rest =>
      rw [step_dequeue_cons h]
      simp only [Engine.held, Relay.held, Engine.lines, h, List.length_append, List.length_cons,
        List.length_nil]
      omega

theorem run_carried (r : Run) (ops : List Op) :
    (Runs.run step r ops).carried.length+r.produced.length ≤
      r.carried.length+(Runs.run step r ops).produced.length := by
  induction ops generalizing r with
  | nil => exact Nat.le_refl _
  | cons op ops ih =>
    have hstep := r.step_carried op
    have hrun := ih (r.step op)
    simp only [Runs.run]
    omega

theorem submit_overflow {e : Engine} (request : Packet) (hq : e.device.Quiet)
    (hfull : e.outboundPackets.length ≤ maxOutboundPackets)
    (h : maxOutboundPackets < e.outboundPackets.length+e.device.demand (.submit request)) :
    (e.submitPacket request).engine.held.length <
      e.outboundPackets.length+(e.submitPacket request).produced.length := by
  by_cases hmt : request.mt = mtData ∨ request.mt = mtCommand
  swap
  · obtain ⟨hdata,hcommand⟩ := not_or.mp hmt
    have hdemand := demand_other e.device request hdata hcommand
    omega
  obtain ⟨rc,d',response,posting,m,hm⟩ := handled_packet e.device request hmt hq
  have hheld := congrArg List.length (hm.waiting e.outboundPackets)
  simp only [List.length_append] at hheld
  obtain ⟨hrc,hnone,hslot,-⟩ | ⟨sent,unsent,hsent,hunsent,-,hout⟩ | ⟨hkept,hsent,hout⟩ :=
    Engine.submit_cases e request rc d' response m hm.outcome
  · rw [hm.demand, if_pos ⟨hrc,hnone,hslot⟩] at h
    simp only [hnone, hslot, hm.silent hslot, Option.toList_none, List.length_nil,
      List.length_append] at h hheld
    omega
  · have hlen := congrArg List.length hsent
    have := List.length_pos_iff.mpr hunsent
    rw [hout, hm.accepted]
    simp only [Engine.held_carrying, Relay.held, List.length_append] at hlen ⊢
    omega
  · rw [hm.demand, if_neg hkept] at h
    rw [hout, hm.accepted]
    unfold Engine.closingTick
    dsimp only
    by_cases hroom : e.outboundPackets.length+(response.toList ++ posting.packets).length ≤
        maxOutboundPackets
    · rw [hm.forwarded e.outboundPackets hroom]
      obtain ⟨flushes,ns,d'',-,-,hproduced,hengine⟩ := tick_forwards d'
        (e.outboundPackets ++ (response.toList ++ posting.packets)) 0 hm.quiet
      rw [← served_carrying d' (e.outboundPackets ++ (response.toList ++ posting.packets)) 0,
        hproduced] at h
      have hoverflow := forward_overflow
        ⟨ns,e.outboundPackets ++ (response.toList ++ posting.packets)⟩
        (by simp only [List.length_append] at h ⊢; omega)
        (by simpa only [List.length_append] using hroom)
      rw [hengine, hproduced, Engine.held_carrying]
      simp only [Relay.held, List.length_append] at hoverflow ⊢
      omega
    · have hflush := forward_overflow
        ⟨m.pending,e.outboundPackets ++ (response.toList ++ m.slot.toList)⟩
        (by simp only [List.length_append] at hroom ⊢; omega)
        (by simpa only [List.length_append] using hsent hfull)
      have htick := Engine.tick_held d' (Relay.forward maxOutboundPackets
        ⟨m.pending,e.outboundPackets ++ (response.toList ++ m.slot.toList)⟩) 0
      rw [flushed_prompt _ _ hm.quiet.prompt]
      simp only [Relay.held, List.length_append] at hflush htick ⊢
      omega

/-- A call of a quiet device that does not fit loses a packet. -/
theorem step_overflow {r : Run} {op : Op} (hq : r.engine.device.Quiet)
    (hfull : r.engine.outboundPackets.length ≤ maxOutboundPackets) (h : ¬ r.Fits op) :
    (r.step op).carried.length+r.produced.length <
      r.carried.length+(r.step op).produced.length := by
  rw [carried_length, carried_length]
  have hheld : r.engine.held = r.engine.outboundPackets := by
    rw [Engine.held, Engine.lines, hq.idle]
    exact List.append_nil _
  rw [hheld]
  cases op with
  | dequeue => exact absurd trivial h
  | submit request =>
    have := submit_overflow request hq hfull (Nat.lt_of_not_le h)
    simp only [step_submit, after, List.length_append]
    omega
  | tick elapsedMs =>
    obtain ⟨flushes,ns,d',-,-,hproduced,hengine⟩ := tick_forwards r.engine.device
      r.engine.outboundPackets elapsedMs hq
    have hlen : maxOutboundPackets < r.engine.outboundPackets.length+ns.length := by
      have hns : ns.length = r.engine.device.demand (.tick elapsedMs) := by
        rw [← hproduced, carrying_idle hq.idle]
        exact congrArg List.length
          (Engine.tick_produced ⟨r.engine.device,[]⟩ r.engine rfl elapsedMs)
      rw [hns]
      exact Nat.lt_of_not_le h
    have hoverflow := forward_overflow ⟨ns,r.engine.outboundPackets⟩ hlen hfull
    rw [carrying_idle hq.idle] at hproduced hengine
    have hstep : r.step (.tick elapsedMs) = r.after (r.engine.tick elapsedMs) := rfl
    simp only [hstep, after, hengine, hproduced, Engine.held_carrying, Relay.held,
      List.length_append] at hoverflow ⊢
    omega

theorem step_outbound {r : Run} {op : Op}
    (hfull : r.engine.outboundPackets.length ≤ maxOutboundPackets) :
    (r.step op).engine.outboundPackets.length ≤ maxOutboundPackets := by
  cases op with
  | submit request => exact r.engine.submit_outbound request hfull
  | tick elapsedMs => exact Engine.tick_outbound r.engine.device r.engine.lines elapsedMs hfull
  | dequeue =>
    cases h : r.engine.outboundPackets with
    | nil => rwa [step_dequeue_nil h]
    | cons packet rest =>
      rw [step_dequeue_cons h]
      rw [h, List.length_cons] at hfull
      exact Nat.le_of_succ_le hfull

/-- A call that fits keeps the device quiet and every packet carried. -/
theorem Conserved.step {r : Run} {op : Op} (h : r.Conserved) (hq : r.engine.device.Quiet)
    (hfits : r.Fits op) : (r.step op).Conserved ∧ (r.step op).engine.device.Quiet := by
  obtain ⟨ns,-,hidle,hemitted,hproduced⟩ := r.step_called op hfits hq
  have hcarried : ∀ r : Run, r.engine.device.pendingNotifications = [] →
      r.carried = r.emitted := fun r hr => by rw [carried, hr, List.append_nil, emitted]
  refine ⟨?_,⟨(step_scenario r op).symm ▸ hq.prompt,hidle⟩⟩
  rw [Conserved, hproduced, hcarried _ hidle, hemitted, ← hcarried _ hq.idle]
  exact h.append_right ns

theorem run_conserved (r : Run) (ops : List Op) (h : r.Conserved) (hq : r.engine.device.Quiet)
    (hfull : r.engine.outboundPackets.length ≤ maxOutboundPackets) :
    (Runs.run step r ops).Conserved ↔ Runs.Along step Fits r ops := by
  induction ops generalizing r with
  | nil => exact ⟨fun _ => trivial,fun _ => h⟩
  | cons op ops ih =>
    by_cases hfits : r.Fits op
    · obtain ⟨hconserved,hquiet⟩ := h.step hq hfits
      rw [Runs.run, ih (r.step op) hconserved hquiet (step_outbound hfull)]
      exact ⟨fun halong => ⟨hfits,halong⟩,fun halong => halong.2⟩
    · refine ⟨fun hconserved => ?_,fun halong => absurd halong.1 hfits⟩
      -- What is lost here is missing at the end of the run.
      have hstep := step_overflow hq hfull hfits
      have hrun := (r.step op).run_carried ops
      have hbefore := h.length_eq
      have hafter := hconserved.length_eq
      simp only [Runs.run] at hafter
      omega

end Run

/-- In a scenario that does not defer, with resets or without, every packet made is carried
exactly once if and only if every call of the run finds room for what it makes. -/
theorem packets_conserved (profile : Profile) (scenario : Scenario)
    (hs : scenario ≠ .delayedNotifications) (ops : List Op) :
    (Run.reached profile scenario ops).Conserved ↔ Run.Along profile scenario Run.Fits ops :=
  (Run.init profile scenario).run_conserved ops (List.Perm.refl _) ⟨hs,rfl⟩ (Nat.zero_le _)

instance (r : Run) : Decidable r.Conserved := inferInstanceAs (Decidable (List.Perm _ _))

theorem packets_conserved_full :
    (Run.reached defaultProfile .rangingStream
      (List.replicate 16 (.submit getCountRequest) ++ [.dequeue, .dequeue,
        .submit (initRequest 1)])).Conserved :=
  (packets_conserved defaultProfile .rangingStream (by decide) _).mpr (by decide +kernel)

/-- With fifteen packets outbound the flush takes the status of a data message out of the
pending queue and drops it. -/
theorem flush_drops_status :
    ¬ (Run.reached defaultProfile .default ([.submit (initRequest 1), .submit (startRequest 1)] ++
      List.replicate 11 (.submit getCountRequest) ++ [.submit (dataMessage 1 0)])).Conserved := by
  decide +kernel

end UciSim
