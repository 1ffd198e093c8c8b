import UciSim.CommandReplies
import UciSim.Conservation
import UciSim.Transmission

/-!
# Delivery of the engine's packets

Every packet the engine holds is a complete response or notification. The TCP
transport delivers each of them whatever its length, the chardev those whose
payload fits one control packet.
-/

set_option autoImplicit false

namespace UciSim

open Exchange

/-- A response or notification that is not a fragment. -/
def Packet.Whole (n : Packet) : Prop :=
  (n.mt = mtResponse ∨ n.mt = mtNotification) ∧ n.pbf = pbfComplete

theorem notification_whole (gid oid : UInt8) (payload : List UInt8) :
    (Packet.notification gid oid payload).Whole := ⟨Or.inr rfl,rfl⟩

theorem change_whole {d d' : Device} {request : Packet} {ns : List Packet}
    (h : Change d request ns d') : ∀ n ∈ ns, n.Whole := by
  intro n hn
  cases h with
  | housekept | edited | configured => cases hn
  | linked | reported | opened | closed | moved | reset =>
    rw [List.mem_singleton.mp hn]
    exact notification_whole _ _ _

theorem data_change_whole {d d' : Device} {request : Packet} {posting : Posting}
    (h : DataChange d request posting d') : ∀ n ∈ posting.packets, n.Whole := by
  intro n hn
  cases h with
  | ignored | begun | unscheduled => cases hn
  | refused =>
    rw [List.mem_singleton.mp hn]
    exact notification_whole _ _ _
  | repeated | completed =>
    rcases List.mem_pair.mp hn with rfl | rfl
    · exact notification_whole _ _ _
    · exact notification_whole _ _ _

theorem served_whole {d d' : Device} {request : Packet} {response : Option Packet}
    {posting : Posting} (h : Served d request response posting d') :
    ∀ n ∈ posting.packets, n.Whole := by
  cases h with
  | data posting _ _ change => exact data_change_whole change
  | command response ns errors _ _ _ change error =>
    intro n hn
    rcases List.mem_append.mp hn with hn | hn
    · exact change_whole change n hn
    · rcases error with rfl | ⟨status,rfl⟩
      · cases hn
      · rw [List.mem_singleton.mp hn]
        exact notification_whole _ _ _

theorem replied_whole {d : Device} {request : Packet} {outcome : Rc × Exchange}
    (h : Replied d request outcome) : ∀ n ∈ outcome.2.result.response, n.Whole := by
  intro n hn
  cases h with
  | refused | judged | capabilities =>
    cases hn
    exact ⟨Or.inl rfl,rfl⟩
  | granted rest d' ns =>
    rw [answered_response] at hn
    cases hn
    exact ⟨Or.inl rfl,rfl⟩

/-- What a packet leaves in the slot and in the queue, and its response. -/
theorem handled_whole {d : Device} (request : Packet) (h : ∀ n ∈ d.pendingNotifications, n.Whole) :
    (∀ n ∈ (d.handlePacket request).2.result.response, n.Whole) ∧
      ∀ n ∈ Mailbox.held (d.handlePacket request).2.mail, n.Whole := by
  by_cases hmt : request.mt = mtData ∨ request.mt = mtCommand
  · rcases handle_packet_served d request hmt with ⟨rc,response,posting,d',hserved,hx⟩
    rw [posted_finalized] at hx
    constructor
    · by_cases hcommand : request.mt = mtCommand
      · rw [handle_command_response d request hcommand]
        exact replied_whole (dispatch_command_replied d request)
      · cases hserved with
        | command _ _ _ _ mt => exact absurd mt hcommand
        | data =>
          rw [hx]
          exact fun n hn => absurd hn (by simp)
    · rw [hx]
      intro n hn
      rcases settled_held_mem hn with hn | hn
      · rcases served_pending hserved with hpending | ⟨-,hpending⟩
        · exact h n (hpending ▸ hn)
        · rw [hpending] at hn
          cases hn
      · exact served_whole hserved n hn
  · rcases not_or.mp hmt with ⟨hdata,hcommand⟩
    rw [handle_packet_other d request hdata hcommand]
    exact ⟨fun n hn => absurd hn (by simp [start]),h⟩

theorem events_post_whole (d : Device) : d.EventsPost Packet.Whole where
  range _ _ := notification_whole _ _ _
  idle _ _ := notification_whole _ _ _
  credit _ := notification_whole _ _ _
  status _ _ _ _ _ := notification_whole _ _ _

theorem flushed_held_mem {scenario : Scenario} {l : Lines} {n : Packet}
    (h : n ∈ Relay.held (flushedLines scenario l)) : n ∈ Relay.held l := by
  unfold flushedLines at h
  split at h
  · exact h
  · exact (Relay.forward_held maxOutboundPackets l).mem_iff.mpr (List.mem_append_left _ h)

theorem queued_held_mem {l : Lines} {ns : List Packet} {n : Packet}
    (h : n ∈ Relay.held (queuedLines l ns)) : n ∈ Relay.held l ∨ n ∈ ns := by
  rcases List.mem_append.mp h with h | h
  · exact Or.inl (List.mem_append_left _ h)
  · rcases queued_lines_mem h with h | h
    · exact Or.inl (List.mem_append_right _ h)
    · exact Or.inr h

namespace Engine

def HoldsWhole (e : Engine) : Prop := ∀ n ∈ e.held, n.Whole

theorem tick_whole (d : Device) (l : Lines) (elapsedMs : UInt32)
    (h : ∀ n ∈ Relay.held l, n.Whole) : ((d.carrying l).tick elapsedMs).engine.HoldsWhole := by
  rcases tick_ticked d l elapsedMs with ⟨flushes,ns,d',hticked,hengine,-⟩
  have hqueued : ∀ n ∈ Relay.held (queuedLines l ns), n.Whole := by
    intro n hn
    rcases queued_held_mem hn with hn | hn
    · exact h n hn
    · exact (events_post_whole _).ticked hticked n hn
  rw [hengine]
  intro n hn
  cases flushes with
  | true => exact hqueued n (flushed_held_mem hn)
  | false => exact hqueued n hn

theorem submit_whole {e : Engine} (request : Packet) (h : e.HoldsWhole) :
    (e.submitPacket request).engine.HoldsWhole := by
  have hpending : ∀ n ∈ e.device.pendingNotifications, n.Whole :=
    fun n hn => h n (List.mem_append_right _ hn)
  rcases handled_whole request hpending with ⟨hresponse,hmail⟩
  have hlines : ∀ sent, (∀ n ∈ sent, n ∈ e.outboundPackets ++
      ((e.device.handlePacket request).2.result.response.toList ++
        (e.device.handlePacket request).2.mail.slot.toList)) →
      ∀ n ∈ Relay.held ⟨(e.device.handlePacket request).2.mail.pending,sent⟩, n.Whole := by
    intro sent hsent n hn
    rcases List.mem_append.mp hn with hn | hn
    · rcases List.mem_append.mp (hsent n hn) with hn | hn
      · exact h n (List.mem_append_left _ hn)
      · rcases List.mem_append.mp hn with hn | hn
        · exact hresponse n (Option.mem_toList.mp hn)
        · exact hmail n (List.mem_append_left _ hn)
    · exact hmail n (List.mem_append_right _ hn)
  have hcases := submit_cases e request (e.device.handlePacket request).1
    (e.device.handlePacket request).2.device (e.device.handlePacket request).2.result.response
    (e.device.handlePacket request).2.mail rfl
  rcases hcases with ⟨-,-,-,hout⟩ | ⟨sent,unsent,hsent,-,-,hout⟩ | ⟨-,-,hout⟩
  · rw [hout]
    exact hlines _ fun n hn => List.mem_append_left _ hn
  · rw [hout]
    exact hlines _ fun n hn => by
      rw [hsent]
      exact List.mem_append_left _ hn
  · rw [hout]
    exact tick_whole _ _ 0 fun n hn => hlines _ (fun _ => id) n (flushed_held_mem hn)

end Engine

theorem reached_whole {profile : Profile} {scenario : Scenario} (ops : List Op) :
    (Run.reached profile scenario ops).engine.HoldsWhole := by
  have hstep : ∀ (r : Run) (op : Op), r.engine.HoldsWhole → (r.step op).engine.HoldsWhole := by
    intro r op hr
    cases op with
    | submit request => exact Engine.submit_whole request hr
    | tick elapsedMs => exact Engine.tick_whole r.engine.device r.engine.lines elapsedMs hr
    | dequeue =>
      cases h : r.engine.outboundPackets with
      | nil => rwa [Run.step_dequeue_nil h]
      | cons packet rest =>
        rw [Run.step_dequeue_cons h]
        intro n hn
        refine hr n ?_
        rw [Engine.held, Relay.held, Engine.lines, h]
        exact List.mem_cons_of_mem packet hn
  exact Runs.invariant_of_all_steps (I := fun r : Run => r.engine.HoldsWhole) hstep _ ops
    fun _ hn => (List.not_mem_nil hn).elim

namespace Packet.Whole

variable {p : Packet}

theorem control (h : p.Whole) : p.mt ≠ mtData := by
  rcases h.1 with hmt | hmt <;> rw [hmt] <;> decide

theorem masked (h : p.Whole) : p.mt &&& 0x03 = p.mt := by
  rcases h.1 with hmt | hmt <;> rw [hmt] <;> rfl

theorem master_write (h : p.Whole) : (masterWrite p).isSome ↔ p.payload.length ≤ 255 := by
  rw [masterWrite, packet_serialize_eq]
  constructor
  · intro hsome
    split at hsome
    · rename_i hfits
      exact hfits.2.1.resolve_left h.control
    · cases hsome
  · intro hshort
    rw [if_pos]
    · rfl
    · simp only [maxPacket, maxPayload, headerSize]
      exact ⟨by omega,Or.inr hshort,by omega⟩

theorem send_short (h : p.payload.length ≤ 255) : sendToClient p = masterWrite p :=
  if_neg fun hlong => absurd h (Nat.not_le_of_lt hlong.2)

/-- The TCP transport delivers a whole packet of any length. -/
theorem send_delivers (h : p.Whole) :
    ∃ bytes, sendToClient p = some bytes ∧ Delivers bytes p.message [] := by
  by_cases hshort : p.payload.length ≤ 255
  · rcases Option.isSome_iff_exists.mp (h.master_write.mpr hshort) with ⟨bytes,hbytes⟩
    exact ⟨bytes,(send_short hshort).trans hbytes,serialize_delivers h.masked h.2 hbytes⟩
  · rw [sendToClient, if_pos ⟨h.control,by omega⟩]
    exact fragments_deliver h.masked _ 0 [] (by omega) (by omega)

theorem send_decode (h : p.Whole) : (sendToClient p).map hostDecode = some [p.message] := by
  rcases h.send_delivers with ⟨bytes,hsend,hdelivers⟩
  have hdecode := decode_delivered [(bytes,p.message)] (by simpa using hdelivers)
  rw [hsend, Option.map_some]
  simpa using hdecode

theorem decode_agrees (h : p.Whole) :
    (masterWrite p).map hostDecode = (sendToClient p).map hostDecode ↔
      p.payload.length ≤ 255 := by
  constructor
  · intro hsame
    rw [h.send_decode] at hsame
    rcases Option.map_eq_some_iff.mp hsame with ⟨bytes,hbytes,-⟩
    exact h.master_write.mp (Option.isSome_iff_exists.mpr ⟨bytes,hbytes⟩)
  · intro hshort
    rw [send_short hshort]

end Packet.Whole

namespace Engine

theorem flush_loop_ok (send : Packet → Option (List UInt8)) (turns : ℕ) (e : Engine)
    (hturns : e.outboundPackets.length < turns) :
    (e.flushLoopWith send turns).1 = .ok ↔ ∀ p ∈ e.outboundPackets, (send p).isSome := by
  induction turns generalizing e with
  | zero => omega
  | succ turns ih =>
    rw [flushLoopWith, dequeueOutboundPacket]
    cases hout : e.outboundPackets with
    | nil => simp
    | cons p rest =>
      rw [hout, List.length_cons] at hturns
      cases hsend : send p with
      | none => simp [hsend]
      | some wire => simpa [hsend] using ih { e with outboundPackets := rest } (by simp only; omega)

theorem flush_loop_congr {send send' : Packet → Option (List UInt8)} (turns : ℕ) (e : Engine)
    (h : ∀ p ∈ e.outboundPackets, send p = send' p) :
    e.flushLoopWith send turns = e.flushLoopWith send' turns := by
  induction turns generalizing e with
  | zero => rfl
  | succ turns ih =>
    rw [flushLoopWith, flushLoopWith, dequeueOutboundPacket]
    cases hout : e.outboundPackets with
    | nil => rfl
    | cons p rest =>
      simp only
      rw [h p (by rw [hout]; exact List.mem_cons_self),
        ih { e with outboundPackets := rest } fun q hq =>
          h q (by rw [hout]; exact List.mem_cons_of_mem p hq)]

/-- What a flush that fails nowhere writes. -/
theorem flush_loop_bytes {send : Packet → Option (List UInt8)} {written : Packet → List UInt8}
    (turns : ℕ) (e : Engine) (hturns : e.outboundPackets.length < turns)
    (h : ∀ p ∈ e.outboundPackets, send p = some (written p)) :
    (e.flushLoopWith send turns).2.1 = (e.outboundPackets.map written).flatten := by
  induction turns generalizing e with
  | zero => omega
  | succ turns ih =>
    rw [flushLoopWith, dequeueOutboundPacket]
    cases hout : e.outboundPackets with
    | nil => rfl
    | cons p rest =>
      rw [hout, List.length_cons] at hturns
      simp only
      rw [h p (by rw [hout]; exact List.mem_cons_self), List.map_cons, List.flatten_cons,
        ← ih { e with outboundPackets := rest } (by simp only; omega) fun q hq =>
          h q (by rw [hout]; exact List.mem_cons_of_mem p hq)]

theorem flush_delivers {e : Engine} (h : e.HoldsWhole) :
    e.flushToClient.1 = .ok ∧
      hostDecode e.flushToClient.2.1 = e.outboundPackets.map Packet.message := by
  have hwhole : ∀ p ∈ e.outboundPackets, p.Whole := fun p hp => h p (List.mem_append_left _ hp)
  have hsend : ∀ p ∈ e.outboundPackets, sendToClient p = some ((sendToClient p).getD []) := by
    intro p hp
    rcases (hwhole p hp).send_delivers with ⟨bytes,hbytes,-⟩
    rw [hbytes]
    rfl
  constructor
  · refine (flush_loop_ok sendToClient _ e (Nat.lt_succ_self _)).mpr fun p hp => ?_
    rw [hsend p hp]
    rfl
  · have hdecode := decode_delivered
      (e.outboundPackets.map fun p => ((sendToClient p).getD [],p.message)) ?_
    · rw [List.map_map, List.map_map] at hdecode
      rw [flushToClient, flush_loop_bytes _ e (Nat.lt_succ_self _) hsend]
      exact hdecode
    · intro d hd
      rcases List.mem_map.mp hd with ⟨p,hp,rfl⟩
      rcases (hwhole p hp).send_delivers with ⟨bytes,hbytes,hdelivers⟩
      show Delivers ((sendToClient p).getD []) p.message []
      rw [hbytes]
      exact hdelivers

theorem master_flush_agrees {e : Engine} (h : e.HoldsWhole) :
    e.masterFlush.1 = .ok ∧ hostDecode e.masterFlush.2.1 = hostDecode e.flushToClient.2.1 ↔
      ∀ p ∈ e.outboundPackets, p.payload.length ≤ 255 := by
  have hwhole : ∀ p ∈ e.outboundPackets, p.Whole := fun p hp => h p (List.mem_append_left _ hp)
  have hok := flush_loop_ok masterWrite _ e (Nat.lt_succ_self _)
  constructor
  · rintro ⟨hrc,-⟩ p hp
    exact (hwhole p hp).master_write.mp (hok.mp hrc p hp)
  · intro hshort
    constructor
    · exact hok.mpr fun p hp => (hwhole p hp).master_write.mpr (hshort p hp)
    · rw [masterFlush, flush_loop_congr _ e fun p hp =>
        (Packet.Whole.send_short (hshort p hp)).symm]
      rfl

end Engine

/-- In every reachable state the TCP transport delivers each outbound packet and the whole queue.
The chardev delivers the same exactly for payloads of at most 255 bytes, and its flush succeeds
exactly when no outbound packet has more. -/
theorem transports_deliver (profile : Profile) (scenario : Scenario) (ops : List Op) :
    let e := (Run.reached profile scenario ops).engine
    (∀ p ∈ e.outboundPackets, (sendToClient p).map hostDecode = some [p.message] ∧
      ((masterWrite p).map hostDecode = (sendToClient p).map hostDecode ↔
        p.payload.length ≤ 255)) ∧
      (e.flushToClient.1 = .ok ∧
        hostDecode e.flushToClient.2.1 = e.outboundPackets.map Packet.message) ∧
      (e.masterFlush.1 = .ok ∧ hostDecode e.masterFlush.2.1 = hostDecode e.flushToClient.2.1 ↔
        ∀ p ∈ e.outboundPackets, p.payload.length ≤ 255) := by
  intro e
  have hwhole : e.HoldsWhole := reached_whole ops
  refine ⟨?_,Engine.flush_delivers hwhole,Engine.master_flush_agrees hwhole⟩
  intro p hp
  have h := hwhole p (List.mem_append_left _ hp)
  exact ⟨h.send_decode,h.decode_agrees⟩

/-- The answer to a request for all parameters of a session is too long for the chardev. -/
theorem long_response_undelivered :
    (∃ p ∈ (Run.reached defaultProfile .default
        [.submit (initRequest 1),.submit (getAppConfigRequest 1 [])]).engine.outboundPackets,
      masterWrite p = none ∧ (sendToClient p).map hostDecode = some [p.message]) ∧
    (Run.reached defaultProfile .default
      [.submit (initRequest 1),.submit (getAppConfigRequest 1 [])]).engine.masterFlush.1 = .err := by
  decide +kernel

end UciSim
