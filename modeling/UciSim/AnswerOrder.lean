import UciSim.CommandReplies
import UciSim.DeferredOrder

/-!
# The order of the answers

Every command is answered by one response with its identifiers. What the host is
sent of the responses are, in order, the answers to the commands submitted. An
answer is lost only when its command finds the outbound queue full.
-/

set_option autoImplicit false

namespace UciSim

open Exchange

/-- The identifiers of the responses among the packets. -/
def answerIds (packets : List Packet) : List (UInt8 × UInt8) :=
  packets.filterMap fun n => if n.mt = mtResponse then some (n.gid,n.oid) else none

/-- The identifiers of the command that a call submits. -/
def Op.asks : Op → List (UInt8 × UInt8)
  | .submit request => if request.mt = mtCommand then [(request.gid,request.oid)] else []
  | _ => []

theorem answer_ids_append (ns ms : List Packet) :
    answerIds (ns ++ ms) = answerIds ns ++ answerIds ms := List.filterMap_append

theorem answer_ids_notices {ns : List Packet} (h : ∀ n ∈ ns, n.mt = mtNotification) :
    answerIds ns = [] := by
  refine List.filterMap_eq_nil_iff.mpr fun n hn => ?_
  rw [h n hn]
  rfl

theorem Replied.response {d : Device} {request : Packet} {outcome : Rc × Exchange}
    (h : Replied d request outcome) : ∃ payload, outcome.2.result.response =
      some ⟨mtResponse,pbfComplete,request.gid,request.oid,payload⟩ := by
  cases h with
  | granted rest d' ns => exact ⟨_,answered_response _ _ _⟩
  | refused | judged | capabilities => exact ⟨_,rfl⟩

theorem response_ids (d : Device) (request : Packet) :
    answerIds (d.handlePacket request).2.result.response.toList = (Op.submit request).asks := by
  by_cases hcommand : request.mt = mtCommand
  · obtain ⟨payload,hresponse⟩ := (dispatch_command_replied d request).response
    rw [handle_command_response d request hcommand, hresponse, Op.asks, if_pos hcommand]
    rfl
  · have hnone : (d.handlePacket request).2.result.response = none := by
      by_cases hdata : request.mt = mtData
      · obtain ⟨rc,response,posting,d',hserved,hx⟩ :=
          handle_packet_served d request (Or.inl hdata)
        rw [posted_finalized] at hx
        rw [hx]
        cases hserved with
        | command _ _ _ _ mt => exact absurd mt hcommand
        | data => rfl
      · rw [handle_packet_other d request hdata hcommand]
        rfl
    rw [hnone, Op.asks, if_neg hcommand]
    rfl

theorem change_notifies {d d' : Device} {request : Packet} {ns : List Packet}
    (h : Change d request ns d') : ∀ n ∈ ns, n.mt = mtNotification := by
  intro n hn
  cases h with
  | housekept | edited | configured => cases hn
  | linked | reported | opened | closed | moved | reset =>
    rw [List.mem_singleton.mp hn]
    rfl

theorem served_notifies {d d' : Device} {request : Packet} {response : Option Packet}
    {posting : Posting} (h : Served d request response posting d') :
    ∀ n ∈ posting.packets, n.mt = mtNotification := by
  cases h with
  | data posting _ _ change => exact fun n hn => ((data_change_announces change).2.2 n hn).1
  | command response ns errors _ _ _ change error =>
    intro n hn
    rcases List.mem_append.mp hn with hn | hn
    · exact change_notifies change n hn
    · rcases error with rfl | ⟨status,rfl⟩
      · cases hn
      · rw [List.mem_singleton.mp hn]
        rfl

theorem handled_notifies {d : Device} (request : Packet)
    (h : ∀ n ∈ d.pendingNotifications, n.mt = mtNotification) :
    ∀ n ∈ Mailbox.held (d.handlePacket request).2.mail, n.mt = mtNotification := by
  by_cases hmt : request.mt = mtData ∨ request.mt = mtCommand
  · obtain ⟨rc,response,posting,d',hserved,hx⟩ := handle_packet_served d request hmt
    rw [posted_finalized] at hx
    rw [hx]
    intro n hn
    rcases settled_held_mem hn with hn | hn
    · rcases served_pending hserved with hpending | ⟨-,hpending⟩
      · exact h n (hpending ▸ hn)
      · rw [hpending] at hn
        cases hn
    · exact served_notifies hserved n hn
  · obtain ⟨hdata,hcommand⟩ := not_or.mp hmt
    rw [handle_packet_other d request hdata hcommand]
    exact h

theorem events_post_notices (d : Device) : d.EventsPost fun n => n.mt = mtNotification where
  range _ _ := rfl
  idle _ _ := rfl
  credit _ := rfl
  status _ _ _ _ _ := rfl

/-- The second lines send notifications after the first. -/
def Sends (l l' : Lines) : Prop :=
  ∃ ns, (∀ n ∈ ns, n.mt = mtNotification) ∧ l'.outbound = l.outbound ++ ns

theorem flushed_sends (scenario : Scenario) (l : Lines)
    (h : ∀ n ∈ l.waiting, n.mt = mtNotification) : Sends l (flushedLines scenario l) := by
  unfold flushedLines
  split
  · exact ⟨[],List.forall_mem_nil _,(List.append_nil _).symm⟩
  · exact ⟨_,fun n hn => h n (List.mem_of_mem_take hn),rfl⟩

theorem tick_sends (d : Device) (l : Lines) (elapsedMs : UInt32)
    (h : ∀ n ∈ l.waiting, n.mt = mtNotification) :
    Sends l ((d.carrying l).tick elapsedMs).engine.lines := by
  obtain ⟨flushes,ns,d',hticked,hengine,-⟩ := Engine.tick_ticked d l elapsedMs
  have hqueued : ∀ n ∈ (queuedLines l ns).waiting, n.mt = mtNotification := by
    intro n hn
    rcases queued_lines_mem hn with hn | hn
    · exact h n hn
    · exact (events_post_notices _).ticked hticked n hn
  rw [hengine]
  cases flushes with
  | true => exact flushed_sends d.scenario _ hqueued
  | false => exact ⟨[],List.forall_mem_nil _,(List.append_nil _).symm⟩

namespace Run

/-- Only notifications wait, and the outbound queue is within its capacity. -/
structure Noticing (r : Run) : Prop where
  outbound : r.engine.outboundPackets.length ≤ maxOutboundPackets
  waiting : ∀ n ∈ r.engine.device.pendingNotifications, n.mt = mtNotification

theorem Noticing.step {r : Run} (h : r.Noticing) (op : Op) : (r.step op).Noticing where
  outbound := step_outbound h.outbound
  waiting := r.step_pending op (events_post_notices _)
    (fun request _ n hn => handled_notifies request h.waiting n (List.mem_append_right _ hn))
    h.waiting

/-- A command submitted finds room for its response. -/
def Answerable (r : Run) : Op → Prop
  | .submit request => request.mt = mtCommand →
      r.engine.outboundPackets.length < maxOutboundPackets
  | _ => True

instance (r : Run) : (op : Op) → Decidable (r.Answerable op)
  | .submit _ => inferInstanceAs (Decidable (_ → _))
  | .tick _ => isTrue trivial
  | .dequeue => isTrue trivial

theorem sent_ids (r r' : Run) {sent : List Packet} (hd : r'.delivered = r.delivered)
    (hout : r'.engine.outboundPackets = r.engine.outboundPackets ++ sent) :
    answerIds r'.emitted = answerIds r.emitted ++ answerIds sent := by
  rw [emitted, emitted, hd, hout, ← List.append_assoc, answer_ids_append]

theorem handed_ids {r : Run} (h : r.Noticing) (request : Packet) :
    answerIds (r.engine.handed request) = (Op.submit request).asks := by
  have hslot : answerIds (r.engine.device.handlePacket request).2.result.notification.toList =
      [] := answer_ids_notices fun n hn =>
    handled_notifies request h.waiting n (List.mem_append_left _ hn)
  rw [Engine.handed, answer_ids_append, response_ids, hslot, List.append_nil]

theorem submit_sends {r : Run} (h : r.Noticing) {request : Packet}
    (hnoisy : ¬ ((r.engine.device.handlePacket request).1 = .err ∧ r.engine.handed request = []))
    (hfits : r.engine.outboundPackets.length+(r.engine.handed request).length ≤
      maxOutboundPackets) :
    ∃ ns, (∀ n ∈ ns, n.mt = mtNotification) ∧
      (r.step (.submit request)).engine.outboundPackets =
        r.engine.outboundPackets ++ (r.engine.handed request ++ ns) := by
  have hengine := (Engine.submit_closed (Engine.closing_fits hnoisy hfits)).2
  have hwaiting : ∀ n ∈ (r.engine.device.handlePacket request).2.device.pendingNotifications,
      n.mt = mtNotification := fun n hn =>
    handled_notifies request h.waiting n (List.mem_append_right _ hn)
  obtain ⟨flushed,hflushed,hout⟩ := flushed_sends
    (r.engine.device.handlePacket request).2.device.scenario
    ⟨_,r.engine.outboundPackets ++ r.engine.handed request⟩ hwaiting
  obtain ⟨ticked,hticked,hout'⟩ := tick_sends (r.engine.device.handlePacket request).2.device
    (flushedLines _ ⟨_,r.engine.outboundPackets ++ r.engine.handed request⟩) 0
    (fun n hn => hwaiting n (flushed_lines_mem hn))
  refine ⟨flushed ++ ticked,?_,?_⟩
  · exact fun n hn => (List.mem_append.mp hn).elim (hflushed n) (hticked n)
  rw [step_submit, after]
  dsimp only
  rw [hengine]
  refine hout'.trans ?_
  rw [hout]
  simp only [List.append_assoc]

theorem handed_command {r : Run} (h : r.Noticing) {request : Packet}
    (hcommand : request.mt = mtCommand) : 0 < (r.engine.handed request).length := by
  have hids := handed_ids h request
  refine List.length_pos_iff.mpr fun hnothing => ?_
  rw [hnothing, Op.asks, if_pos hcommand] at hids
  cases hids

theorem handed_take_ids {r : Run} (h : r.Noticing) {request : Packet} {k : ℕ} (hk : 0 < k) :
    answerIds ((r.engine.handed request).take k) = (Op.submit request).asks := by
  rw [← handed_ids h request]
  have hslot : ∀ n ∈ (r.engine.device.handlePacket request).2.result.notification.toList,
      n.mt = mtNotification := fun n hn =>
    handled_notifies request h.waiting n (List.mem_append_left _ hn)
  unfold Engine.handed
  generalize (r.engine.device.handlePacket request).2.result.response = response
  have hresponse : response.toList.take k = response.toList := by
    refine List.take_of_length_le ?_
    cases response with
    | none => exact Nat.zero_le _
    | some _ => exact hk
  rw [List.take_append, answer_ids_append, answer_ids_append, hresponse, answer_ids_notices hslot,
    answer_ids_notices fun n hn => hslot n (List.mem_of_mem_take hn)]

theorem step_answers {r : Run} (h : r.Noticing) (op : Op) :
    answerIds (r.step op).emitted =
      answerIds r.emitted ++ if r.Answerable op then op.asks else [] := by
  cases op with
  | tick elapsedMs =>
    obtain ⟨ns,hns,hout⟩ := tick_sends r.engine.device r.engine.lines elapsedMs h.waiting
    rw [sent_ids r (r.step (.tick elapsedMs)) rfl hout, answer_ids_notices hns]
    rfl
  | dequeue =>
    rw [step_dequeue_emitted]
    exact (List.append_nil _).symm
  | submit request =>
    by_cases hsilent : (r.engine.device.handlePacket request).1 = .err ∧
        r.engine.handed request = []
    · have hout : (r.step (.submit request)).engine.outboundPackets =
          r.engine.outboundPackets ++ [] := by
        rw [step_submit, after, List.append_nil]
        dsimp only
        rw [Engine.submit_silent hsilent]
      have hids := handed_ids h request
      rw [hsilent.2] at hids
      rw [sent_ids r (r.step (.submit request)) rfl hout, ← hids]
      exact congrArg _ (ite_self _).symm
    by_cases hfits : r.engine.outboundPackets.length+(r.engine.handed request).length ≤
        maxOutboundPackets
    · obtain ⟨ns,hns,hout⟩ := submit_sends h hsilent hfits
      have hroom : r.Answerable (.submit request) := fun hcommand =>
        lt_of_lt_of_le (Nat.lt_add_of_pos_right (handed_command h hcommand)) hfits
      rw [sent_ids r (r.step (.submit request)) rfl hout, answer_ids_append,
        answer_ids_notices hns, List.append_nil, handed_ids h request, if_pos hroom]
    · have hlen := h.outbound
      have hout : (r.step (.submit request)).engine.outboundPackets =
          r.engine.outboundPackets ++ (r.engine.handed request).take
            (maxOutboundPackets-r.engine.outboundPackets.length) := by
        refine (congrArg Engine.outboundPackets
          (Engine.submit_overflow hlen hsilent (Nat.lt_of_not_le hfits)).2).trans ?_
        rw [List.take_append, List.take_of_length_le hlen]
      rw [sent_ids r (r.step (.submit request)) rfl hout]
      by_cases hfull : r.engine.outboundPackets.length < maxOutboundPackets
      · have hroom : r.Answerable (.submit request) := fun _ => hfull
        rw [handed_take_ids h (Nat.sub_pos_of_lt hfull), if_pos hroom]
      · rw [Nat.sub_eq_zero_of_le (Nat.le_of_not_lt hfull), List.take_zero]
        by_cases hcommand : request.mt = mtCommand
        · have hroom : ¬ r.Answerable (.submit request) := fun hroom => hfull (hroom hcommand)
          rw [if_neg hroom]
          rfl
        · rw [Op.asks, if_neg hcommand, ite_self]
          rfl

theorem asked_history (r : Run) (ops : List Op) :
    Losses.history step (fun _ op => op.asks) r ops = ops.flatMap Op.asks := by
  induction ops generalizing r with
  | nil => rfl
  | cons op ops ih => rw [Losses.history, ih, List.flatMap_cons]

theorem step_stores_answer {r : Run} (h : r.Noticing) (op : Op) :
    Losses.Stores step (fun _ op => op.asks) (fun r => answerIds r.emitted) Answerable r op := by
  have hanswers := step_answers h op
  constructor
  · rw [hanswers]
    refine List.Sublist.append_left ?_ _
    split
    · exact List.Sublist.refl _
    · exact List.nil_sublist _
  · intro hroom
    rw [hanswers, if_pos hroom]
  · intro hroom
    rw [hanswers, if_neg hroom, List.append_nil, List.length_append]
    refine Nat.lt_add_of_pos_right ?_
    cases op with
    | submit request =>
      have hcommand : request.mt = mtCommand := by
        by_contra hother
        exact hroom fun hcommand => absurd hcommand hother
      rw [Op.asks, if_pos hcommand]
      exact Nat.one_pos
    | tick | dequeue => exact absurd trivial hroom

theorem answers_stored (profile : Profile) (scenario : Scenario) (ops : List Op) :
    (answerIds (reached profile scenario ops).emitted).Sublist
        (Losses.history step (fun _ op => op.asks) (init profile scenario) ops) ∧
      (answerIds (reached profile scenario ops).emitted =
          Losses.history step (fun _ op => op.asks) (init profile scenario) ops ↔
        Along profile scenario Answerable ops) := by
  have hinit : (init profile scenario).Noticing := ⟨Nat.zero_le _,List.forall_mem_nil _⟩
  have hstep : ∀ (r : Run) op, r.Noticing → True → (r.step op).Noticing :=
    fun _ op hr _ => hr.step op
  have hstores : ∀ (r : Run) op, r.Noticing → True → Losses.Stores step (fun _ op => op.asks)
      (fun r => answerIds r.emitted) Answerable r op :=
    fun _ op hr _ => step_stores_answer hr op
  have halong : Runs.Along step (fun _ _ => True) (init profile scenario) ops :=
    Runs.along_of_forall (fun _ _ => trivial) _ _
  exact ⟨Losses.run_sublist hstep hstores _ ops hinit halong,
    Losses.run_complete hstep hstores _ ops hinit halong⟩

end Run

/-- In every run of every scenario the responses the host is sent are, in order, answers to the
commands submitted, and they answer each of them exactly once if and only if no command was
submitted while the outbound queue was full. -/
theorem commands_answered_in_order (profile : Profile) (scenario : Scenario) (ops : List Op) :
    (answerIds (Run.reached profile scenario ops).emitted).Sublist (ops.flatMap Op.asks) ∧
      (answerIds (Run.reached profile scenario ops).emitted = ops.flatMap Op.asks ↔
        Run.Along profile scenario Run.Answerable ops) := by
  rw [← Run.asked_history (Run.init profile scenario) ops]
  exact Run.answers_stored profile scenario ops

end UciSim
