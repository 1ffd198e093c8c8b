import UciSim.Unstreamed

/-!
# Deferral only delays

A packet does the same with a device that defers its notifications and with the prompt
device, which hands them over at once. So as long as the queues have room the two
scenarios change the device alike and answer alike, and what the deferring one has not
yet handed over waits.
-/

set_option autoImplicit false

namespace UciSim

open Exchange

section

variable {d d' d₂ : Device} {request : Packet} {posting : Posting}

theorem settled_idle {posting' : Posting} {k : ℕ}
    (h : posting.settled d k = posting'.settled d' k) (hidle : d'.pendingNotifications = []) :
    d.pendingNotifications = [] := by
  have hbalanced := settled_balanced d posting k
  have hbalanced' := settled_balanced d' posting' k
  rw [← h, hidle] at hbalanced'
  have hlen := (hbalanced.symm.trans hbalanced').length_eq
  rw [List.length_append, List.nil_append] at hlen
  exact List.length_eq_zero_iff.mp (by omega)

theorem finalized_inj {response response' : Option Packet} {posting' : Posting} {k : ℕ}
    (h : (posted d response posting).finalizeResult k =
      (posted d' response' posting').finalizeResult k)
    (hidle : d'.pendingNotifications = []) : d = d' ∧ response = response' := by
  rw [posted_finalized, posted_finalized] at h
  have hdevice := congrArg Exchange.device h
  have hresult := congrArg Exchange.result h
  have hmail : posting.settled d k = posting'.settled d' k := by
    have hpending := congrArg Device.pendingNotifications hdevice
    have hslot := congrArg Result.notification hresult
    have haccepted := congrArg Exchange.accepted h
    generalize posting.settled d k = m at hpending hslot haccepted
    generalize posting'.settled d' k = m' at hpending hslot haccepted
    obtain ⟨slot,pending,accepted⟩ := m
    cases hpending
    cases hslot
    cases haccepted
    rfl
  refine ⟨?_,congrArg Result.response hresult⟩
  rw [← idle_self (settled_idle hmail hidle), ← idle_self hidle]
  have hsame : (d.withPending (posting.settled d k).pending).withPending [] =
      (d'.withPending (posting'.settled d' k).pending).withPending [] :=
    congrArg (fun d : Device => d.withPending []) hdevice
  exact hsame

theorem settled_slot_prompt (hs : d.scenario ≠ .delayedNotifications)
    (hidle : d.pendingNotifications = []) (hshort : posting.packets.length ≤ 2) (k : ℕ) :
    (posting.settled d k).slot = none ↔ posting.packets = [] := by
  have hheld := (settled_uncongested d posting k hs hidle hshort).1
  constructor
  · intro hslot
    rw [← hheld]
    exact settled_silent d posting k hs hslot
  · intro hnothing
    rw [hnothing, Mailbox.held] at hheld
    exact Option.toList_eq_nil_iff.mp (List.append_eq_nil_iff.mp hheld).1

theorem settled_slot_deferred (hs : d.scenario = .delayedNotifications)
    (hidle : d.pendingNotifications = [])
    (hfails : posting = .queued [] ∨ ∃ n, posting = .placed n) (k : ℕ) :
    (posting.settled d k).slot = none ↔ posting.packets = [] := by
  obtain rfl | ⟨n,rfl⟩ := hfails
  · have hheld := settled_held d (.queued []) k
    rw [(mail_deferred d hs (Or.inr hidle)).1, hidle, Posting.packets, Device.takes,
      List.take_nil, List.append_nil, Mailbox.held] at hheld
    exact ⟨fun _ => rfl,fun _ => Option.toList_eq_nil_iff.mp (List.append_eq_nil_iff.mp hheld).1⟩
  · have hslot : ((Posting.placed n).settled d k).slot = some n := by
      unfold Posting.settled
      split
      · rfl
      · rfl
    rw [hslot]
    constructor
    · intro h
      cases h
    · intro h
      cases h

theorem settled_slot_waiting (hs : d.scenario = .delayedNotifications)
    (hwait : d.pendingNotifications ≠ []) :
    (posting.settled d d.pendingNotifications.length).slot ≠ none := by
  have hauto : d.scenario.shouldAutoDeliverPending d.pendingNotifications.length = true := by
    simpa [Scenario.shouldAutoDeliverPending, hs] using hwait
  rw [Posting.settled, if_pos hauto]
  by_cases hplaced : ∀ n, posting ≠ .placed n
  · rw [deferred_mail d hs hplaced]
    cases hp : d.pendingNotifications with
    | nil => exact absurd hp hwait
    | cons a rest => exact Option.some_ne_none _
  · obtain ⟨n,hn⟩ := not_forall.mp hplaced
    rw [not_not.mp hn]
    exact Option.some_ne_none _

end

/-- The device refuses a data message without a word: it is malformed, or its transfer is given
up for want of an event. -/
def Device.Ignores (d : Device) (request : Packet) : Prop :=
  request.mt = mtData ∧ ((d.withPending []).handlePacket request).1 = .err ∧
    d.generates request = []

instance (d : Device) (request : Packet) : Decidable (d.Ignores request) :=
  inferInstanceAs (Decidable (_ ∧ _ ∧ _))

def Device.Silent (d : Device) (request : Packet) : Prop :=
  (d.handlePacket request).1 = .err ∧ (d.handlePacket request).2.result.response = none ∧
    (d.handlePacket request).2.result.notification = none

/-- What a packet does to the prompt device, told by the one that defers. -/
structure Device.Prompts (d : Device) (request : Packet) : Prop where
  response : (d.prompted.handlePacket request).2.result.response =
    (d.handlePacket request).2.result.response
  device : (d.prompted.handlePacket request).2.device.withPending [] =
    (d.handlePacket request).2.device.prompted
  accepted : (d.prompted.handlePacket request).2.accepted = d.generates request
  silent : ¬ (d.Ignores request ∧ d.pendingNotifications ≠ []) →
    (d.prompted.Silent request ↔ d.Silent request)

theorem Device.prompts (d : Device) (request : Packet) (hs : d.scenario = .delayedNotifications)
    (hreset : ¬ d.AcceptsReset request) : d.Prompts request := by
  by_cases hmt : request.mt = mtData ∨ request.mt = mtCommand
  swap
  · obtain ⟨hdata,hcommand⟩ := not_or.mp hmt
    have hother : ∀ e : Device, e.handlePacket request = (.err,start e) := fun e =>
      handle_packet_other e request hdata hcommand
    constructor
    · rw [hother, hother]
      rfl
    · rw [hother, hother]
      rfl
    · rw [Device.generates, hother, hother]
      rfl
    · intro _
      unfold Device.Silent
      rw [hother, hother]
      rfl
  obtain ⟨response',posting',d',hscript⟩ :=
    packet_scripted (d.withPending []) d.pendingNotifications request hmt hreset
  obtain ⟨rc,response,posting,d₂,htwins⟩ :=
    packet_twins (d := d.withPending []) (s := .default)
      (by rw [Device.withPending_scenario, hs]; decide) (by decide) rfl hmt
  have hhere : (d.withPending []).handlePacket request =
      (rc,(posted d₂ response posting).finalizeResult 0) := htwins.here
  have hthere : d.prompted.handlePacket request =
      (rc,(posted (d₂.inScenario .default) response posting).finalizeResult 0) := htwins.there
  have hidle : d'.pendingNotifications = [] := hscript.same.pending
  obtain ⟨rfl,rfl⟩ := finalized_inj (k := 0)
    ((congrArg Prod.snd hhere).symm.trans hscript.here) hidle
  have hs₂ : d₂.scenario = .delayedNotifications := hscript.same.scenario.trans hs
  have hwaiting : (d.handlePacket request).2 = (posted (d₂.withPending d.pendingNotifications)
      response posting').finalizeResult d.pendingNotifications.length := hscript.there
  have hprompt : (d₂.inScenario .default).scenario ≠ .delayedNotifications :=
    show Scenario.default ≠ .delayedNotifications by decide
  have hgenerates : d.generates request = posting.packets := by
    rw [Device.generates, hhere, posted_finalized]
    dsimp only
    rw [settled_accepted, (mail_deferred d₂ hs₂ (Or.inr hidle)).2]
    refine Device.takes_all ?_
    rw [hidle]
    exact (Nat.add_le_add_left htwins.short 0).trans
      (show 0+2 ≤ maxPendingNotifications by decide)
  refine ⟨?_,?_,?_,?_⟩
  · rw [hthere, hwaiting, posted_finalized, posted_finalized]
  · rw [hthere, hwaiting, posted_finalized, posted_finalized]
    rfl
  · rw [hthere, hgenerates, posted_finalized]
    exact (settled_uncongested _ posting 0 hprompt hidle htwins.short).2
  · intro hheeds
    unfold Device.Silent
    have hslot : (d.prompted.handlePacket request).2.result.notification = none ↔
        posting.packets = [] := by
      rw [hthere, posted_finalized]
      exact settled_slot_prompt hprompt hidle htwins.short 0
    rw [hslot, hthere, posted_finalized]
    dsimp only
    by_cases hempty : d.pendingNotifications = []
    · rw [← idle_self hempty, hhere, posted_finalized]
      refine and_congr_right fun hrc => and_congr_right fun hnone => ?_
      exact (settled_slot_deferred hs₂ hidle (htwins.fails hrc hnone) 0).symm
    · rw [hwaiting, posted_finalized]
      have hhands : (posting'.settled (d₂.withPending d.pendingNotifications)
          d.pendingNotifications.length).slot ≠ none :=
        settled_slot_waiting (d := d₂.withPending d.pendingNotifications) hs₂ hempty
      refine ⟨fun hsilent => ?_,fun hsilent => absurd hsilent.2.2 hhands⟩
      refine absurd ⟨⟨?_,?_,?_⟩,hempty⟩ hheeds
      · exact htwins.answers hsilent.2.1
      · rw [hhere]
        exact hsilent.1
      · rw [hgenerates]
        exact hsilent.2.2

theorem Device.Prompts.call {d : Device} {request : Packet} (h : d.Prompts request)
    (hheeds : ¬ (d.Ignores request ∧ d.pendingNotifications ≠ [])) :
    let x := (d.handlePacket request).2
    let answers := x.result.response.toList ++ d.generates request
    (d.Silent request → d.prompted.call (.submit request) = (x.device.prompted,answers)) ∧
      (¬ d.Silent request → d.prompted.call (.submit request) =
        ((x.device.passes 0).prompted,answers ++ x.device.tickNotices 0)) := by
  have hsilent := h.silent hheeds
  rw [Device.Silent] at hsilent
  unfold Device.call
  dsimp only
  constructor
  · intro hnone
    rw [if_pos (hsilent.mpr hnone), h.device, h.accepted, h.response]
  · intro hsome
    rw [if_neg fun hnone => hsome (hsilent.mp hnone), h.device, h.accepted, h.response,
      ticked_prompted]

namespace Run

def responded (r : Run) : List Packet := r.emitted.filter fun n => n.mt = mtResponse

/-- The outbound queue takes everything the packet hands over, and the packet is not ignored
while notifications wait. -/
def Heeds (r : Run) : Op → Prop
  | .submit request =>
    r.engine.outboundPackets.length+(r.engine.handed request).length ≤ maxOutboundPackets ∧
      ¬ (r.engine.device.Ignores request ∧ r.engine.device.pendingNotifications ≠ [])
  | _ => True

/-- The call finds room for everything it makes, and nothing it makes overtakes or empties what
waits. -/
def KeepsUp (r : Run) (op : Op) : Prop := r.Orderly op ∧ r.HasRoom op ∧ r.Heeds op

instance (r : Run) : (op : Op) → Decidable (r.Heeds op)
  | .submit _ => inferInstanceAs (Decidable (_ ≤ _ ∧ ¬ (_ ∧ _)))
  | .tick _ => isTrue trivial
  | .dequeue => isTrue trivial

instance (r : Run) (op : Op) : Decidable (r.KeepsUp op) := inferInstanceAs (Decidable (_ ∧ _ ∧ _))

/-- The deferring run is behind the prompt one by the notifications that wait. -/
structure Lags (late prompt : Run) : Prop where
  deferring : late.Deferring
  device : prompt.engine.device = late.engine.device.prompted
  notified : prompt.notified = late.kept
  responded : prompt.responded = late.responded

namespace Lags

variable {late prompt : Run}

theorem quiet (h : late.Lags prompt) : prompt.engine.device.Quiet := by
  rw [h.device]
  exact ⟨show Scenario.default ≠ .delayedNotifications by decide,rfl⟩

theorem responses_of_notices {ns : List Packet} (h : ∀ n ∈ ns, n.mt = mtNotification) :
    ns.filter (fun n => n.mt = mtResponse) = [] :=
  List.filter_eq_nil_iff.mpr fun n hn => by
    rw [h n hn]
    decide

theorem next {op : Op} (h : late.Lags prompt) (hnext : (late.step op).Deferring)
    (hstores : Losses.Stores step generated Run.kept HasRoom late op) (hroom : late.HasRoom op)
    {rs ns sent sent' : List Packet} (hgenerated : late.generated op = ns)
    (hlate : (late.step op).emitted = late.emitted ++ sent)
    (hprompt : (prompt.step op).emitted = prompt.emitted ++ sent')
    (hrs : sent.filter (fun n => n.mt = mtResponse) = rs)
    (hrs' : sent'.filter (fun n => n.mt = mtResponse) = rs)
    (hns : sent'.filter (fun n => n.mt = mtNotification) = ns)
    (hdevice : (prompt.step op).engine.device = (late.step op).engine.device.prompted) :
    (late.step op).Lags (prompt.step op) where
  deferring := hnext
  device := hdevice
  notified := by
    have hsent : (prompt.step op).notified = prompt.notified ++ ns := by
      unfold Run.notified
      rw [hprompt, List.filter_append, hns]
    rw [hsent, hstores.complete hroom, hgenerated, h.notified]
  responded := by
    have hanswered : ∀ {r r' : Run} {sent : List Packet}, r'.emitted = r.emitted ++ sent →
        sent.filter (fun n => n.mt = mtResponse) = rs → r'.responded = r.responded ++ rs := by
      intro r r' sent hr hsent
      unfold Run.responded
      rw [hr, List.filter_append, hsent]
    rw [hanswered hprompt hrs', hanswered hlate hrs, h.responded]

theorem tick (h : late.Lags prompt) {elapsedMs : UInt32} (hop : late.KeepsUp (.tick elapsedMs))
    (hfits : prompt.Fits (.tick elapsedMs)) :
    (late.step (.tick elapsedMs)).Lags (prompt.step (.tick elapsedMs)) := by
  have hs := h.deferring.scenario
  have hstream : late.engine.device.scenario ≠ .rangingStream := by
    rw [hs]
    decide
  obtain ⟨hnext,hstores⟩ := tick_stores h.deferring elapsedMs
  obtain ⟨hdevice,hemitted⟩ := step_call hfits h.quiet
  rw [show prompt.engine.device.call (.tick elapsedMs) = prompt.engine.device.ticked elapsedMs
    from rfl, h.device, ticked_prompted] at hdevice hemitted
  have hroom : late.engine.device.pendingNotifications.length+
      (late.engine.device.tickNotices elapsedMs).length ≤ maxPendingNotifications := by
    rw [← served_deferred _ _ hs]
    exact hop.2.1
  have hkeeps : (late.step (.tick elapsedMs)).emitted = late.emitted ++ [] := by
    obtain ⟨d',-,hengine⟩ := tick_deferred late.engine.device late.engine.lines elapsedMs hs
    have hout : (late.step (.tick elapsedMs)).engine.outboundPackets =
        late.engine.outboundPackets := by
      have hlines := congrArg Engine.outboundPackets hengine
      exact hlines
    rw [List.append_nil, emitted, hout]
    rfl
  have hnotify := tick_notices_notify late.engine.device elapsedMs
  refine h.next hnext hstores hop.2.1 (served_deferred _ _ hs) hkeeps hemitted rfl
    (responses_of_notices hnotify) (filter_notifications hnotify) ?_
  exact hdevice.trans (tick_passes late.engine elapsedMs hstream hroom).1.symm

theorem dequeue (h : late.Lags prompt) : (late.step .dequeue).Lags (prompt.step .dequeue) := by
  obtain ⟨hnext,hstores⟩ := step_stores h.deferring .dequeue trivial
  refine h.next hnext hstores trivial rfl ((late.step_dequeue_emitted).trans
    (List.append_nil _).symm) ((prompt.step_dequeue_emitted).trans (List.append_nil _).symm)
    rfl rfl rfl ?_
  rw [step_dequeue_device, step_dequeue_device]
  exact h.device

theorem handed_responded (h : late.Deferring) {request : Packet}
    (hd : late.engine.device.Defers request) :
    (late.engine.handed request).filter (fun n => n.mt = mtResponse) =
      (late.engine.device.handlePacket request).2.result.response.toList := by
  have hslot := responses_of_notices fun n hn =>
    (packet_deferring h hd).2 n (List.mem_append_left _ hn)
  unfold Engine.handed
  rw [List.filter_append, hslot, List.append_nil]
  exact List.filter_eq_self.mpr fun n hn =>
    decide_eq_true (hd.responds n (Option.mem_toList.mp hn))

theorem submit (h : late.Lags prompt) {request : Packet} (hop : late.KeepsUp (.submit request))
    (hfits : prompt.Fits (.submit request)) :
    (late.step (.submit request)).Lags (prompt.step (.submit request)) := by
  have hs := h.deferring.scenario
  have hd := late.engine.device.defers request hs hop.1.1 hop.1.2
  have hp := late.engine.device.prompts request hs hop.1.1
  obtain ⟨hhands,hheeds⟩ := hop.2.2
  obtain ⟨hnext,hstores⟩ := step_stores h.deferring (.submit request) hop.1
  obtain ⟨hdevice,hemitted⟩ := step_call hfits h.quiet
  have hanswers : ∀ ns : List Packet, (∀ n ∈ ns, n.mt = mtNotification) →
      ((late.engine.device.handlePacket request).2.result.response.toList ++ ns).filter
          (fun n => n.mt = mtResponse) =
        (late.engine.device.handlePacket request).2.result.response.toList ∧
      ((late.engine.device.handlePacket request).2.result.response.toList ++ ns).filter
          (fun n => n.mt = mtNotification) = ns := by
    intro ns hns
    have hresponds : ∀ n ∈ (late.engine.device.handlePacket request).2.result.response.toList,
        n.mt = mtResponse := fun n hn => hd.responds n (Option.mem_toList.mp hn)
    rw [List.filter_append, List.filter_append, responses_of_notices hns, filter_notifications hns,
      filter_responses hresponds, List.append_nil]
    exact ⟨List.filter_eq_self.mpr fun n hn => decide_eq_true (hresponds n hn),rfl⟩
  obtain ⟨hquiet,hspeaks⟩ := hp.call hheeds
  rw [h.device] at hdevice hemitted
  have hout : (late.step (.submit request)).engine.outboundPackets =
      late.engine.outboundPackets ++ late.engine.handed request →
      (late.step (.submit request)).emitted = late.emitted ++ late.engine.handed request := by
    intro hsent
    rw [emitted, hsent, emitted, List.append_assoc]
    rfl
  by_cases hsilent : late.engine.device.Silent request
  · rw [hquiet hsilent] at hdevice hemitted
    have hnothing : late.engine.handed request = [] := by
      rw [Engine.handed, hsilent.2.1, hsilent.2.2]
      rfl
    have hclosing : late.engine.closing request = none := by
      cases hclosing : late.engine.closing request with
      | none => rfl
      | some closed =>
        exact absurd ⟨hsilent.1,hnothing⟩
          (Engine.fits_of_closing h.deferring.outbound hclosing).1
    have hengine : (late.step (.submit request)).engine =
        ⟨(late.engine.device.handlePacket request).2.device,late.engine.outboundPackets⟩ :=
      Engine.submit_silent ⟨hsilent.1,hnothing⟩
    obtain ⟨hrs,hns⟩ := hanswers (late.engine.device.generates request) hd.notifies
    refine h.next hnext hstores hop.2.1 ?_ (hout ?_) hemitted
      (handed_responded h.deferring hd) hrs hns ?_
    · rw [generated, Engine.closing_notices_none hclosing, List.append_nil]
    · rw [hengine, hnothing, List.append_nil]
    · rw [hdevice, hengine]
  · rw [hspeaks hsilent] at hdevice hemitted
    have hnoisy : ¬ ((late.engine.device.handlePacket request).1 = .err ∧
        late.engine.handed request = []) := by
      rintro ⟨hrc,hnothing⟩
      obtain ⟨hr,hn⟩ := List.append_eq_nil_iff.mp hnothing
      exact hsilent ⟨hrc,Option.toList_eq_nil_iff.mp hr,Option.toList_eq_nil_iff.mp hn⟩
    have hclosing := Engine.closing_fits hnoisy hhands
    rw [hd.scenario] at hclosing
    have hnotices : late.engine.closingNotices request =
        (late.engine.device.handlePacket request).2.device.tickNotices 0 := by
      unfold Engine.closingNotices
      rw [hclosing]
      exact served_deferred _ 0 hd.scenario
    have hengine := (Engine.submit_closed hclosing).2
    have hnotify := tick_notices_notify (late.engine.device.handlePacket request).2.device 0
    obtain ⟨hrs,hns⟩ := hanswers (late.engine.device.generates request ++
      (late.engine.device.handlePacket request).2.device.tickNotices 0) fun n hn =>
        (List.mem_append.mp hn).elim (hd.notifies n) (hnotify n)
    rw [← List.append_assoc] at hrs hns
    refine h.next hnext hstores hop.2.1 ?_ (hout ?_) hemitted
      (handed_responded h.deferring hd) hrs hns ?_
    · rw [generated, hnotices]
    · obtain ⟨d',-,hticked⟩ := tick_deferred (late.engine.device.handlePacket request).2.device
        ⟨(late.engine.device.handlePacket request).2.device.pendingNotifications,
          late.engine.outboundPackets ++ late.engine.handed request⟩ 0 hd.scenario
      exact congrArg Engine.outboundPackets (hengine.trans hticked)
    · have hroom := hop.2.1.2.2
      rw [hnotices] at hroom
      have hstream : (late.engine.device.handlePacket request).2.device.scenario ≠
          .rangingStream := by
        rw [hd.scenario]
        decide
      have hleft := (tick_passes ((late.engine.device.handlePacket
        request).2.device.carrying ⟨(late.engine.device.handlePacket
          request).2.device.pendingNotifications,
            late.engine.outboundPackets ++ late.engine.handed request⟩) 0 hstream hroom).1
      rw [hdevice]
      exact hleft.symm.trans (congrArg (fun e : Engine => e.device.prompted) hengine).symm

theorem step (h : late.Lags prompt) {op : Op} (hop : late.KeepsUp op) (hfits : prompt.Fits op) :
    (late.step op).Lags (prompt.step op) := by
  cases op with
  | submit request => exact h.submit hop hfits
  | tick elapsedMs => exact h.tick hop hfits
  | dequeue => exact h.dequeue

theorem run (h : late.Lags prompt) {ops : List Op}
    (hops : Runs.Along Run.step KeepsUp late ops) (hfits : Runs.Along Run.step Fits prompt ops) :
    (Runs.run Run.step late ops).Lags (Runs.run Run.step prompt ops) := by
  induction ops generalizing late prompt with
  | nil => exact h
  | cons op ops ih => exact ih (h.step hops.1 hfits.1) hops.2 hfits.2

end Lags

end Run

/-- The deferring scenario is the default one with its notifications late: as long as every call
finds room and nothing overtakes what waits, the same calls leave the same device in both, the
host is sent the same responses in the same order, and the notifications it is sent in the
default scenario are those it has been sent with deferral followed by those that still wait. -/
theorem deferral_only_delays (profile : Profile) (ops : List Op)
    (hlate : Run.Along profile .delayedNotifications Run.KeepsUp ops)
    (hprompt : Run.Along profile .default Run.Fits ops) :
    let late := Run.reached profile .delayedNotifications ops
    let prompt := Run.reached profile .default ops
    prompt.engine.device = late.engine.device.prompted ∧
      prompt.responded = late.responded ∧
      prompt.notified = late.notified ++ late.engine.device.pendingNotifications := by
  have hinit : (Run.init profile .delayedNotifications).Lags (Run.init profile .default) :=
    ⟨⟨rfl,Nat.zero_le _,Nat.zero_le _,List.forall_mem_nil _⟩,rfl,rfl,rfl⟩
  have h := hinit.run hlate hprompt
  exact ⟨h.device,h.responded,h.notified⟩

/-- A session that is started and sent two messages while the clock runs. -/
def messagesTicked : List Op := messagesSent 2 ++ [.tick 500,.dequeue]

theorem deferral_only_delays_messages :
    let late := Run.reached defaultProfile .delayedNotifications messagesTicked
    let prompt := Run.reached defaultProfile .default messagesTicked
    prompt.engine.device = late.engine.device.prompted ∧
      prompt.responded = late.responded ∧
      prompt.notified = late.notified ++ late.engine.device.pendingNotifications :=
  deferral_only_delays defaultProfile messagesTicked (by decide +kernel) (by decide +kernel)

end UciSim
