import UciSim.HandedPackets

/-!
# Packets that may be sent again

A packet may be sent again after a failure when the device passes over it, and the
call cannot fail when what it hands over and the event of its closing tick find room.
With a full queue only a packet that writes nothing may be sent again.
-/

set_option autoImplicit false

namespace UciSim

open Exchange

namespace Device

/-- A new message that is to be transferred in repetitions. -/
def TransfersData (d : Device) (request : Packet) : Prop :=
  request.mt = mtData ∧ ∃ i, d.AdmitsData request i ∧ ¬ (d.sessions i).Remembers request ∧
    (d.sessions i).getDataRepetitionCount ≠ 0

instance (d : Device) (request : Packet) : Decidable (d.TransfersData request) :=
  inferInstanceAs (Decidable (_ ∧ ∃ _, _))

/-- The packets that may schedule or move an event. -/
def Schedules (d : Device) (request : Packet) : Prop :=
  (request.mt = mtCommand ∧ ((request.gid = gidSessionControl ∧ request.oid = sessionStart) ∨
    (request.gid = gidSessionConfig ∧ request.oid = sessionSetAppConfig))) ∨
  d.TransfersData request

instance (d : Device) (request : Packet) : Decidable (d.Schedules request) :=
  inferInstanceAs (Decidable (_ ∨ _))

/-- A batch of items of which the first is looked at. -/
def OpensBatch (d : Device) (request : Packet) : Prop :=
  d.profile.supportsCommand request.gid request.oid = true ∧
    ((request.gid = gidCore ∧ request.oid = coreSetConfig ∧ request.payload ≠ []) ∨
    (request.gid = gidSessionConfig ∧ request.oid = sessionSetAppConfig ∧
      5 ≤ request.payload.length ∧ d.findSession (readU32Le request.payload 0) ≠ none) ∨
    (request.gid = gidSessionConfig ∧ request.oid = sessionUpdateControllerMulticastList ∧
      6 ≤ request.payload.length ∧ d.findSession (readU32Le request.payload 0) ≠ none ∧
      supportsMulticastAction (byteAt request.payload 5) = true))

instance (d : Device) (request : Packet) : Decidable (d.OpensBatch request) :=
  inferInstanceAs (Decidable (_ ∧ _))

/-- The device answers the packet without a write. -/
def OnlyReplies (d : Device) (request : Packet) : Prop :=
  d.RefusesData request ∨ request.mt = mtCommand ∧
    ((d.pendingNotifications = [] ∧ ReadOnly request.gid request.oid ∧ d.Accepts request) ∨
      (d.scenario ≠ .delayedNotifications ∧ ¬ d.Accepts request ∧ ¬ d.OpensBatch request))

instance (d : Device) (request : Packet) : Decidable (d.OnlyReplies request) :=
  inferInstanceAs (Decidable (_ ∨ _))

/-- Neither a command nor a message with a complete header, and nothing waits for the latter. -/
def PassesOver (d : Device) (request : Packet) : Prop :=
  request.mt ≠ mtCommand ∧
    (request.mt = mtData → ¬ request.CarriesData ∧ d.pendingNotifications = [])

instance (d : Device) (request : Packet) : Decidable (d.PassesOver request) :=
  inferInstanceAs (Decidable (_ ∧ _))

end Device

namespace Engine

/-- No event is ready and the packet readies none, or few enough notifications wait for any
event to find room beside them. -/
def SparesTick (e : Engine) (request : Packet) : Prop :=
  ((∀ event ∈ e.device.scheduledEvents, event.delayMs ≠ 0) ∧ ¬ e.device.Schedules request) ∨
    ((e.device.scenario = .rangingStream → e.device.profile.BuildsRangeData) ∧
      if e.device.scenario = .delayedNotifications then e.device.pendingNotifications.length ≤ 5
      else e.outboundPackets.length+e.device.pendingNotifications.length ≤ 20)

instance (e : Engine) (request : Packet) : Decidable (e.SparesTick request) :=
  inferInstanceAs (Decidable (_ ∨ _))

/-- A packet that fails may be sent again: the device passes over it; or what it hands over and
the event of its closing tick find room, and it is no transfer given up in silence; or the
outbound queue was full before and the packet writes nothing. -/
def Retriable (e : Engine) (request : Packet) : Prop :=
  e.device.PassesOver request ∨
    (¬ (e.device.GivesUpData request ∧ e.device.pendingNotifications = []) ∧
      e.outboundPackets.length+e.device.handsAtMost request ≤ maxOutboundPackets ∧
      e.SparesTick request) ∨
    (e.outboundPackets.length = maxOutboundPackets ∧ e.device.OnlyReplies request)

instance (e : Engine) (request : Packet) : Decidable (e.Retriable request) :=
  inferInstanceAs (Decidable (_ ∨ _))

end Engine

section

variable {d d' : Device} {request : Packet} {posting : Posting}

theorem posting_held (posting : Posting) : (Mailbox.held (posting.mail d)).length ≤
    d.pendingNotifications.length+posting.packets.length := by
  cases posting with
  | delivered ns =>
    refine (Mailbox.deliverAll_held_length _ _ _ ns).trans ?_
    simp [Mailbox.held, Posting.packets]
  | queued ns =>
    rw [Posting.mail, Mailbox.held, Mailbox.queueAll_slot]
    simpa [Posting.packets] using
      Mailbox.queueAll_length maxPendingNotifications (⟨none,d.pendingNotifications,[]⟩ : Mail) ns
  | placed n =>
    simp only [Posting.mail, Mailbox.place, Mailbox.held, Posting.packets, Option.toList_some,
      List.length_append, List.length_singleton]
    omega

theorem served_held {response : Option Packet} (h : Served d request response posting d') (k : ℕ) :
    (Mailbox.held (posting.settled d' k)).length ≤ d'.pendingNotifications.length+2 := by
  rw [settled_held]
  exact (posting_held posting).trans (Nat.add_le_add_left (posting_length h) _)

/-- While six notifications wait at most, whatever event is ready finds room. -/
theorem tick_fits_room (hroom : d.pendingNotifications.length ≤ 6)
    (hbuilds : d.scenario = .rangingStream → d.profile.BuildsRangeData) (elapsedMs : UInt32) :
    d.TickFits elapsedMs := by
  intro event _ i _
  have hmax : maxPendingNotifications = 8 := rfl
  constructor
  · intro _ hmeasures
    have hsample : (d.samplePolicy i).shouldEmitNotification.toNat ≤ 1 := Bool.toNat_le _
    split
    · omega
    · exact ⟨fun _ => ⟨hbuilds hmeasures.1,by omega⟩,fun _ => by omega⟩
  · intro _ _ _
    split <;> omega

theorem tick_fits_waiting (h : ∀ event ∈ d.scheduledEvents, event.delayMs ≠ 0) :
    d.TickFits 0 := by
  intro event hready
  have hzero := List.find?_some hready
  rcases List.mem_map.mp (List.mem_of_find?_eq_some hready) with ⟨before,hbefore,rfl⟩
  have hlater : before.delayMs > 0 := UInt32.pos_iff_ne_zero.mpr (h before hbefore)
  simp only [if_pos hlater, UInt32.sub_zero, beq_iff_eq] at hzero
  exact absurd hzero (h before hbefore)

theorem entered_events (i : Fin maxSessions) {oid nextState : UInt8} (hoid : oid ≠ sessionStart) :
    ∀ event ∈ (d.entered oid i nextState).scheduledEvents, event ∈ d.scheduledEvents := by
  unfold Device.entered Device.reactToTransition
  rw [if_neg hoid]
  split
  · exact fun event hevent => List.mem_of_mem_filter hevent
  · exact fun event hevent => hevent

theorem handled_events (h : ¬ d.Schedules request) :
    ∀ event ∈ (d.handlePacket request).2.device.scheduledEvents, event ∈ d.scheduledEvents := by
  have hkept : ∀ x : Exchange, ∀ k, (x.finalizeResult k).device.scheduledEvents =
      x.device.scheduledEvents := by
    intro x k
    rcases finalize_device x k with ⟨pending,hx⟩
    rw [hx]
    rfl
  by_cases hdata : request.mt = mtData
  · have houtcome := data_message_outcome d request
    rw [handle_data hdata]
    dsimp only
    rw [hkept]
    generalize (start d).handleDataMessageSend request = outcome at houtcome ⊢
    cases houtcome with
    | begun i _ hadmits hnew hrepeats =>
      exact absurd (Or.inr ⟨hdata,i,hadmits,hnew,hrepeats⟩) h
    | repeated =>
      rw [queue_data_completion, queueAll_mail]
      exact fun event hevent => hevent
    | completed =>
      rw [queue_data_completion, queueAll_mail]
      exact fun event hevent => hevent
    | _ => exact fun event hevent => hevent
  by_cases hcommand : request.mt = mtCommand
  swap
  · rw [handle_packet_other _ _ hdata hcommand]
    exact fun event hevent => hevent
  rcases command_posted hcommand with ⟨response,ns,d',-,hchange,-,hhandled⟩
  rw [hhandled]
  dsimp only
  rw [posted_finalized]
  show ∀ event ∈ d'.scheduledEvents, event ∈ d.scheduledEvents
  cases hchange with
  | housekept _ same => exact fun event hevent => same.events ▸ hevent
  | configured i command =>
    exact absurd (Or.inl ⟨hcommand,Or.inr command⟩) h
  | moved i _ _ command =>
    exact entered_events i fun hstart => h (Or.inl ⟨hcommand,Or.inl ⟨command,hstart⟩⟩)
  | reset => exact fun event hevent => by cases hevent
  | _ => exact fun event hevent => hevent

/-- A deferring device hands over one notification of several that wait. -/
theorem deferred_pending {response : Option Packet} (hserved : Served d request response posting d')
    (hs : d.scenario = .delayedNotifications) (hroom : d.pendingNotifications.length ≤ 5) :
    (posting.settled d' d.pendingNotifications.length).pending.length ≤ 6 := by
  have hheld := served_held hserved d.pendingNotifications.length
  rw [Mailbox.held, List.length_append] at hheld
  by_cases hidle : d'.pendingNotifications = []
  · rw [hidle, List.length_nil] at hheld
    omega
  have hsame : d'.pendingNotifications = d.pendingNotifications :=
    (served_pending hserved).resolve_right fun h => hidle h.2
  have hslot : (posting.settled d' d'.pendingNotifications.length).slot ≠ none :=
    settled_slot_waiting ((served_frame hserved).2.trans hs) hidle
  rw [hsame] at hslot hheld
  cases h : (posting.settled d' d.pendingNotifications.length).slot with
  | none => exact absurd h hslot
  | some n =>
    rw [h, Option.toList_some, List.length_singleton] at hheld
    omega

theorem waiting_hands (hmt : request.mt = mtData) (hwaits : d.pendingNotifications ≠ []) :
    (d.handlePacket request).2.result.notification ≠ none := by
  rcases handle_packet_served d request (Or.inl hmt) with ⟨rc,response,posting,d',hserved,hx⟩
  have hpending : d'.pendingNotifications = d.pendingNotifications :=
    (served_pending hserved).resolve_right fun h => absurd (h.1.1.symm.trans hmt) (by decide)
  rw [← hpending] at hwaits
  rw [posted_finalized] at hx
  rw [hx]
  dsimp only
  by_cases hs : d'.scenario = .delayedNotifications
  · rw [← hpending]
    exact settled_slot_waiting hs hwaits
  · intro hslot
    have hbalanced := settled_balanced d' posting d.pendingNotifications.length
    rw [Mailbox.Balanced, settled_silent d' posting _ hs hslot] at hbalanced
    exact hwaits (List.append_eq_nil_iff.mp (List.nil_perm.mp hbalanced)).1

theorem set_app_config_unopened (h : ¬ (5 ≤ request.payload.length ∧
      d.findSession (readU32Le request.payload 0) ≠ none)) :
    ∃ status, (start d).handleSessionSetAppConfig request = (start d).fail request status := by
  unfold handleSessionSetAppConfig
  split
  · exact ⟨_,rfl⟩
  rename_i hlong
  split
  · exact ⟨_,rfl⟩
  · rename_i i hfind
    exact absurd ⟨Nat.le_of_not_lt hlong,ne_of_eq_of_ne hfind (Option.some_ne_none i)⟩ h

theorem update_multicast_list_unopened (h : ¬ (6 ≤ request.payload.length ∧
      d.findSession (readU32Le request.payload 0) ≠ none ∧
      supportsMulticastAction (byteAt request.payload 5) = true)) :
    ∃ status, (start d).handleSessionUpdateMulticastList request =
      (start d).fail request status := by
  unfold handleSessionUpdateMulticastList
  split
  · exact ⟨_,rfl⟩
  rename_i hlong
  dsimp only
  split
  · exact ⟨_,rfl⟩
  rename_i i hfind
  split
  · exact ⟨_,rfl⟩
  · rename_i haction
    exact absurd ⟨Nat.le_of_not_lt hlong,ne_of_eq_of_ne hfind (Option.some_ne_none i),
      by simpa using haction⟩ h

theorem batch_refused (hb : request.Batches) (h : ¬ d.OpensBatch request) :
    ∃ status, (start d).dispatchCommand request = (start d).fail request status := by
  rcases hb with ⟨hgid,hoid⟩ | ⟨hgid,hoid⟩
  · rw [dispatch_core hgid]
    refine (core_dispatch d.profile request).outcome (x := start d)
      (P := fun outcome => ∃ status, outcome = (start d).fail request status) rfl ⟨_,rfl⟩ ?_
    intro handler listed supported
    have hempty : request.payload = [] := by
      by_contra hitems
      exact h ⟨supported,Or.inl ⟨hgid,hoid,hitems⟩⟩
    cases listed with
    | setConfig =>
      unfold handleCoreSetConfig
      rw [hempty]
      exact ⟨_,rfl⟩
    | _ opcode => exact absurd (opcode.symm.trans hoid) (by decide)
  · rw [dispatch_config hgid]
    refine (config_dispatch d.profile request).outcome (x := start d)
      (P := fun outcome => ∃ status, outcome = (start d).fail request status) rfl ⟨_,rfl⟩ ?_
    intro handler listed supported
    cases listed with
    | setAppConfig opcode =>
      exact set_app_config_unopened fun hopens => h ⟨supported,Or.inr (Or.inl ⟨hgid,opcode,hopens⟩)⟩
    | updateMulticastList opcode =>
      exact update_multicast_list_unopened fun hopens =>
        h ⟨supported,Or.inr (Or.inr ⟨hgid,opcode,hopens⟩)⟩
    | _ opcode =>
      rcases hoid with hoid | hoid
      · exact absurd (opcode.symm.trans hoid) (by decide)
      · exact absurd (opcode.symm.trans hoid) (by decide)

theorem refused_answer (hmt : request.mt = mtCommand) (hrefuses : ¬ d.Accepts request)
    (hopens : ¬ d.OpensBatch request) : ∃ gid oid status rest,
      (start d).dispatchCommand request = (.err,(start d).respond gid oid (status::rest)) := by
  by_cases hb : request.Batches
  · rcases batch_refused hb hopens with ⟨status,hx⟩
    exact ⟨_,_,status,[],hx⟩
  have hreplied := dispatch_command_replied d request
  have hrc : ((start d).dispatchCommand request).1 ≠ .ok :=
    fun hok => hrefuses ((dispatch_verdict hmt).mp hok)
  generalize (start d).dispatchCommand request = outcome at hreplied hrc ⊢
  cases hreplied with
  | refused status rest => exact ⟨_,_,status,rest,rfl⟩
  | granted => exact absurd rfl hrc
  | judged status rest d' short keeps atomic =>
    have hd := atomic.resolve_right hb
    subst hd
    have herr : rcOf status = .err := by
      cases h : rcOf status with
      | ok => exact absurd h hrc
      | err => rfl
    rw [herr]
    exact ⟨_,_,status,rest,rfl⟩
  | capabilities => exact absurd rfl hrc

theorem refused_unchanged (hmt : request.mt = mtCommand) (hs : d.scenario ≠ .delayedNotifications)
    (hrefuses : ¬ d.Accepts request) (hopens : ¬ d.OpensBatch request) :
    (d.handlePacket request).2.device = d := by
  rcases refused_answer hmt hrefuses hopens with ⟨gid,oid,status,rest,hx⟩
  have hdefer : d.scenario.shouldDeferNotification = false := by
    simpa [Scenario.shouldDeferNotification] using hs
  have herror := report_error_answered .err d ⟨mtResponse,pbfComplete,gid,oid,status::rest⟩ []
  rw [handle_command d request hmt, hx, show (start d).respond gid oid (status::rest) =
    answered d ⟨mtResponse,pbfComplete,gid,oid,status::rest⟩ [] from rfl, herror]
  have hposted := posted_finalized d (some ⟨mtResponse,pbfComplete,gid,oid,status::rest⟩)
    (.delivered [coreGenericErrorNotification status]) d.pendingNotifications.length
  have hkept : ((Posting.delivered [coreGenericErrorNotification status]).settled d
      d.pendingNotifications.length).pending = d.pendingNotifications := by
    unfold Posting.settled Posting.mail
    rw [hdefer]
    split <;> rfl
  refine (congrArg Exchange.device hposted).trans ?_
  dsimp only
  rw [hkept, Device.withPending_self]

theorem query_unchanged (hmt : request.mt = mtCommand) (hidle : d.pendingNotifications = [])
    (hreads : ReadOnly request.gid request.oid) (haccepts : d.Accepts request) :
    (d.handlePacket request).2.device = d := by
  rcases query_dispatched (d := d) hreads with ⟨rc,gid,oid,payload,hdispatch⟩
  have hrc := (dispatch_verdict hmt).mpr haccepts
  rw [hdispatch] at hrc
  rw [handle_command d request hmt, hdispatch, show rc = .ok from hrc]
  show (((start d).respond gid oid payload).finalizeResult d.pendingNotifications.length).device = d
  rw [finalizeResult_mail]
  split
  · show d.withPending (Mailbox.settle ⟨none,d.pendingNotifications,[]⟩).pending = d
    rw [hidle]
    exact idle_self hidle
  · rfl

theorem only_replies_unchanged (h : d.OnlyReplies request) :
    (d.handlePacket request).2.device = d ∧
      ((d.handlePacket request).2.result.response ≠ none ∨
        (d.handlePacket request).2.result.notification ≠ none) := by
  rcases h with hdata | ⟨hmt,hcommand⟩
  · rcases data_message_refused d request hdata with ⟨n,-,hx⟩
    rw [handle_data hdata.1]
    dsimp only
    rw [hx]
    exact ⟨rfl,Or.inr fun h => by cases h⟩
  · rcases command_hands (d := d) hmt with ⟨response,hresponse⟩
    refine ⟨?_,Or.inl (hresponse ▸ Option.some_ne_none response)⟩
    rcases hcommand with ⟨hidle,hreads,haccepts⟩ | ⟨hs,hrefuses,hopens⟩
    · exact query_unchanged hmt hidle hreads haccepts
    · exact refused_unchanged hmt hs hrefuses hopens

theorem passed_over (h : d.PassesOver request) : (d.handlePacket request).1 = .err ∧
    (d.handlePacket request).2.result.response = none ∧
      (d.handlePacket request).2.result.notification = none := by
  by_cases hdata : request.mt = mtData
  swap
  · rw [handle_packet_other d request hdata h.1]
    exact ⟨rfl,rfl,rfl⟩
  rcases h.2 hdata with ⟨hmalformed,hidle⟩
  have houtcome := data_message_outcome d request
  rw [handle_data hdata]
  dsimp only
  rw [finalize_response]
  generalize (start d).handleDataMessageSend request = outcome at houtcome ⊢
  cases houtcome with
  | ignored => exact ⟨rfl,rfl,finalize_idle rfl hidle⟩
  | refused hcarries => exact absurd hcarries hmalformed
  | repeated i hadmits => exact absurd hadmits.1 hmalformed
  | completed i hadmits => exact absurd hadmits.1 hmalformed
  | begun i _ hadmits => exact absurd hadmits.1 hmalformed
  | unscheduled i hadmits => exact absurd hadmits.1 hmalformed

end

namespace Engine

section

variable {e closed : Engine} {request : Packet}

theorem closing_waits (h : if e.device.scenario = .delayedNotifications then
      e.device.pendingNotifications.length ≤ 5
    else e.outboundPackets.length+e.device.pendingNotifications.length ≤ 20)
    (hfits : e.outboundPackets.length+(e.handed request).length ≤ maxOutboundPackets)
    (hclosed : e.closing request = some closed) :
    closed.device.pendingNotifications.length ≤ 6 := by
  by_cases hmt : request.mt = mtData ∨ request.mt = mtCommand
  swap
  · rw [closing_other (fun h => hmt (Or.inl h)) fun h => hmt (Or.inr h)] at hclosed
    cases hclosed
  rcases handle_packet_served e.device request hmt with ⟨rc,response,posting,d',hserved,hx⟩
  rw [posted_finalized] at hx
  unfold handed at hfits
  rw [hx, List.length_append] at hfits
  rw [closing_lines hx hclosed, (served_frame hserved).2]
  show (flushedLines e.device.scenario _).waiting.length ≤ 6
  unfold flushedLines
  by_cases hs : e.device.scenario = .delayedNotifications
  · rw [if_pos hs] at h
    rw [hs]
    exact deferred_pending hserved hs h
  rw [if_neg hs] at h
  have hdefer : e.device.scenario.shouldDeferNotification = false := by
    simpa [Scenario.shouldDeferNotification] using hs
  have hbefore : d'.pendingNotifications.length ≤ e.device.pendingNotifications.length := by
    rcases served_pending hserved with h | ⟨-,h⟩ <;> simp [h]
  have hheld := served_held hserved e.device.pendingNotifications.length
  rw [Mailbox.held, List.length_append] at hheld
  have hresponse := toList_length_le response
  have hmax : maxOutboundPackets = 16 := rfl
  rw [if_neg (Bool.eq_false_iff.mp hdefer)]
  simp only [Relay.forward, Relay.room, List.length_drop, List.length_append]
  dsimp only at hfits
  omega

theorem spared_fits (h : e.SparesTick request)
    (hfits : e.outboundPackets.length+(e.handed request).length ≤ maxOutboundPackets)
    (hclosed : e.closing request = some closed) : closed.device.TickFits 0 := by
  rcases closing_device hclosed with ⟨l,hl⟩
  rcases h with ⟨hwaits,hschedules⟩ | ⟨hbuilds,hroom⟩
  · refine tick_fits_waiting fun event hevent => hwaits event (handled_events hschedules event ?_)
    rw [hl] at hevent
    exact hevent
  · refine tick_fits_room (closing_waits hroom hfits hclosed) ?_ 0
    have hframe := handle_packet_frame e.device request
    rw [hl]
    show (e.device.handlePacket request).2.device.scenario = .rangingStream →
      (e.device.handlePacket request).2.device.profile.BuildsRangeData
    rw [hframe.1, hframe.2]
    exact hbuilds

theorem retriable_harmless (h : e.Retriable request) : e.Harmless request := by
  unfold Harmless
  rcases h with hpasses | ⟨hkept,hroom,hspares⟩ | ⟨hfull,hreplies⟩
  · rcases passed_over hpasses with ⟨hrc,hresponse,hslot⟩
    have hsilent : e.handed request = [] := by
      unfold handed
      rw [hresponse, hslot]
      rfl
    rw [if_pos ⟨hrc,hsilent⟩]
    rintro ⟨hdata,i,hadmits,-⟩
    exact (hpasses.2 hdata).1 hadmits.1
  · split
    · rename_i hsilent
      intro hgives
      refine hkept ⟨hgives,?_⟩
      by_contra hwaits
      have hslot := waiting_hands hgives.1 hwaits
      exact hslot (Option.toList_eq_nil_iff.mp (List.append_eq_nil_iff.mp hsilent.2).2)
    split
    · exact fun closed hclosed => spared_fits hspares ‹_› hclosed
    · rename_i hfull
      exact absurd ((Nat.add_le_add_left (handed_hands e request) _).trans hroom) hfull
  · rcases only_replies_unchanged hreplies with ⟨hdevice,hanswers⟩
    have hhands : e.handed request ≠ [] := by
      intro hnothing
      rcases List.append_eq_nil_iff.mp hnothing with ⟨hresponse,hslot⟩
      exact hanswers.elim (absurd (Option.toList_eq_nil_iff.mp hresponse))
        (absurd (Option.toList_eq_nil_iff.mp hslot))
    have hpositive := List.length_pos_iff.mpr hhands
    rw [if_neg fun h => hhands h.2, if_neg (by omega)]
    exact ⟨hfull,hdevice⟩

end

end Engine

/-- A session and fourteen counts fill the outbound queue. -/
def filledQueue : List Op :=
  [.submit (initRequest 1)] ++ List.replicate 14 (.submit getCountRequest)

/-- Sixteen counts fill the outbound queue; the session opened next exists, but its response
is lost and the caller is told of a failure. -/
def fullQueue : List Op := List.replicate 16 (.submit getCountRequest)

end UciSim
