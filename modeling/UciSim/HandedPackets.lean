import UciSim.CommandVerdicts
import UciSim.Deferral
import UciSim.Queries
import UciSim.RefusedPackets

/-!
# What a packet hands over

A command hands over its response, and with it a notification that waited or that it
posts. Whether there is one is known before the call.
-/

set_option autoImplicit false

namespace UciSim

open Exchange

/-- The commands whose success is also reported by a notification. -/
def Packet.Notifies (request : Packet) : Prop :=
  (request.gid = gidCore ∧ request.oid = coreDeviceReset) ∨
    (request.gid = gidSessionConfig ∧ (request.oid = sessionInit ∨ request.oid = sessionDeinit)) ∨
    (request.gid = gidSessionControl ∧
      request.oid ∉ [sessionGetRangingCount,sessionLogicalLinkGetParam])

instance (request : Packet) : Decidable request.Notifies := inferInstanceAs (Decidable (_ ∨ _))

namespace Device

/-- A message that is completed at once: a known one, or one without repetitions. -/
def CompletesData (d : Device) (request : Packet) : Prop :=
  request.mt = mtData ∧ ∃ i, d.AdmitsData request i ∧
    ((d.sessions i).Remembers request ∨ (d.sessions i).getDataRepetitionCount = 0)

instance (d : Device) (request : Packet) : Decidable (d.CompletesData request) :=
  inferInstanceAs (Decidable (_ ∧ ∃ _, _))

/-- How many packets the device hands to the outbound queue: the response to a command, and a
notification unless nothing waits and nothing is posted that may travel at once. -/
def handsAtMost (d : Device) (request : Packet) : ℕ :=
  if request.mt = mtCommand then
    if d.pendingNotifications = [] ∧
        (d.scenario = .delayedNotifications ∨ (¬ request.Notifies ∧ d.Accepts request)) then 1
    else 2
  else if d.pendingNotifications = [] ∧ ¬ d.RefusesData request ∧
      (d.scenario = .delayedNotifications ∨ ¬ d.CompletesData request) then 0
  else 1

end Device

section

variable {d : Device} {request : Packet}

theorem only_answers_silent {outcome : Rc × Exchange} (h : OnlyAnswers d outcome) :
    outcome.2.result.notification = none := by
  rcases h with ⟨rc,gid,oid,payload,rfl⟩
  rfl

theorem core_silent (h : request.oid ≠ coreDeviceReset) :
    ((start d).handleCore request).2.result.notification = none := by
  refine (core_dispatch d.profile request).outcome (x := start d)
    (P := fun outcome => outcome.2.result.notification = none) rfl rfl ?_
  intro handler listed _
  cases listed with
  | deviceReset opcode => exact absurd opcode h
  | deviceInfo => rfl
  | getCaps =>
    dsimp only
    split <;> rfl
  | setConfig =>
    unfold handleCoreSetConfig
    split <;> rfl
  | getConfig => exact only_answers_silent core_get_config_only
  | queryTimestamp =>
    unfold handleQueryUwbsTimestamp
    split <;> rfl

theorem config_silent (hinit : request.oid ≠ sessionInit) (hdeinit : request.oid ≠ sessionDeinit) :
    ((start d).handleSessionConfig request).2.result.notification = none := by
  refine (config_dispatch d.profile request).outcome (x := start d)
    (P := fun outcome => outcome.2.result.notification = none) rfl rfl ?_
  intro handler listed _
  have hrounds : ∀ useAnchorRounds, ((start d).handleSessionUpdateDtRounds request
      useAnchorRounds).2.result.notification = none := by
    intro useAnchorRounds
    unfold handleSessionUpdateDtRounds
    split
    · rfl
    dsimp only
    split
    · rfl
    split <;> rfl
  cases listed with
  | init opcode => exact absurd opcode hinit
  | deinit opcode => exact absurd opcode hdeinit
  | setAppConfig =>
    unfold handleSessionSetAppConfig
    split
    · rfl
    split <;> rfl
  | getAppConfig => exact only_answers_silent get_app_config_only
  | getCount => rfl
  | queryDataSize => exact only_answers_silent query_data_size_only
  | getState => exact only_answers_silent get_state_only
  | updateMulticastList =>
    unfold handleSessionUpdateMulticastList
    split
    · rfl
    dsimp only
    split
    · rfl
    split <;> rfl
  | updateAnchorRounds => exact hrounds true
  | updateTagRounds => exact hrounds false
  | dataTransferPhaseConfig =>
    unfold handleSessionDataTransferPhaseConfig
    split
    · rfl
    split
    · rfl
    dsimp only
    split <;> rfl

theorem dispatch_silent (h : ¬ request.Notifies) :
    ((start d).dispatchCommand request).2.result.notification = none := by
  unfold Packet.Notifies at h
  simp only [not_or, not_and, not_not] at h
  rcases group_dispatch request with ⟨handler,listed,runs⟩
  rw [runs]
  cases listed with
  | core group => exact core_silent (h.1 group)
  | sessionConfig group => exact config_silent (h.2.1 group).1 (h.2.1 group).2
  | sessionControl group => exact only_answers_silent (session_control_only (h.2.2 group))
  | qorvoExt2 => exact only_answers_silent qorvo_ext2_only
  | qorvoMac => exact only_answers_silent qorvo_mac_only
  | unknown => rfl

/-- The first notification of a prompt device without mail travels with the response. -/
theorem answered_silent {response : Packet} {ns : List Packet}
    (hs : d.scenario ≠ .delayedNotifications) (hidle : d.pendingNotifications = [])
    (hshort : ns.length ≤ 1) (h : (answered d response ns).result.notification = none) :
    ns = [] := by
  have hdefer : d.scenario.shouldDeferNotification = false := by
    simpa [Scenario.shouldDeferNotification] using hs
  have hslot : (answered d response ns).result.notification =
      (Mailbox.deliverAll maxPendingNotifications d.scenario.shouldDeferNotification
        ⟨none,d.pendingNotifications,[]⟩ ns).slot := by
    rw [answered, emitAll_mail]
    rfl
  rw [hslot, hdefer, hidle, Mailbox.deliverAll_empty _ ns (Nat.le_succ_of_le
    (hshort.trans (by decide)))] at h
  exact List.head?_eq_none_iff.mp h

theorem command_posted (hmt : request.mt = mtCommand) :
    ∃ response ns d', response.mt = mtResponse ∧ Change d request ns d' ∧
      ((start d).dispatchCommand request).2 = answered d' response ns ∧
      d.handlePacket request = (((start d).dispatchCommand request).1,
        (posted d' (some response) (.delivered (ns ++ errorNotifications
          ((start d).dispatchCommand request).1 response))).finalizeResult
            d.pendingNotifications.length) := by
  rcases dispatch_command_answers d request with ⟨response,ns,d',hx,hresponse,hchange⟩
  refine ⟨response,ns,d',hresponse,hchange,hx,?_⟩
  have hdispatch : (start d).dispatchCommand request =
      (((start d).dispatchCommand request).1,answered d' response ns) := Prod.ext rfl hx
  have herror := report_error_answered ((start d).dispatchCommand request).1 d' response ns
  rw [← hdispatch] at herror
  rw [handle_command d request hmt, herror]
  rfl

theorem change_idle {ns : List Packet} {d' : Device} (h : Change d request ns d')
    (hidle : d.pendingNotifications = []) : d'.pendingNotifications = [] := by
  cases h with
  | housekept _ same => exact same.pending.trans hidle
  | configured i _ _ _ _ steps => exact (reconfigured_frame steps).2.2.1.trans hidle
  | moved i => exact (entered_frame d _ i _).2.2.1.trans hidle
  | reset => rfl
  | _ => exact hidle

/-- Nothing travels beside the response when the device defers and nothing waited, or when an
accepted command notifies nobody. -/
theorem command_alone (hmt : request.mt = mtCommand) (hidle : d.pendingNotifications = [])
    (h : d.scenario = .delayedNotifications ∨ (¬ request.Notifies ∧ d.Accepts request)) :
    (d.handlePacket request).2.result.notification = none := by
  rcases command_posted hmt with ⟨response,ns,d',-,hchange,hx,hhandled⟩
  have hscenario := (change_frame hchange).2
  have hidle' := change_idle hchange hidle
  rw [hhandled]
  dsimp only
  rw [posted_finalized]
  dsimp only
  by_cases hs : d.scenario = .delayedNotifications
  · have hs' := hscenario.trans hs
    have hauto : d'.scenario.shouldAutoDeliverPending 0 = false := by
      rw [hs']
      rfl
    rw [hidle, List.length_nil, Posting.settled, if_neg (Bool.eq_false_iff.mp hauto),
      deferred_mail d' hs' fun _ hn => by cases hn]
  · rcases h.resolve_left hs with ⟨hsilent,haccepts⟩
    have hs' : d'.scenario ≠ .delayedNotifications := fun h => hs (hscenario.symm.trans h)
    have hshort : ns.length ≤ 1 := by cases hchange <;> simp
    have hslot := dispatch_silent (d := d) hsilent
    rw [hx] at hslot
    rw [(dispatch_verdict hmt).mpr haccepts, answered_silent hs' hidle' hshort hslot]
    exact (settled_slot_prompt hs' hidle' (by simp [Posting.packets, errorNotifications]) _).mpr rfl

theorem finalize_idle {x : Exchange} {k : ℕ} (hslot : x.result.notification = none)
    (hidle : x.device.pendingNotifications = []) :
    (x.finalizeResult k).result.notification = none := by
  rw [finalizeResult_mail]
  split
  · show (Mailbox.settle ⟨x.result.notification,x.device.pendingNotifications,x.accepted⟩).slot =
      none
    rw [hslot, hidle]
    rfl
  · exact hslot

theorem finalize_deferred {x : Exchange} (hslot : x.result.notification = none)
    (hs : x.device.scenario = .delayedNotifications) :
    (x.finalizeResult 0).result.notification = none := by
  rw [finalizeResult_mail, hs]
  exact hslot

theorem data_alone (hmt : request.mt = mtData) (hidle : d.pendingNotifications = [])
    (hrefuses : ¬ d.RefusesData request)
    (h : d.scenario = .delayedNotifications ∨ ¬ d.CompletesData request) :
    (d.handlePacket request).2.result.notification = none := by
  have hslot := data_message_slot d request hmt hrefuses
  have houtcome := data_message_outcome d request
  rw [handle_data hmt]
  dsimp only
  generalize (start d).handleDataMessageSend request = outcome at houtcome hslot ⊢
  -- A completion is queued, so it waits in a device that defers and travels in any other.
  have hcompleted : ∀ (x : Exchange) sessionId sequenceNumber status,
      x.device.scenario = d.scenario → x.result.notification = none → d.CompletesData request →
        ((x.queueDataCompletion sessionId sequenceNumber status).2.finalizeResult
          d.pendingNotifications.length).result.notification = none := by
    intro x sessionId sequenceNumber status hscenario hx hcompletes
    have hs := h.resolve_right (not_not.mpr hcompletes)
    rw [hidle, List.length_nil]
    refine finalize_deferred ((congrArg Result.notification
      (completion_slot x sessionId sequenceNumber status)).trans hx) ?_
    rw [queue_data_completion, queueAll_mail]
    exact hscenario.trans hs
  cases houtcome with
  | ignored => exact finalize_idle rfl hidle
  | refused => cases hslot
  | repeated i hadmits hknown =>
    exact hcompleted _ _ _ _ rfl rfl ⟨hmt,i,hadmits,Or.inl hknown⟩
  | completed i hadmits _ honce =>
    exact hcompleted _ _ _ _ rfl rfl ⟨hmt,i,hadmits,Or.inr honce⟩
  | begun => exact finalize_idle rfl hidle
  | unscheduled => exact finalize_idle rfl hidle

theorem data_unanswered (hmt : request.mt = mtData) :
    (d.handlePacket request).2.result.response = none := by
  rcases handle_packet_served d request (Or.inl hmt) with ⟨rc,response,posting,d',hserved,hx⟩
  rw [posted_finalized] at hx
  rw [hx]
  cases hserved with
  | command _ _ _ _ mt => exact absurd (mt.symm.trans hmt) (by decide)
  | data => rfl

theorem toList_length_le {α : Type} (a : Option α) : a.toList.length ≤ 1 := by
  cases a <;> simp

theorem handed_hands (e : Engine) (request : Packet) :
    (e.handed request).length ≤ e.device.handsAtMost request := by
  unfold Engine.handed Device.handsAtMost
  have hresponse := toList_length_le (e.device.handlePacket request).2.result.response
  have hslot := toList_length_le (e.device.handlePacket request).2.result.notification
  rw [List.length_append]
  by_cases hcommand : request.mt = mtCommand
  · rw [if_pos hcommand]
    split
    · rename_i h
      rw [command_alone hcommand h.1 h.2]
      exact hresponse
    · exact Nat.add_le_add hresponse hslot
  rw [if_neg hcommand]
  by_cases hdata : request.mt = mtData
  · rw [data_unanswered hdata]
    split
    · rename_i h
      rw [data_alone hdata h.1 h.2.1 h.2.2]
      exact Nat.le_refl 0
    · exact (Nat.zero_add _).trans_le hslot
  · rw [handle_packet_other _ _ hdata hcommand]
    exact Nat.zero_le _

end

end UciSim
