import UciSim.Replies
import UciSim.PendingMail
import UciSim.Requests

/-!
# Replies and errors

The response, the returned code and the generic error of a command agree, and a
command that is refused leaves the device as it was.
-/

set_option autoImplicit false

namespace UciSim

open Exchange

theorem handle_command (d : Device) (request : Packet) (hmt : request.mt = mtCommand) :
    d.handlePacket request = (((start d).dispatchCommand request).1,
      (reportError ((start d).dispatchCommand request)).finalizeResult
        d.pendingNotifications.length) := by
  unfold Device.handlePacket
  rw [if_neg (by rw [hmt]; decide), if_neg (not_not.mpr hmt)]

theorem handle_command_response (d : Device) (request : Packet) (hmt : request.mt = mtCommand) :
    (d.handlePacket request).2.result.response =
      ((start d).dispatchCommand request).2.result.response := by
  rw [handle_command d request hmt]
  dsimp only
  rw [finalize_response, report_error_response]

theorem emit_device (x : Exchange) (n : Packet) :
    ∃ pending, (x.emit n).device = x.device.withPending pending := by
  rw [emit_mail]
  exact ⟨_,rfl⟩

theorem report_error_device (outcome : Rc × Exchange) :
    ∃ pending, (reportError outcome).device = outcome.2.device.withPending pending := by
  unfold reportError
  split
  · exact ⟨_,rfl⟩
  · split
    · split
      · exact emit_device _ _
      · exact ⟨_,rfl⟩
    · exact ⟨_,rfl⟩

theorem finalize_device (x : Exchange) (k : ℕ) :
    ∃ pending, (x.finalizeResult k).device = x.device.withPending pending := by
  rw [finalizeResult_mail]
  split
  · exact ⟨_,rfl⟩
  · exact ⟨_,rfl⟩

theorem handle_command_device (d : Device) (request : Packet) (hmt : request.mt = mtCommand) :
    ∃ pending, (d.handlePacket request).2.device =
      ((start d).dispatchCommand request).2.device.withPending pending := by
  rw [handle_command d request hmt]
  obtain ⟨p,hp⟩ := report_error_device ((start d).dispatchCommand request)
  obtain ⟨q,hq⟩ := finalize_device (reportError ((start d).dispatchCommand request))
    d.pendingNotifications.length
  refine ⟨q,?_⟩
  dsimp only
  rw [hq, hp, Device.withPending_withPending]

theorem default_reports : defaultProfile.Reports (fun invalid => invalid.status ≠ statusOk) where
  listed := by decide
  restated _ _ := show statusInvalidParam ≠ statusOk by decide
  immediate _ := show statusInvalidParam ≠ statusOk by decide

/-- The shipped profile reports no failure with the status of success. -/
theorem default_chooses {status : UInt8} (h : defaultProfile.Chooses status) :
    status ≠ statusOk := by
  rcases h with ⟨transition,hlisted,rfl⟩ | ⟨session,invalid,hstart,rfl⟩
  · revert transition
    decide
  · exact default_reports.start session invalid hstart

namespace Replied

variable {d : Device} {request : Packet} {outcome : Rc × Exchange}

theorem atomic (h : Replied d request outcome) (hb : ¬ request.Batches) {response : Packet}
    (hresponse : outcome.2.result.response = some response)
    (hs : byteAt response.payload 0 ≠ statusOk) : outcome.2.device = d := by
  cases h with
  | refused => rfl
  | granted rest d' ns =>
    rw [answered_response] at hresponse
    cases hresponse
    exact absurd rfl hs
  | judged status rest d' short keeps atomic =>
    rcases atomic with rfl | hbatches
    · rfl
    · exact absurd hbatches hb
  | capabilities => rfl

theorem sound (h : Replied d request outcome) (hp : d.profile = defaultProfile) :
    ∃ response, outcome.2.result.response = some response ∧ response.mt = mtResponse ∧
      response.gid = request.gid ∧ response.oid = request.oid ∧
      1 ≤ response.payload.length ∧ response.payload.length ≤ maxPayload ∧
      (outcome.1 = .ok ↔ byteAt response.payload 0 = statusOk) := by
  cases h with
  | refused status rest short cause =>
    have hs : status ≠ statusOk := cause.elim id (hp ▸ default_chooses)
    refine ⟨_,rfl,rfl,rfl,rfl,Nat.le_add_left _ _,short,?_⟩
    simpa [byteAt] using hs
  | granted rest d' ns short =>
    exact ⟨_,answered_response _ _ _,rfl,rfl,rfl,Nat.le_add_left _ _,short,by simp [byteAt]⟩
  | judged status rest d' short =>
    refine ⟨_,rfl,rfl,rfl,rfl,Nat.le_add_left _ _,short,?_⟩
    simp only [rcOf, byteAt]
    split <;> simp_all
  | capabilities =>
    have hcaps : 1 ≤ defaultProfile.coreCapsPayload.length ∧
        defaultProfile.coreCapsPayload.length ≤ maxPayload ∧
        byteAt defaultProfile.coreCapsPayload 0 = statusOk := by decide
    rw [hp]
    exact ⟨_,rfl,rfl,rfl,rfl,hcaps.1,hcaps.2.1,fun _ => hcaps.2.2,fun _ => rfl⟩

end Replied

/-- Of every reachable device and every command that handles a single item: when the response
does not report success, the command changed nothing but the waiting notifications. -/
theorem refused_command_atomic (profile : Profile) (scenario : Scenario) (ops : List Op)
    (request response : Packet) (hmt : request.mt = mtCommand) (hb : ¬ request.Batches)
    (hresponse : ((Run.reached profile scenario ops).engine.device.handlePacket
      request).2.result.response = some response)
    (hs : byteAt response.payload 0 ≠ statusOk) :
    ∃ pending, ((Run.reached profile scenario ops).engine.device.handlePacket
      request).2.device = (Run.reached profile scenario ops).engine.device.withPending pending := by
  rw [handle_command_response _ request hmt] at hresponse
  obtain ⟨pending,hdevice⟩ := handle_command_device
    (Run.reached profile scenario ops).engine.device request hmt
  rw [(dispatch_command_replied _ request).atomic hb hresponse hs] at hdevice
  exact ⟨pending,hdevice⟩

/-- A session that was never started cannot be stopped. -/
theorem refused_stop_atomic :
    let d := (Run.reached defaultProfile .default [.submit (initRequest 1)]).engine.device
    ∃ pending, (d.handlePacket (stopRequest 1)).2.device = d.withPending pending :=
  refused_command_atomic defaultProfile .default [.submit (initRequest 1)] (stopRequest 1)
    ⟨mtResponse,pbfComplete,gidSessionControl,sessionStop,[statusRejected]⟩ rfl (by decide)
    (by decide +kernel) (by decide)

/-- No generic error waits in the device. -/
def Device.NoErrorWaits (d : Device) : Prop :=
  ∀ n ∈ d.pendingNotifications, ¬ n.IsGenericError

namespace Replied

variable {d : Device} {request : Packet} {outcome : Rc × Exchange}

theorem err_form (h : Replied d request outcome) (hrc : outcome.1 = .err) :
    ∃ d' status rest, d.KeepsMail d' ∧ outcome =
      (.err,{ start d with device := d' }.respond request.gid request.oid (status::rest)) := by
  cases h with
  | refused status rest => exact ⟨d,status,rest,.same rfl rfl,rfl⟩
  | judged status rest d' short keeps =>
    dsimp only at hrc
    rw [hrc]
    exact ⟨d',status,rest,keeps,rfl⟩
  | granted => cases hrc
  | capabilities => cases hrc

theorem ok_form (h : Replied d request outcome) (hrc : outcome.1 = .ok) :
    ∃ d' response ns, d.KeepsMail d' ∧ (∀ n ∈ ns, ¬ n.IsGenericError) ∧
      outcome = (.ok,answered d' response ns) := by
  cases h with
  | refused => cases hrc
  | judged status rest d' short keeps =>
    dsimp only at hrc
    rw [hrc]
    exact ⟨d',_,[],keeps,by simp,rfl⟩
  | granted rest d' ns short keeps quiet => exact ⟨d',_,ns,keeps,quiet,rfl⟩
  | capabilities => exact ⟨d,_,[],.same rfl rfl,by simp,rfl⟩

end Replied

theorem emit_prompt (x : Exchange) (n : Packet) (hs : x.device.scenario ≠ .delayedNotifications)
    (hn : x.result.notification = none) : x.emit n = x.placeNotification n := by
  unfold emit deliverNotification
  rw [if_neg (by simpa [Scenario.shouldDeferNotification] using hs), if_pos (by rw [hn]; rfl)]

section

variable {d : Device} {request : Packet}

theorem error_reported (hmt : request.mt = mtCommand) (hs : d.scenario ≠ .delayedNotifications)
    (hrc : (d.handlePacket request).1 = .err) :
    ∃ response, (d.handlePacket request).2.result.response = some response ∧
      (d.handlePacket request).2.result.notification =
        some (coreGenericErrorNotification (byteAt response.payload 0)) ∧
      (d.handlePacket request).2.device.pendingNotifications ⊆ d.pendingNotifications := by
  rw [handle_command d request hmt] at hrc ⊢
  obtain ⟨d',status,rest,hkeeps,houtcome⟩ := (dispatch_command_replied d request).err_form hrc
  rw [houtcome]
  have hplaced : (({ start d with device := d' }.respond request.gid request.oid
      (status::rest)).emit (coreGenericErrorNotification status)).finalizeResult
        d.pendingNotifications.length =
      ({ start d with device := d' }.respond request.gid request.oid
        (status::rest)).placeNotification (coreGenericErrorNotification status) := by
    rw [emit_prompt _ _ (hkeeps.scenario ▸ hs) rfl]
    exact if_pos rfl
  dsimp only [reportError, respond]
  dsimp only [respond] at hplaced
  rw [hplaced]
  exact ⟨_,rfl,rfl,hkeeps.pending⟩

theorem errors_waited (hmt : request.mt = mtCommand) (hrc : (d.handlePacket request).1 = .ok)
    {n : Packet} (he : n.IsGenericError)
    (hn : n ∈ Mailbox.held (d.handlePacket request).2.mail) : n ∈ d.pendingNotifications := by
  rw [handle_command d request hmt] at hrc hn
  obtain ⟨d',response,ns,hkeeps,hquiet,houtcome⟩ :=
    (dispatch_command_replied d request).ok_form hrc
  rw [houtcome] at hn
  have hfinal := posted_finalized d' (some response) (.delivered ns) d.pendingNotifications.length
  change n ∈ Mailbox.held ((posted d' (some response) (.delivered ns)).finalizeResult
    d.pendingNotifications.length).mail at hn
  rw [hfinal] at hn
  rcases settled_held_mem hn with hwaited | hposted
  · exact hkeeps.pending hwaited
  · exact absurd he (hquiet n hposted)

end

theorem events_post_other (d : Device) : d.EventsPost (fun n => ¬ n.IsGenericError) where
  range _ _ := session_control_other _ _
  idle _ _ := session_status_other _ _ _
  credit _ := session_control_other _ _
  status _ _ _ _ _ := session_control_other _ _

theorem data_change_other {d d' : Device} {request : Packet} {posting : Posting}
    (h : DataChange d request posting d') : ∀ n ∈ posting.packets, ¬ n.IsGenericError := by
  have hcompletion : ∀ sessionId sequenceNumber status txCount,
      ∀ n ∈ dataCompletion sessionId sequenceNumber status txCount, ¬ n.IsGenericError := by
    intro sessionId sequenceNumber status txCount n hn
    rcases List.mem_pair.mp hn with rfl | rfl
    · exact session_control_other _ _
    · exact session_control_other _ _
  cases h with
  | refused =>
    intro n hn
    rw [List.mem_singleton.mp hn]
    exact session_control_other _ _
  | repeated => exact hcompletion _ _ _ _
  | completed => exact hcompletion _ _ _ _
  | _ => simp [Posting.packets]

theorem data_change_pending {d d' : Device} {request : Packet} {posting : Posting}
    (h : DataChange d request posting d') :
    d'.pendingNotifications = d.pendingNotifications := by
  cases h <;> rfl

theorem Device.NoErrorWaits.packet {d : Device} (h : d.NoErrorWaits)
    (hs : d.scenario ≠ .delayedNotifications) (request : Packet) :
    (d.handlePacket request).2.device.NoErrorWaits := by
  intro n hn he
  by_cases hcommand : request.mt = mtCommand
  · cases hrc : (d.handlePacket request).1 with
    | ok =>
      exact h n (errors_waited hcommand hrc he (List.mem_append_right _ hn)) he
    | err =>
      obtain ⟨-,-,-,hpending⟩ := error_reported hcommand hs hrc
      exact h n (hpending hn) he
  by_cases hdata : request.mt = mtData
  · obtain ⟨rc,response,posting,d',hserved,hx⟩ := handle_packet_served d request (Or.inl hdata)
    rw [posted_finalized] at hx
    rw [hx] at hn
    cases hserved with
    | command _ _ _ _ mt => exact hcommand mt
    | data _ _ _ change =>
      rcases settled_held_mem (List.mem_append_right _ hn) with hwaited | hposted
      · exact h n (by rwa [data_change_pending change] at hwaited) he
      · exact data_change_other change n hposted he
  · rw [handle_packet_other d request hdata hcommand] at hn
    exact h n hn he

theorem no_error_waits {profile : Profile} {scenario : Scenario}
    (hs : scenario ≠ .delayedNotifications) (ops : List Op) :
    (Run.reached profile scenario ops).engine.device.NoErrorWaits := by
  have hstep : ∀ (r : Run) (op : Op),
      r.engine.device.scenario = scenario ∧ r.engine.device.NoErrorWaits →
      (r.step op).engine.device.scenario = scenario ∧ (r.step op).engine.device.NoErrorWaits := by
    intro r op hr
    constructor
    · exact (r.step_scenario op).trans hr.1
    · exact r.step_pending op (events_post_other _)
        (fun request _ => hr.2.packet (hr.1.symm ▸ hs) request) hr.2
  have hinit : (Run.init profile scenario).engine.device.NoErrorWaits :=
    List.forall_mem_nil _
  exact (Runs.invariant_of_all_steps hstep _ ops ⟨rfl,hinit⟩).2

/-- Of every reachable device of the shipped profile and every command: one response with the
request's identifiers and a payload of legal length, the code of success exactly for the
status of success, and otherwise, unless notifications are deferred, that status as a generic
error. -/
theorem commands_answered (scenario : Scenario) (ops : List Op) (request : Packet)
    (hmt : request.mt = mtCommand) :
    let d := (Run.reached defaultProfile scenario ops).engine.device
    ∃ response, (d.handlePacket request).2.result.response = some response ∧
      response.mt = mtResponse ∧ response.gid = request.gid ∧ response.oid = request.oid ∧
      1 ≤ response.payload.length ∧ response.payload.length ≤ maxPayload ∧
      ((d.handlePacket request).1 = .ok ↔ byteAt response.payload 0 = statusOk) ∧
      (scenario ≠ .delayedNotifications →
        ((d.handlePacket request).2.result.notification =
            some (coreGenericErrorNotification (byteAt response.payload 0)) ↔
          (d.handlePacket request).1 ≠ .ok)) := by
  intro d
  have hprofile : d.profile = defaultProfile := Run.reached_profile ops
  obtain ⟨response,hresponse,hmt',hgid,hoid,hshort,hlong,hcode⟩ :=
    (dispatch_command_replied d request).sound hprofile
  rw [← handle_command_response d request hmt] at hresponse
  refine ⟨response,hresponse,hmt',hgid,hoid,hshort,hlong,?_,fun hs => ?_⟩
  · rw [handle_command d request hmt]
    exact hcode
  constructor
  · intro hn hrc
    have hwaits := errors_waited hmt hrc (n := coreGenericErrorNotification
      (byteAt response.payload 0)) ⟨rfl,rfl⟩ (List.mem_append_left _ (by
        rw [show (d.handlePacket request).2.mail.slot = _ from hn]
        exact List.mem_singleton_self _))
    exact no_error_waits hs ops _ hwaits ⟨rfl,rfl⟩
  · intro hrc
    have hscenario : d.scenario ≠ .delayedNotifications := by
      show (Run.reached defaultProfile scenario ops).engine.device.scenario ≠ _
      rw [Run.reached_scenario]
      exact hs
    obtain ⟨response',hresponse',hn,-⟩ := error_reported hmt hscenario
      (by cases h : (d.handlePacket request).1 <;> simp_all)
    rw [hresponse] at hresponse'
    cases hresponse'
    exact hn

/-- A fresh device refuses to stop a session and counts its sessions. -/
theorem stop_and_count_answered :
    let d := (Run.reached defaultProfile .default []).engine.device
    (∃ response, (d.handlePacket (stopRequest 1)).2.result.response = some response ∧
      ((d.handlePacket (stopRequest 1)).1 = .ok ↔ byteAt response.payload 0 = statusOk)) ∧
    ∃ response, (d.handlePacket getCountRequest).2.result.response = some response ∧
      ((d.handlePacket getCountRequest).1 = .ok ↔ byteAt response.payload 0 = statusOk) := by
  constructor
  · rcases commands_answered .default [] (stopRequest 1) rfl with
      ⟨response,hresponse,-,-,-,-,-,hcode,-⟩
    exact ⟨response,hresponse,hcode⟩
  · rcases commands_answered .default [] getCountRequest rfl with
      ⟨response,hresponse,-,-,-,-,-,hcode,-⟩
    exact ⟨response,hresponse,hcode⟩

end UciSim
