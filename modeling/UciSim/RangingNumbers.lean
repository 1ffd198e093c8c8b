import UciSim.FreshStart
import UciSim.PacketScripts
import UciSim.RangeDataSlots

/-!
# The numbers of range data notifications

The device numbers the measurements of all sessions together, and a reset starts
again from one. Where the template shows the number, the host receives the numbers
one by one, however the sessions take turns.
-/

set_option autoImplicit false

namespace UciSim

open Exchange

/-- The fields written over the sequence number, with their widths. -/
def Profile.rangeDataFields (profile : Profile) : List (UInt8 × ℕ) :=
  let distanceOffset := profile.rangeDataMeasurementDistanceOffset
  [(profile.rangeDataPrimarySessionIdOffset,4),(profile.rangeDataSecondarySessionIdOffset,4),
    (profile.rangeDataIntervalOffset,4),(profile.rangeDataMeasurementTypeOffset,1),
    (distanceOffset,2),(distanceOffset+2,2),(distanceOffset+2+2,1),(distanceOffset+2+2+1,2),
    (distanceOffset+2+2+1+2,1),(distanceOffset+2+2+1+2+1,2),(distanceOffset+2+2+1+2+1+2,1),
    (distanceOffset+2+2+1+2+1+2+1,2),(distanceOffset+2+2+1+2+1+2+1+2,1),
    (profile.slotIndexOffset,1),(distanceOffset+2+2+1+2+1+2+1+2+2,1)]

/-- Range data notifications can be built, show their sequence number, and are told from the
other notifications of their group. -/
structure Profile.ShowsSequence (profile : Profile) : Prop where
  length : profile.rangeDataPayloadLen ≠ 0
  fits : profile.rangeDataPayloadLen.toNat ≤ maxPayload
  whole : profile.rangeDataSequenceOffset.toNat+4 ≤ profile.rangeDataPayloadLen.toNat
  apart : ∀ field ∈ profile.rangeDataFields,
    profile.rangeDataSequenceOffset.toNat+4 ≤ field.1.toNat ∨
      field.1.toNat+field.2 ≤ profile.rangeDataSequenceOffset.toNat
  known : profile.rangeDataNotificationOid ∉ controlNotificationOids

theorem build_range_data_byte {profile : Profile} (hshows : profile.ShowsSequence)
    {sample : Measurement} {policyResult : PolicyResult} {oid : UInt8} {n : Packet}
    (h : buildRangeDataNotification profile sample policyResult oid = some n) {k : ℕ}
    (hk : k < 4) :
    n.payload[profile.rangeDataSequenceOffset.toNat+k]? =
      (writeU32Le sample.sequenceNumber)[k]? := by
  have happart : ∀ field ∈ profile.rangeDataFields,
      profile.rangeDataSequenceOffset.toNat+k < field.1.toNat ∨
        field.1.toNat+field.2 ≤ profile.rangeDataSequenceOffset.toNat+k := by
    intro field hfield
    rcases hshows.apart field hfield with hbefore | hafter
    · exact Or.inl (by omega)
    · exact Or.inr (by omega)
  unfold Profile.rangeDataFields at happart
  simp only [List.forall_mem_cons] at happart
  obtain ⟨hprimary,hsecondary,hinterval,htype,hdistance,hlocalAzimuth,hlocalAzimuthFom,
    hlocalElevation,hlocalElevationFom,hremoteAzimuth,hremoteAzimuthFom,hremoteElevation,
    hremoteElevationFom,hslot,hrssi,-⟩ := happart
  unfold buildRangeDataNotification at h
  rw [if_neg (not_or.mpr ⟨hshows.length,Nat.not_lt.mpr hshows.fits⟩)] at h
  cases h
  show (maskBytes _ _ _ 1 _)[_]? = _
  rw [mask_bytes_frame _ _ _ _ _ _ hrssi, set_bytes_frame _ _ _ _ hslot,
    mask_bytes_frame _ _ _ _ _ _ hremoteElevationFom,
    mask_bytes_frame _ _ _ _ _ _ hlocalElevationFom,
    mask_bytes_frame _ _ _ _ _ _ hremoteAzimuthFom, mask_bytes_frame _ _ _ _ _ _ hlocalAzimuthFom,
    mask_bytes_frame _ _ _ _ _ _ hremoteElevation, mask_bytes_frame _ _ _ _ _ _ hlocalElevation,
    mask_bytes_frame _ _ _ _ _ _ hremoteAzimuth, mask_bytes_frame _ _ _ _ _ _ hlocalAzimuth,
    set_bytes_frame _ _ _ _ (by split <;> exact hdistance), set_bytes_frame _ _ _ _ htype,
    set_bytes_frame _ _ _ _ hinterval, set_bytes_frame _ _ _ _ hsecondary,
    set_bytes_frame _ _ _ _ hprimary]
  rw [set_bytes_overwrite]
  refine Patches.overwrite_written _ _ _ _ hk ?_
  simpa using hshows.whole

theorem build_range_data_number {profile : Profile} (hshows : profile.ShowsSequence)
    {sample : Measurement} {policyResult : PolicyResult} {oid : UInt8} {n : Packet}
    (h : buildRangeDataNotification profile sample policyResult oid = some n) :
    readU32Le n.payload profile.rangeDataSequenceOffset.toNat = sample.sequenceNumber := by
  have hbyte : ∀ k < 4, byteAt n.payload (profile.rangeDataSequenceOffset.toNat+k) =
      byteAt (writeU32Le sample.sequenceNumber) k := by
    intro k hk
    unfold byteAt
    rw [List.getD_eq_getElem?_getD, List.getD_eq_getElem?_getD, build_range_data_byte hshows h hk]
  have hread := read_write_u32_le sample.sequenceNumber []
  rw [List.append_nil] at hread
  rw [← hread]
  unfold readU32Le
  rw [← hbyte 0 (by decide), ← hbyte 1 (by decide), ← hbyte 2 (by decide),
    ← hbyte 3 (by decide)]
  rfl

def Packet.IsRangeData (profile : Profile) (n : Packet) : Prop :=
  n.mt = mtNotification ∧ n.gid = gidSessionControl ∧ n.oid = profile.rangeDataNotificationOid

instance (profile : Profile) (n : Packet) : Decidable (n.IsRangeData profile) :=
  inferInstanceAs (Decidable (_ ∧ _ ∧ _))

def Profile.sequenceNumbers (profile : Profile) (ns : List Packet) : List UInt32 :=
  (ns.filter fun n => n.IsRangeData profile).map fun n =>
    readU32Le n.payload profile.rangeDataSequenceOffset.toNat

section

variable {profile : Profile} {d d' : Device} {ns : List Packet}

theorem sequence_numbers_append (ns ms : List Packet) :
    profile.sequenceNumbers (ns ++ ms) =
      profile.sequenceNumbers ns ++ profile.sequenceNumbers ms := by
  simp [Profile.sequenceNumbers]

theorem sequence_numbers_none (h : ∀ n ∈ ns, ¬ n.IsRangeData profile) :
    profile.sequenceNumbers ns = [] := by
  rw [Profile.sequenceNumbers, List.filter_eq_nil_iff.mpr fun n hn => by simpa using h n hn]
  rfl

theorem Packet.Announces.unnumbered {n : Packet} (h : n.Announces)
    (hshows : profile.ShowsSequence) : ¬ n.IsRangeData profile := by
  rintro ⟨-,hgid,hoid⟩
  exact hshows.known (hoid ▸ h.2 hgid)

theorem response_unnumbered {n : Packet} (h : n.mt = mtResponse) : ¬ n.IsRangeData profile := by
  intro hrange
  exact absurd (h.symm.trans hrange.1) (by decide)

theorem idle_status_unnumbered (session : Session) : ¬ (idleStatus session).IsRangeData profile :=
  fun h => absurd h.2.1 (show ¬ gidSessionConfig = gidSessionControl by decide)

/-- What is sent shows no number, or the device's next one, which is then spent. -/
def Device.Numbers (d : Device) (ns : List Packet) (d' : Device) : Prop :=
  (d.profile.sequenceNumbers ns = [] ∧ d'.nextRangingSequence = d.nextRangingSequence) ∨
    (d.profile.sequenceNumbers ns = [d.nextRangingSequence] ∧
      d'.nextRangingSequence = d.nextRangingSequence+1)

theorem sampled_numbers (h : Sampled d ns d')
    (hn : ∀ n ∈ ns, n.gid = gidSessionControl →
      readU32Le n.payload d.profile.rangeDataSequenceOffset.toNat = d.nextRangingSequence) :
    d.Numbers ns d' := by
  cases h with
  | silent => exact Or.inl ⟨rfl,rfl⟩
  | sent payload =>
    have hnumber := hn _ List.mem_cons_self rfl
    refine Or.inr ⟨?_,rfl⟩
    rw [Profile.sequenceNumbers, List.filter_cons_of_pos (by
      exact decide_eq_true ⟨rfl,rfl,rfl⟩), List.filter_nil, List.map_singleton, hnumber]

theorem ranged_numbers (hshows : d.profile.ShowsSequence) (hidle : d.pendingNotifications = [])
    {i : Fin maxSessions} {rc : Rc} (h : Ranged d i rc ns d')
    (hn : ∀ n ∈ ns, n.gid = gidSessionControl →
      readU32Le n.payload d.profile.rangeDataSequenceOffset.toNat = d.nextRangingSequence) :
    d.Numbers ns d' := by
  cases h with
  | idle => exact Or.inl ⟨rfl,rfl⟩
  | exhausted =>
    exact Or.inl ⟨sequence_numbers_none fun n hn => List.mem_singleton.mp hn ▸
      idle_status_unnumbered _,rfl⟩
  | unbuilt _ _ invalid =>
    exact (invalid.elim hshows.length fun hlong => absurd hshows.fits (Nat.not_le_of_lt hlong)).elim
  | blocked _ _ _ _ _ full =>
    rw [hidle] at full
    cases full
  | measured _ _ _ _ _ sampled =>
    have hsampled := sampled_numbers sampled hn
    exact hsampled
  | finished _ ns d' _ _ _ sampled =>
    have hstatus : d.profile.sequenceNumbers [idleStatus (d.sessions i)] = [] :=
      sequence_numbers_none fun n hn => List.mem_singleton.mp hn ▸ idle_status_unnumbered _
    have hsampled := sampled_numbers sampled fun n h => hn n (List.mem_append_left _ h)
    unfold Device.Numbers
    rw [sequence_numbers_append, hstatus, List.append_nil]
    exact hsampled

theorem announced_unnumbered (hshows : profile.ShowsSequence) (h : ∀ n ∈ ns, n.Announces) :
    profile.sequenceNumbers ns = [] :=
  sequence_numbers_none fun n hn => (h n hn).unnumbered hshows

theorem transferred_numbers (hshows : d.profile.ShowsSequence) {i : Fin maxSessions} {rc : Rc}
    (h : Transferred d i rc ns d') : d.Numbers ns d' := by
  cases h with
  | repeated =>
    exact Or.inl ⟨announced_unnumbered hshows fun n hn => List.mem_singleton.mp hn ▸
      transfer_status_announces _ _ _ _,rfl⟩
  | completed => exact Or.inl ⟨announced_unnumbered hshows (completion_announces _ _ _ _),rfl⟩

theorem resumed_sequence (d : Device) (type : EventType) (i : Fin maxSessions) :
    (d.resumed type i).nextRangingSequence = d.nextRangingSequence := by
  rcases resumed_eq d type i with ⟨events,hresumed⟩
  rw [hresumed]
  rfl

theorem fired_numbers (hshows : d.profile.ShowsSequence) (hidle : d.pendingNotifications = [])
    {event : ScheduledEvent} {flushes : Bool} (h : Fired d event flushes ns d')
    (hn : event.type = .rangeData → ∀ i, d.findSession event.sessionId = some i → ∀ n ∈ ns,
      n.gid = gidSessionControl →
        readU32Le n.payload d.profile.rangeDataSequenceOffset.toNat = d.nextRangingSequence) :
    d.Numbers ns d' := by
  have hresumed : ∀ {d' : Device} (type : EventType) (i : Fin maxSessions), d.Numbers ns d' →
      d.Numbers ns (d'.resumed type i) := by
    intro d' type i hd'
    unfold Device.Numbers
    rwa [resumed_sequence]
  cases h with
  | unmatched | transferIdle => exact Or.inl ⟨rfl,rfl⟩
  | rangingFailed i _ _ type found ranged =>
    exact ranged_numbers hshows hidle ranged (hn type i found)
  | rangingOver i _ _ type found ranged =>
    exact ranged_numbers hshows hidle ranged (hn type i found)
  | rangingOn i _ _ type found ranged =>
    exact hresumed _ _ (ranged_numbers hshows hidle ranged (hn type i found))
  | transferFailed i _ _ _ _ _ transferred => exact transferred_numbers hshows transferred
  | transferOver i _ _ _ _ _ transferred => exact transferred_numbers hshows transferred
  | transferOn i _ _ _ _ _ transferred =>
    exact hresumed _ _ (transferred_numbers hshows transferred)

theorem tick_numbers (hshows : d.profile.ShowsSequence) (hq : d.Quiet) (outbound : List Packet)
    (elapsedMs : UInt32) :
    d.Numbers (((Engine.mk d outbound).tick elapsedMs).produced)
      ((Engine.mk d outbound).tick elapsedMs).engine.device := by
  obtain ⟨flushes,ns,d',hticked,-,hproduced,hengine⟩ := tick_forwards d outbound elapsedMs hq
  rw [carrying_idle hq.idle] at hproduced hengine
  rw [hproduced, hengine]
  cases hticked with
  | waiting => exact Or.inl ⟨rfl,rfl⟩
  | served event d₁ _ _ _ ready fired =>
    have hd₁ := (Device.dequeue_ready_event_some ready).2
    have hprofile : d₁.profile = d.profile := by rw [hd₁]; rfl
    have hsequence : d₁.nextRangingSequence = d.nextRangingSequence := by rw [hd₁]; rfl
    have hidle : d₁.pendingNotifications = [] := by rw [hd₁]; exact hq.idle
    have hfired := fired_numbers (hprofile.symm ▸ hshows) hidle fired
        fun type i found n hn hgid => by
      have hemits : (Engine.mk d outbound).EmitsRangeData elapsedMs i n :=
        ⟨event,d₁,ready,type,found,hproduced ▸ hn,hgid⟩
      rw [hprofile, hsequence]
      exact build_range_data_number hshows hemits.reports.1
    unfold Device.Numbers at hfired
    rw [hprofile, hsequence] at hfired
    exact hfired

theorem handled_unnumbered (hshows : d.profile.ShowsSequence) {request : Packet} {rc : Rc}
    {response : Option Packet} {posting : Posting} {m : Mail}
    (hmt : request.mt = mtData ∨ request.mt = mtCommand) (hreset : ¬ d.AcceptsReset request)
    (hq : d.Quiet) (h : Handled d request rc d' response posting m) :
    d'.profile = d.profile ∧ d'.nextRangingSequence = d.nextRangingSequence ∧
      d.profile.sequenceNumbers (response.toList ++ m.accepted) = [] := by
  obtain ⟨response',posting',d₁,hscript⟩ := packet_scripted d [] request hmt hreset
  have hhere := hscript.here
  rw [h.outcome, posted_finalized] at hhere
  have hprofile : d'.profile = d₁.profile :=
    congrArg (fun x : Exchange => x.device.profile) hhere
  have hsequence : d'.nextRangingSequence = d₁.nextRangingSequence :=
    congrArg (fun x : Exchange => x.device.nextRangingSequence) hhere
  have hresponse : response = response' := congrArg (fun x : Exchange => x.result.response) hhere
  have hheld : Mailbox.held m = Mailbox.held (posting'.settled d₁ d.pendingNotifications.length) :=
    congrArg (fun x : Exchange => Mailbox.held x.mail) hhere
  refine ⟨hprofile.trans hscript.same.profile,hsequence.trans hscript.same.sequence,
    sequence_numbers_none fun n hn => ?_⟩
  rcases List.mem_append.mp hn with hn | hn
  · exact response_unnumbered (hscript.responds n (hresponse ▸ Option.mem_toList.mp hn))
  · rw [h.accepted, ← h.held, hheld] at hn
    rcases settled_held_mem hn with hn | hn
    · rw [hscript.same.pending, hq.idle] at hn
      cases hn
    · exact (hscript.announces n hn).unnumbered hshows

theorem submit_numbers {e : Engine} (hshows : e.device.profile.ShowsSequence)
    (hq : e.device.Quiet) {request : Packet} (hreset : ¬ e.device.AcceptsReset request)
    (hroom : e.outboundPackets.length+e.device.demand (.submit request) ≤ maxOutboundPackets) :
    e.device.Numbers (e.submitPacket request).produced (e.submitPacket request).engine.device := by
  by_cases hmt : request.mt = mtData ∨ request.mt = mtCommand
  swap
  · obtain ⟨hdata,hcommand⟩ := not_or.mp hmt
    rw [Engine.submit_other e request hdata hcommand]
    exact Or.inl ⟨rfl,rfl⟩
  obtain ⟨rc,d',response,posting,m,h⟩ := handled_packet e.device request hmt hq
  obtain ⟨hprofile,hsequence,hnone⟩ := handled_unnumbered hshows hmt hreset hq h
  have hhanded := h.handed_le_demand
  obtain ⟨-,-,-,hout⟩ | ⟨-,hout⟩ := submit_queued h (by omega)
  · rw [hout]
    exact Or.inl ⟨hnone,hsequence⟩
  · have hticked := tick_numbers (d := d'.withPending []) (hprofile.symm ▸ hshows)
      ⟨h.quiet.prompt,rfl⟩ (e.outboundPackets ++ (response.toList ++ posting.packets)) 0
    unfold Device.Numbers at hticked ⊢
    rw [show (d'.withPending []).profile = _ from hprofile,
      show (d'.withPending []).nextRangingSequence = _ from hsequence] at hticked
    rw [hout, sequence_numbers_append, hnone, List.nil_append]
    exact hticked

end

def countedNumbers (k : ℕ) : List UInt32 := (List.range k).map fun n => UInt32.ofNat (n+1)

theorem counted_succ (k : ℕ) :
    countedNumbers (k+1) = countedNumbers k ++ [UInt32.ofNat (k+1)] := by
  simp [countedNumbers, List.range_succ]

theorem counted_prefix {numbers : List UInt32} {k : ℕ} (h : numbers <+: countedNumbers k) :
    numbers = countedNumbers numbers.length := by
  have hlen : numbers.length ≤ k := by simpa [countedNumbers] using h.length_le
  rw [List.prefix_iff_eq_take.mp h, countedNumbers, ← List.map_take, List.take_range,
    min_eq_left hlen, countedNumbers]
  simp

namespace Run

def Resets (r : Run) (op : Op) : Prop :=
  ∃ request, op = .submit request ∧ r.engine.device.AcceptsReset request

instance (r : Run) : (op : Op) → Decidable (r.Resets op)
  | .submit request => decidable_of_iff (r.engine.device.AcceptsReset request)
      ⟨fun h => ⟨request,rfl,h⟩,fun ⟨_,hop,h⟩ => by cases hop; exact h⟩
  | .tick _ => isFalse fun ⟨_,hop,_⟩ => nomatch hop
  | .dequeue => isFalse fun ⟨_,hop,_⟩ => nomatch hop

/-- A run that starts, or that has just reset the device. -/
def Restarts (profile : Profile) (scenario : Scenario) (ops : List Op) : Prop :=
  ops = [] ∨ ∃ earlier op, ops = earlier ++ [op] ∧ (reached profile scenario earlier).Resets op

/-- Since the restart the host was sent the numbers from one on, and the device gives the next. -/
structure Counts (profile : Profile) (before : List Packet) (r : Run) : Prop where
  quiet : r.engine.device.Quiet
  shows : r.engine.device.profile = profile
  numbers : ∃ since k, r.emitted = before ++ since ∧
    profile.sequenceNumbers since = countedNumbers k ∧
      r.engine.device.nextRangingSequence = UInt32.ofNat (k+1)

theorem Counts.step {profile : Profile} {before : List Packet} {r : Run}
    (h : r.Counts profile before) (hshows : profile.ShowsSequence) {op : Op}
    (hroom : r.Uncongested op) (hreset : ¬ r.Resets op) : (r.step op).Counts profile before := by
  obtain ⟨since,k,hsince,hnumbers,hnext⟩ := h.numbers
  obtain ⟨ns,-,hidle,hemitted,hproduced⟩ := r.step_called op (hroom.fits h.quiet) h.quiet
  have hd : r.engine.device.profile.ShowsSequence := h.shows.symm ▸ hshows
  have hcall : r.engine.device.Numbers ns (r.step op).engine.device := by
    cases op with
    | submit request =>
      have hns : ns = (r.engine.submitPacket request).produced :=
        (List.append_cancel_left hproduced).symm
      rw [hns]
      exact submit_numbers hd h.quiet (fun haccepts => hreset ⟨request,rfl,haccepts⟩)
        (hroom.fits h.quiet)
    | tick elapsedMs =>
      have hns : ns = (r.engine.tick elapsedMs).produced :=
        (List.append_cancel_left hproduced).symm
      rw [hns]
      exact tick_numbers hd h.quiet r.engine.outboundPackets elapsedMs
    | dequeue =>
      have hns : ns = [] := by
        cases hout : r.engine.outboundPackets with
        | nil => simpa [step_dequeue_nil hout] using hproduced
        | cons packet rest => simpa [step_dequeue_cons hout] using hproduced
      rw [hns]
      exact Or.inl ⟨rfl,congrArg Device.nextRangingSequence (step_dequeue_device r)⟩
  constructor
  · exact ⟨by rw [r.step_scenario op]; exact h.quiet.prompt,hidle⟩
  · rw [r.step_profile op]
    exact h.shows
  · rw [Device.Numbers, h.shows] at hcall
    rcases hcall with ⟨hnone,hsame⟩ | ⟨hone,hspent⟩
    · refine ⟨since ++ ns,k,?_,?_,hsame.trans hnext⟩
      · rw [hemitted, hsince, List.append_assoc]
      · rw [sequence_numbers_append, hnone, List.append_nil, hnumbers]
    · refine ⟨since ++ ns,k+1,?_,?_,?_⟩
      · rw [hemitted, hsince, List.append_assoc]
      · rw [sequence_numbers_append, hone, hnumbers, hnext, counted_succ]
      · rw [hspent, hnext]
        exact (UInt32.ofNat_add (k+1) 1).symm

theorem Restarts.counts {profile : Profile} {scenario : Scenario} {ops : List Op}
    (h : Restarts profile scenario ops) (hprompt : scenario ≠ .delayedNotifications) :
    (reached profile scenario ops).Counts profile (reached profile scenario ops).emitted := by
  have hfresh : (reached profile scenario ops).engine.device =
      Device.initWithProfile profile scenario := by
    rcases h with rfl | ⟨earlier,op,rfl,request,rfl,haccepts⟩
    · rfl
    · have hs : (reached profile scenario earlier).engine.device.scenario = scenario :=
        reached_scenario earlier
      have hp : (reached profile scenario earlier).engine.device.profile = profile :=
        reached_profile earlier
      obtain ⟨-,-,-,hdevice,-⟩ := reset_step _ haccepts (by rw [hs]; exact hprompt)
      rw [hp, hs] at hdevice
      rw [reached, Runs.run_append]
      exact hdevice
  constructor
  · rw [hfresh]
    exact ⟨hprompt,rfl⟩
  · rw [hfresh]
    rfl
  · refine ⟨[],0,(List.append_nil _).symm,rfl,?_⟩
    rw [hfresh]
    rfl

end Run

/-- In the ranging stream scenario, where the template shows the sequence number, every
uncongested run sends the host the numbers 1, 2, 3 and so on after its start or its last reset:
those of what was put out since, and of what the host has dequeued of it. -/
theorem ranging_numbers (profile : Profile) (hshows : profile.ShowsSequence)
    (before later : List Op) (hrestarts : Run.Restarts profile .rangingStream before)
    (huncongested : Run.Along profile .rangingStream Run.Uncongested (before ++ later))
    (hlast : Runs.Along Run.step (fun r op => ¬ r.Resets op)
      (Run.reached profile .rangingStream before) later) :
    let r₀ := Run.reached profile .rangingStream before
    let r := Run.reached profile .rangingStream (before ++ later)
    let numbers := profile.sequenceNumbers (r.delivered.drop r₀.emitted.length)
    let unread := profile.sequenceNumbers (r.emitted.drop r₀.emitted.length)
    numbers = countedNumbers numbers.length ∧ unread = countedNumbers unread.length := by
  intro r₀ r numbers unread
  have hstart : r₀.Counts profile r₀.emitted := hrestarts.counts (by decide)
  have hcounts : r.Counts profile r₀.emitted := by
    have hgood := Runs.along_and _ _ ((Runs.along_append _ _ _).mp huncongested).2 hlast
    have hrun := Runs.invariant_of_steps (I := fun r : Run => r.Counts profile r₀.emitted)
      (fun _ _ hr hop => hr.step hshows hop.1 hop.2) r₀ later hstart hgood
    rwa [← Runs.run_append] at hrun
  obtain ⟨since,k,hsince,hnumbers,-⟩ := hcounts.numbers
  have hunread : unread = countedNumbers k := by
    rw [← hnumbers]
    show profile.sequenceNumbers (r.emitted.drop _) = _
    rw [hsince, List.drop_left]
  constructor
  · have hread : numbers <+: unread := by
      obtain ⟨rest,hrest⟩ : (r.delivered.drop r₀.emitted.length) <+:
          (r.emitted.drop r₀.emitted.length) :=
        (List.prefix_append _ _).drop _
      refine ⟨profile.sequenceNumbers rest,?_⟩
      rw [← sequence_numbers_append, hrest]
    exact counted_prefix (hunread ▸ hread)
  · exact counted_prefix (k := k) (hunread ▸ List.prefix_refl _)

theorem default_shows_sequence : defaultProfile.ShowsSequence where
  length := by decide
  fits := by decide
  whole := by decide
  apart := by decide
  known := by decide

/-- Two sessions that stream side by side, with every answer read. -/
def twoStreams : List Op :=
  [.submit (initRequest 1),.submit (startRequest 1),.dequeue,.dequeue,.dequeue,.dequeue,
    .submit (initRequest 2),.submit (startRequest 2),.dequeue,.dequeue,.dequeue,.dequeue,
    .tick 2000,.tick 0,.dequeue,.dequeue]

/-- What follows the reset, once its answer is read. -/
def twoStreamsAgain : List Op := .dequeue::.dequeue::twoStreams

theorem two_streams_numbered :
    let r₀ := Run.reached defaultProfile .rangingStream (twoStreams ++ [.submit resetRequest])
    let r := Run.reached defaultProfile .rangingStream
      (twoStreams ++ [.submit resetRequest] ++ twoStreamsAgain)
    let numbers := defaultProfile.sequenceNumbers (r.delivered.drop r₀.emitted.length)
    numbers = countedNumbers numbers.length := by
  have hrestarts : Run.Restarts defaultProfile .rangingStream
      (twoStreams ++ [.submit resetRequest]) :=
    Or.inr ⟨twoStreams,_,rfl,resetRequest,rfl,by decide +kernel⟩
  have huncongested : Run.Along defaultProfile .rangingStream Run.Uncongested
      (twoStreams ++ [.submit resetRequest] ++ twoStreamsAgain) := by decide +kernel
  have hlast : Runs.Along Run.step (fun r op => ¬ r.Resets op)
      (Run.reached defaultProfile .rangingStream (twoStreams ++ [.submit resetRequest]))
        twoStreamsAgain := by decide +kernel
  exact (ranging_numbers defaultProfile default_shows_sequence _ _ hrestarts huncongested hlast).1

def unreadNumber : List Op :=
  [.submit (initRequest 1),.submit (startRequest 1),.dequeue,.dequeue,.dequeue,.dequeue,
    .tick 2000,.submit resetRequest]

def restartedStream : List Op :=
  [.submit (initRequest 1),.submit (startRequest 1),.tick 2000] ++ List.replicate 8 .dequeue

/-- A template whose session identifier lies over the number. -/
def hidingProfile : Profile := { defaultProfile with rangeDataPrimarySessionIdOffset := 0 }

/-- The host dequeues the number one after a reset, which did not empty the outbound queue, and
again from the session it starts then. The other template shows the session's identifier. -/
theorem number_repeated_and_hidden :
    Run.Along defaultProfile .rangingStream Run.Uncongested (unreadNumber ++ restartedStream) ∧
      (let r₀ := Run.reached defaultProfile .rangingStream unreadNumber
        let r := Run.reached defaultProfile .rangingStream (unreadNumber ++ restartedStream)
        let numbers := defaultProfile.sequenceNumbers (r.delivered.drop r₀.delivered.length)
        numbers = [1,1] ∧ numbers ≠ countedNumbers numbers.length) ∧
      (let r := Run.reached hidingProfile .rangingStream
          [.submit (initRequest 7),.submit (startRequest 7),.tick 2000]
        let numbers := hidingProfile.sequenceNumbers r.emitted
        numbers = [7] ∧ numbers ≠ countedNumbers numbers.length) := by
  decide +kernel

end UciSim
