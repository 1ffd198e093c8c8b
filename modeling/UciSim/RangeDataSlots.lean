import UciSim.General.Patches
import UciSim.Schedule

/-!
# The slot a measurement reports

A range data notification carries the responder's slot index at a fixed place of
the template. The session was consistent when its event was served, so the index
lies below the slots of its ranging round.
-/

set_option autoImplicit false

namespace UciSim

theorem set_bytes_overwrite (payload : List UInt8) (offset : ℕ) (bytes : List UInt8) :
    setBytes payload offset bytes = Patches.overwrite payload offset bytes := by
  induction bytes generalizing payload offset with
  | nil => rfl
  | cons b rest ih => exact ih _ _

theorem set_bytes_frame (payload : List UInt8) (offset : ℕ) (bytes : List UInt8) (k : ℕ)
    (h : k < offset ∨ offset+bytes.length ≤ k) :
    (setBytes payload offset bytes)[k]? = payload[k]? := by
  rw [set_bytes_overwrite]
  exact Patches.overwrite_frame payload offset bytes k h

theorem mask_bytes_frame (mask field offset : UInt8) (width : ℕ) (payload : List UInt8) (k : ℕ)
    (h : k < offset.toNat ∨ offset.toNat+width ≤ k) :
    (maskBytes mask field offset width payload)[k]? = payload[k]? := by
  unfold maskBytes
  split
  · exact set_bytes_frame _ _ _ _ (by rwa [List.length_replicate])
  · rfl

/-- Where the template holds the slot index. -/
def Profile.slotIndexOffset (profile : Profile) : UInt8 :=
  profile.rangeDataMeasurementDistanceOffset+2+2+1+2+1+2+1+2+1

theorem slot_byte (mask field offset rssiOffset slot : UInt8) (payload : List UInt8)
    (hne : rssiOffset ≠ offset) (b : UInt8)
    (hb : b ∈ (maskBytes mask field rssiOffset 1
      (setBytes payload offset.toNat [slot]))[offset.toNat]?) : b = slot := by
  have hapart : rssiOffset.toNat ≠ offset.toNat := fun h => hne (UInt8.toNat_inj.mp h)
  rw [mask_bytes_frame _ _ _ _ _ _ (by omega), setBytes, setBytes] at hb
  rw [List.getElem?_set_self'] at hb
  rcases Option.map_eq_some_iff.mp hb with ⟨-,-,rfl⟩
  rfl

theorem build_range_data_slot {profile : Profile} {sample : Measurement}
    {policyResult : PolicyResult} {oid : UInt8} {n : Packet}
    (h : buildRangeDataNotification profile sample policyResult oid = some n) (b : UInt8)
    (hb : b ∈ n.payload[profile.slotIndexOffset.toNat]?) : b = sample.slotIndex := by
  unfold buildRangeDataNotification at h
  split at h
  · cases h
  cases h
  have hne : ∀ base : UInt8, base+2 ≠ base+1 := by
    intro base he
    exact absurd ((UInt8.add_right_inj base).mp he) (by decide)
  exact slot_byte _ _ _ _ _ _ (hne _) b hb

theorem mem_queue_accepted {x : Exchange} {n m : Packet}
    (h : n ∈ (x.queueNotification m).2.accepted) : n ∈ x.accepted ∨ n = m := by
  unfold Exchange.queueNotification at h
  split at h
  · exact Or.inl h
  · rcases List.mem_append.mp h with h | h
    · exact Or.inl h
    · exact Or.inr (List.mem_singleton.mp h)

/-- The notification reports a sample of the session at slot `i`. -/
def Device.Reports (d : Device) (i : Fin maxSessions) (n : Packet) : Prop :=
  buildRangeDataNotification d.profile
    { initRangingSample d.profile (d.sessions i) with sequenceNumber := d.nextRangingSequence }
    (d.samplePolicy i) d.profile.rangeDataNotificationOid = some n

theorem emit_range_data_accepted {d : Device} {i : Fin maxSessions} {n : Packet}
    (h : n ∈ ((Exchange.start d).emitRangeData (initRangingSample d.profile (d.sessions i))
      (d.samplePolicy i)).2.accepted) : d.Reports i n := by
  unfold Exchange.emitRangeData at h
  dsimp only at h
  split at h
  · split at h
    · cases h
    · rename_i notification hbuild
      rcases mem_queue_accepted h with h | rfl
      · cases h
      · exact hbuild
  · cases h

theorem emit_ranging_stream_accepted {d : Device} {i : Fin maxSessions} {n : Packet}
    (h : n ∈ ((Exchange.start d).emitRangingStream i).2.accepted) :
    d.Reports i n ∨ n.gid = gidSessionConfig := by
  unfold Exchange.emitRangingStream at h
  dsimp only at h
  rw [show (Exchange.start d).device = d from rfl] at h
  split at h
  · cases h
  split at h
  · rw [Exchange.finish_ranging_eq] at h
    rcases mem_queue_accepted h with h | rfl
    · cases h
    · exact Or.inr rfl
  have hsample := emit_range_data_accepted (d := d) (i := i) (n := n)
  unfold Device.samplePolicy at hsample
  generalize (Exchange.start d).emitRangeData _ _ = emitted at h hsample
  rcases emitted with ⟨rc,x⟩
  cases rc with
  | err => exact Or.inl (hsample h)
  | ok =>
    dsimp only at h
    split at h
    · rw [Exchange.finish_ranging_eq] at h
      rcases mem_queue_accepted h with h | rfl
      · exact Or.inl (hsample h)
      · exact Or.inr rfl
    · exact Or.inl (hsample h)

/-- The tick serves a ranging event of the session at slot `i` and produces `n`, a
notification of the ranging control group. -/
def Engine.EmitsRangeData (e : Engine) (elapsedMs : UInt32) (i : Fin maxSessions)
    (n : Packet) : Prop :=
  ∃ event d, (e.device.tickEvents elapsedMs).dequeueReadyEvent = some (event,d) ∧
    event.type = .rangeData ∧ d.findSession event.sessionId = some i ∧
    n ∈ (e.tick elapsedMs).produced ∧ n.gid = gidSessionControl

theorem Engine.EmitsRangeData.reports {e : Engine} {elapsedMs : UInt32} {i : Fin maxSessions}
    {n : Packet} (h : e.EmitsRangeData elapsedMs i n) :
    e.device.Reports i n ∧ (e.device.sessions i).allocated = true := by
  rcases h with ⟨event,d,hready,htype,hfound,hn,hgid⟩
  rcases Device.dequeue_ready_event_some hready with ⟨-,hd⟩
  have hproduced : (e.tick elapsedMs).produced =
      ((Exchange.start d).emitRangingStream i).2.accepted := by
    rw [← Engine.process_range_data_produced ⟨d,e.outboundPackets⟩ i]
    unfold Engine.tick Engine.processReadyEvent
    dsimp only
    rw [hready]
    dsimp only
    rw [htype, hfound]
  rw [hproduced] at hn
  have hallocated := (Device.find_session_some hfound).1
  rcases emit_ranging_stream_accepted hn with hreports | hconfig
  · rw [hd] at hreports hallocated
    exact ⟨hreports,hallocated⟩
  · exact absurd (hgid.symm.trans hconfig) (by decide)

/-- Where the profile reports every refusal at once and its defaults keep the scheduler's
relations, so does every session in use of every reached device, which also stores each of
the parameters at its length if the defaults do. Every range data notification a call emits
carries a slot index below the slots of its session's ranging round. -/
theorem schedule_consistent (profile : Profile) (scenario : Scenario)
    (hsurfaces : profile.ReportsAtOnce)
    (hdefaults : (Session.zero.storeDefaults profile.defaultSessionAppConfigs).Scheduled)
    (ops : List Op) :
    (∀ i, ((Run.reached profile scenario ops).engine.device.sessions i).allocated = true →
      ((Run.reached profile scenario ops).engine.device.sessions i).Scheduled ∧
        ∀ reader ∈ Session.scheduleReaders,
          (Session.zero.storeDefaults profile.defaultSessionAppConfigs).Holds reader →
            ((Run.reached profile scenario ops).engine.device.sessions i).Holds reader) ∧
    ∀ op e elapsedMs, (Run.reached profile scenario ops).ticking op = some (e,elapsedMs) →
      ∀ i n, e.EmitsRangeData elapsedMs i n →
        ∀ slots, (e.device.sessions i).read Session.slotsPerRrReader = some [slots] →
          ∀ b ∈ n.payload[profile.slotIndexOffset.toNat]?, b < slots := by
  have hlaw := hsurfaces.keeps_schedule hdefaults
  have hlawful := hlaw.reached scenario ops
  constructor
  · intro i ha
    constructor
    · exact hlawful.held i ha
    · intro reader hr hholds
      exact ((hsurfaces.keeps_lengths hr hholds).reached scenario ops).held i ha
  · intro op e elapsedMs hticks i n hemits slots hslots b hb
    have hserved := hlaw.ticking hlawful hticks
    rcases hemits.reports with ⟨hreports,hallocated⟩
    unfold Device.Reports at hreports
    rw [hserved.profile] at hreports
    rw [build_range_data_slot hreports b hb]
    exact (hserved.held i hallocated).slots slots hslots

theorem default_scheduled :
    (Session.zero.storeDefaults defaultProfile.defaultSessionAppConfigs).Scheduled := by
  constructor
  · intro slots hslots
    have hread : (Session.zero.storeDefaults defaultProfile.defaultSessionAppConfigs).read
        Session.slotsPerRrReader = some [0x06] := by decide +kernel
    cases hread.symm.trans hslots
    decide +kernel
  · intro stride hstride hne
    have hread : (Session.zero.storeDefaults defaultProfile.defaultSessionAppConfigs).read
        Session.blockStrideLengthReader = some [0x00] := by decide +kernel
    cases hread.symm.trans hstride
    exact absurd rfl hne
  · intro capMax capMin hcap
    have hread : (Session.zero.storeDefaults defaultProfile.defaultSessionAppConfigs).read
        Session.capSizeRangeReader = some [0x00,0x00] := by decide +kernel
    cases hread.symm.trans hcap
    exact ⟨by decide,fun hne => absurd ⟨rfl,rfl⟩ hne⟩

theorem schedule_consistent_default :
    ((Run.reached defaultProfile .rangingStream [.submit (initRequest 1),
      .submit (setAppConfigRequest 1 1 [appConfigResponderSlotIndex,1,4]),
      .submit (startRequest 1)]).engine.device.sessions 0).Scheduled :=
  ((schedule_consistent defaultProfile .rangingStream (by decide +kernel)
    default_scheduled _).1 0 (by decide +kernel)).1

end UciSim
