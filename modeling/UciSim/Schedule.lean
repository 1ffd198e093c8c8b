import UciSim.CheckResults
import UciSim.TableLaws

/-!
# The scheduler parameters

Six parameters are coupled by three relations. Where every refusal is reported
at once, a set request that touches a parameter re-checks each relation the
parameter takes part in, so no order of requests breaks one. The slot a
measurement reports lies inside the ranging round of its session.
-/

set_option autoImplicit false

namespace UciSim

namespace Session

/-- The relations between the scheduler's parameters. -/
structure Scheduled (session : Session) : Prop where
  slots : ∀ slots, session.read slotsPerRrReader = some [slots] →
    session.getResponderSlotIndex < slots
  stride : ∀ stride, session.read blockStrideLengthReader = some [stride] → stride ≠ 0 →
    session.read rangingTimeStructReader = some [0x01] ∧
      session.read scheduledModeReader = some [scheduledModeTimeScheduled]
  cap : ∀ capMax capMin, session.read capSizeRangeReader = some [capMax,capMin] →
    capMin ≤ capMax ∧ (¬ (capMin = 0 ∧ capMax = 0) →
      session.read scheduledModeReader = some [scheduledModeContentionBased] ∧
        ∃ slots, session.read slotsPerRrReader = some [slots] ∧ slots ≠ 0 ∧ capMax ≤ slots-1)

def scheduleReaders : List Reader := [responderSlotIndexReader, slotsPerRrReader,
  blockStrideLengthReader, rangingTimeStructReader, scheduledModeReader, capSizeRangeReader]

/-- The parameter is stored with the length its reader expects. -/
def Holds (session : Session) (reader : Reader) : Prop :=
  ∃ value, session.read reader = some value ∧ value.length = reader.size

theorem get_responder_of_read {session : Session} {responder : UInt8}
    (h : session.read responderSlotIndexReader = some [responder]) :
    session.getResponderSlotIndex = responder := by
  rw [getResponderSlotIndex, readU8, h]

end Session

open Session

section

variable {profile : Profile} {session session' : Session} {configId : UInt8} {value : List UInt8}

theorem slot_topology_rechecked (h : session.Overrides configId value session')
    (hid : configId = appConfigSlotsPerRr ∨ configId = appConfigResponderSlotIndex)
    (hok : validateSessionAppConfig profile session configId value = .ok ()) :
    validateSlotTopologyContext profile session' noOverride [] = .ok () := by
  rw [← slot_topology_override profile h]
  rcases hid with rfl | rfl
  · rcases expect_u8_ok.mp hok with ⟨b,rfl,hcheck⟩
    exact (then_ok.mp (then_ok.mp hcheck).2).1
  · rcases expect_u8_ok.mp hok with ⟨b,rfl,hcheck⟩
    exact hcheck

theorem block_stride_rechecked (h : session.Overrides configId value session')
    (hid : configId = appConfigBlockStrideLength ∨ configId = appConfigRangingTimeStruct ∨
      configId = appConfigScheduledMode)
    (hok : validateSessionAppConfig profile session configId value = .ok ()) :
    validateBlockStrideContext profile session' noOverride [] = .ok () := by
  rw [← block_stride_override profile h]
  rcases hid with rfl | rfl | rfl
  · rcases expect_u8_ok.mp hok with ⟨b,rfl,hcheck⟩
    exact (then_ok.mp hcheck).2
  · rcases expect_u8_ok.mp hok with ⟨b,rfl,hcheck⟩
    exact (then_ok.mp hcheck).2
  · rcases expect_u8_ok.mp hok with ⟨b,rfl,hcheck⟩
    exact (then_ok.mp (then_ok.mp hcheck).2).1

theorem cap_size_range_rechecked (h : session.Overrides configId value session')
    (hid : configId = appConfigCapSizeRange ∨ configId = appConfigScheduledMode ∨
      configId = appConfigSlotsPerRr)
    (hok : validateSessionAppConfig profile session configId value = .ok ()) :
    validateCapSizeRangeContext profile session' noOverride [] = .ok () := by
  rw [← cap_size_range_override profile h]
  rcases hid with rfl | rfl | rfl
  · rcases expect_u16_ok.mp hok with ⟨b0,b1,rfl,hcheck⟩
    exact hcheck
  · rcases expect_u8_ok.mp hok with ⟨b,rfl,hcheck⟩
    exact (then_ok.mp (then_ok.mp hcheck).2).2
  · rcases expect_u8_ok.mp hok with ⟨b,rfl,hcheck⟩
    exact (then_ok.mp (then_ok.mp hcheck).2).2

theorem Session.Scheduled.stored (hs : session.Scheduled)
    (h : session.Overrides configId value session')
    (hok : validatedAppConfigs.contains configId = true →
      validateSessionAppConfig profile session configId value = .ok ()) :
    session'.Scheduled := by
  constructor
  · intro slots hslots
    by_cases hid : configId = appConfigSlotsPerRr ∨ configId = appConfigResponderSlotIndex
    · have hvalid : validatedAppConfigs.contains configId = true := by
        rcases hid with rfl | rfl <;> decide
      rcases (slot_topology_ok profile).mp (slot_topology_rechecked h hid (hok hvalid)) with
        ⟨slots',hslots',-,responder,hresponder,hlt⟩
      rw [get_responder_of_read hresponder]
      cases hslots'.symm.trans hslots
      exact hlt
    · rcases not_or.mp hid with ⟨hnotslots,hnotresponder⟩
      rw [h.read_other _ hnotslots] at hslots
      rw [getResponderSlotIndex, readU8, h.read_other _ hnotresponder]
      exact hs.slots slots hslots
  · intro stride hstride hne
    by_cases hid : configId = appConfigBlockStrideLength ∨ configId = appConfigRangingTimeStruct ∨
        configId = appConfigScheduledMode
    · have hvalid : validatedAppConfigs.contains configId = true := by
        rcases hid with rfl | rfl | rfl <;> decide
      rcases (block_stride_ok profile).mp (block_stride_rechecked h hid (hok hvalid)) with
        ⟨stride',hstride',-,hrelated⟩
      cases hstride'.symm.trans hstride
      exact hrelated hne
    · rcases not_or.mp hid with ⟨hnotstride,hrest⟩
      rcases not_or.mp hrest with ⟨hnottime,hnotmode⟩
      rw [h.read_other _ hnotstride] at hstride
      rw [h.read_other _ hnottime, h.read_other _ hnotmode]
      exact hs.stride stride hstride hne
  · intro capMax capMin hcap
    by_cases hid : configId = appConfigCapSizeRange ∨ configId = appConfigScheduledMode ∨
        configId = appConfigSlotsPerRr
    · have hvalid : validatedAppConfigs.contains configId = true := by
        rcases hid with rfl | rfl | rfl <;> decide
      rcases (cap_size_range_ok profile).mp (cap_size_range_rechecked h hid (hok hvalid)) with
        ⟨capMax',capMin',hcap',hrelated⟩
      cases hcap'.symm.trans hcap
      exact hrelated
    · rcases not_or.mp hid with ⟨hnotcap,hrest⟩
      rcases not_or.mp hrest with ⟨hnotmode,hnotslots⟩
      rw [h.read_other _ hnotcap] at hcap
      rw [h.read_other _ hnotmode, h.read_other _ hnotslots]
      exact hs.cap capMax capMin hcap

theorem Session.Scheduled.congr (hs : session.Scheduled)
    (h : session'.configs = session.configs) : session'.Scheduled := by
  have hread : ∀ reader, session'.read reader = session.read reader := by
    intro reader
    rw [read, getConfig, h]
    rfl
  constructor
  · rw [getResponderSlotIndex, readU8, hread, hread]
    exact hs.slots
  · rw [hread, hread, hread]
    exact hs.stride
  · rw [hread, hread, hread]
    exact hs.cap

theorem schedule_length {reader : Reader} (hr : reader ∈ scheduleReaders)
    (hok : validateSessionAppConfig profile session reader.configId value = .ok ()) :
    value.length = reader.size := by
  simp only [scheduleReaders, List.mem_cons, List.not_mem_nil, or_false] at hr
  rcases hr with rfl | rfl | rfl | rfl | rfl | rfl
  · rcases expect_u8_ok.mp hok with ⟨b,rfl,-⟩
    rfl
  · rcases expect_u8_ok.mp hok with ⟨b,rfl,-⟩
    rfl
  · rcases expect_u8_ok.mp hok with ⟨b,rfl,-⟩
    rfl
  · rcases expect_u8_ok.mp hok with ⟨b,rfl,-⟩
    rfl
  · rcases expect_u8_ok.mp hok with ⟨b,rfl,-⟩
    rfl
  · rcases expect_u16_ok.mp hok with ⟨b0,b1,rfl,-⟩
    rfl

theorem schedule_validated : ∀ reader ∈ scheduleReaders,
    validatedAppConfigs.contains reader.configId = true := by decide

end

namespace Profile

/-- Every refusal is reported in the response to the set request. -/
def ReportsAtOnce (profile : Profile) : Prop :=
  ∀ invalid ∈ profile.invalidConfigs, invalid.surface = invalidConfigSurfaceImmediate

instance (profile : Profile) : Decidable profile.ReportsAtOnce :=
  inferInstanceAs (Decidable (∀ invalid ∈ profile.invalidConfigs, _))

variable {profile : Profile}

theorem ReportsAtOnce.reports (h : profile.ReportsAtOnce) :
    profile.Reports (fun invalid => invalid.surface = invalidConfigSurfaceImmediate) where
  listed := h
  restated _ hi := hi
  immediate _ := rfl

theorem ReportsAtOnce.accepted (h : profile.ReportsAtOnce) {d : Device} {i : Fin maxSessions}
    {configId : UInt8} {value : List UInt8} (hp : d.profile = profile)
    (hrefusal : d.refusal i configId value = none)
    (hv : validatedAppConfigs.contains configId = true) :
    validateSessionAppConfig profile (d.sessions i) configId value = .ok () := by
  have hrejection := (refusal_none hrefusal).1
  unfold Device.rejection at hrejection
  rw [if_pos hv, hp] at hrejection
  cases hcheck : validateSessionAppConfig profile (d.sessions i) configId value with
  | ok a => rfl
  | error invalid =>
    rw [hcheck] at hrejection
    dsimp only at hrejection
    rw [if_pos (h.reports.appConfig _ _ _ invalid hcheck)] at hrejection
    cases hrejection

theorem ReportsAtOnce.keeps_schedule (h : profile.ReportsAtOnce)
    (hdefaults : (Session.zero.storeDefaults profile.defaultSessionAppConfigs).Scheduled) :
    TableLaw profile Session.Scheduled where
  congr _ _ hconfigs hs := hs.congr hconfigs
  defaults := hdefaults
  stored _ _ _ _ hp hs hrefusal :=
    hs.stored (Device.storing_get_config hrefusal) (h.accepted hp hrefusal)

theorem ReportsAtOnce.keeps_lengths (h : profile.ReportsAtOnce) {reader : Reader}
    (hr : reader ∈ scheduleReaders)
    (hdefaults : (Session.zero.storeDefaults profile.defaultSessionAppConfigs).Holds reader) :
    TableLaw profile (fun session => session.Holds reader) where
  congr session session' hconfigs hs := by
    rcases hs with ⟨value,hread,hlen⟩
    refine ⟨value,?_,hlen⟩
    rw [← hread, Session.read, Session.read, Session.getConfig, Session.getConfig, hconfigs]
  defaults := hdefaults
  stored d i configId value hp hs hrefusal := by
    have hover : (d.sessions i).Overrides configId value (d.storing i configId value) :=
      Device.storing_get_config hrefusal
    by_cases hid : configId = reader.configId
    · subst hid
      exact ⟨value,hover.read_same reader rfl,
        schedule_length hr (h.accepted hp hrefusal (schedule_validated reader hr))⟩
    · rcases hs with ⟨stored,hread,hlen⟩
      exact ⟨stored,(hover.read_other reader hid).trans hread,hlen⟩

end Profile

end UciSim
