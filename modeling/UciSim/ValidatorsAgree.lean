import UciSim.StartValidation

/-!
# The two validators agree

On a table that stores every validated parameter with its length no getter falls
back, so the start judges the stored values as set requests do.
-/

set_option autoImplicit false

namespace UciSim

open Session

/-- The length of a validated parameter; the lengths of addresses vary. -/
def wireLength (configId : UInt8) : Option ℕ :=
  if configId ∈ [appConfigDeviceMacAddress, appConfigDstMacAddress] then none
  else if configId = appConfigRangingInterval then some 4
  else if configId ∈ [appConfigSlotDuration, appConfigKeyRotationRate, appConfigMaxRrRetry,
    appConfigCapSizeRange] then some 2
  else some 1

namespace Session

/-- Every validated parameter is stored with its length. -/
def StoresValidated (session : Session) : Prop :=
  ∀ configId ∈ validatedAppConfigs, ∃ value, session.getConfig configId = some value ∧
    ∀ length ∈ wireLength configId, value.length = length

variable {session : Session} {profile : Profile}

theorem StoresValidated.getter (h : session.StoresValidated) {invalid : InvalidConfig}
    (reader : Reader) (check : UInt8 → Check) (fallback : UInt8)
    (hv : reader.configId ∈ validatedAppConfigs) (hw : wireLength reader.configId = some 1)
    (hcheck : ∀ value, validateSessionAppConfig profile session reader.configId value =
      expectU8 value invalid check) :
    check (session.readU8 reader fallback) = .ok () ↔
      session.Accepts profile reader.configId := by
  rcases h _ hv with ⟨value,hget,hlen⟩
  rcases List.length_eq_one_iff.mp (hlen 1 hw) with ⟨b,rfl⟩
  exact getter_u8 reader check fallback hget hcheck

theorem StoresValidated.admits_iff (h : session.StoresValidated) {configId : UInt8}
    (hv : validatedAppConfigs.contains configId = true) :
    session.Admits profile configId ↔ session.Accepts profile configId := by
  rcases h configId (List.contains_iff_mem.mp hv) with ⟨value,hget,-⟩
  exact Session.admits_iff hget

theorem StoresValidated.ranging_interval (h : session.StoresValidated) :
    validateRangingIntervalMs profile (session.getRangingIntervalMs profile) = .ok () ↔
      session.Accepts profile appConfigRangingInterval := by
  rcases h appConfigRangingInterval (by decide) with ⟨value,hget,hlen⟩
  have hlen : value.length = 4 := hlen 4 rfl
  match value with
  | [b0,b1,b2,b3] =>
    have hread : session.read rangingIntervalReader = some [b0,b1,b2,b3] := hget
    rw [accepts_iff hget, getRangingIntervalMs, hread]
    exact Iff.rfl

end Session

/-- On a table that stores every validated parameter with its length, the start accepts exactly
when a set request would accept each stored value and the four conditions of the start hold. -/
theorem validators_agree (profile : Profile) (session : Session) (h : session.StoresValidated) :
    validateSessionStart profile session = .ok () ↔
      (∀ configId ∈ validatedAppConfigs, session.Accepts profile configId) ∧
      session.RolePaired ∧ session.TopologyAgrees ∧ session.KeyMaterial ∧
      session.RotationCompatible := by
  have hreports := h.getter resultReportConfigReader (validateResultReportConfig profile) 0x01
    (by decide) rfl fun _ => rfl
  have haoas := h.getter aoaResultReqReader (validateAoaResultReq profile) 0x00
    (by decide) rfl fun _ => rfl
  have hrssis := h.getter rssiReportingReader (validateRssiReporting profile) 0x00
    (by decide) rfl fun _ => rfl
  have husages := h.getter rangingRoundUsageReader (validateRangingRoundUsage profile) 0x01
    (by decide) rfl fun _ => rfl
  constructor
  · intro hstart
    rcases start_getters hstart with ⟨hinterval,hreport,haoa,hrssi,husage⟩
    rcases start_ok.mp hstart with ⟨-,⟨-,hrole⟩,⟨-,-,-,-,-,htopology⟩,-,-,-,hkeys,-,-,-,-,-,-,-,-,
      -,hrotates,-⟩
    refine ⟨?_,hrole,htopology,hkeys,hrotates⟩
    intro configId hv
    rcases validated_cases configId hv with hdemanded | rfl | rfl | rfl | rfl | rfl
    · rcases start_admits hstart configId hdemanded with ⟨value,hget,hok⟩
      exact (accepts_iff hget).mpr hok
    · exact h.ranging_interval.mp hinterval
    · exact hreports.mp hreport
    · exact haoas.mp haoa
    · exact hrssis.mp hrssi
    · exact husages.mp husage
  · rintro ⟨haccepts,hrole,htopology,hkeys,hrotates⟩
    have hg : ∀ configId, validatedAppConfigs.contains configId = true →
        session.Accepts profile configId := by
      intro configId hv
      exact haccepts configId (List.contains_iff_mem.mp hv)
    have ha : ∀ configId, validatedAppConfigs.contains configId = true →
        session.Admits profile configId := by
      intro configId hv
      exact (h.admits_iff hv).mpr (hg configId hv)
    exact start_ok.mpr ⟨h.ranging_interval.mpr (hg _ rfl),⟨ha _ rfl,hrole⟩,
      ⟨ha _ rfl,ha _ rfl,ha _ rfl,ha _ rfl,ha _ rfl,htopology⟩,
      ha _ rfl,ha _ rfl,ha _ rfl,hkeys,hreports.mpr (hg _ rfl),haoas.mpr (hg _ rfl),ha _ rfl,
      ha _ rfl,ha _ rfl,ha _ rfl,ha _ rfl,ha _ rfl,ha _ rfl,hrotates,ha _ rfl,ha _ rfl,ha _ rfl,
      ha _ rfl,⟨ha _ rfl,ha _ rfl,ha _ rfl,ha _ rfl,ha _ rfl,ha _ rfl⟩,
      hrssis.mpr (hg _ rfl),husages.mpr (hg _ rfl)⟩

def defaultTable : Session := Session.zero.storeDefaults defaultProfile.defaultSessionAppConfigs

theorem validators_agree_default :
    validateSessionStart defaultProfile defaultTable = .ok () ↔
      (∀ configId ∈ validatedAppConfigs, defaultTable.Accepts defaultProfile configId) ∧
      defaultTable.RolePaired ∧ defaultTable.TopologyAgrees ∧ defaultTable.KeyMaterial ∧
      defaultTable.RotationCompatible := by
  apply validators_agree
  have hstored : ∀ configId ∈ validatedAppConfigs, (defaultTable.getConfig configId).any
      (fun value => decide (∀ length ∈ wireLength configId, value.length = length)) := by
    decide +kernel
  intro configId hv
  rcases (Option.any_eq_true _ _).mp (hstored configId hv) with ⟨value,hget,hlen⟩
  exact ⟨value,hget,decide_eq_true_eq.mp hlen⟩

end UciSim
