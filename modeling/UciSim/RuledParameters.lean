import UciSim.ConfigReads
import UciSim.ParameterRules

/-!
# What the validation accepts

The validation of a single parameter against the rules: they agree on every
parameter but two. The rate of the key rotation is judged by its first byte, and
an address is not measured where its mode names no length.
-/

set_option autoImplicit false

namespace UciSim

open Session

section

variable {profile : Profile} {session : Session} {configId : UInt8} {value : List UInt8}
  {invalid : InvalidConfig}

theorem trying_overrides (session : Session) (configId : UInt8) (value : List UInt8) :
    session.Overrides configId value (session.trying configId value) := fun _ => rfl

theorem trying_prf (session : Session) (value : List UInt8) (h : configId ≠ appConfigPrfMode) :
    (session.trying configId value).prfModeInForce = session.prfModeInForce := by
  have hread : (session.trying configId value).read prfModeReader = session.read prfModeReader :=
    (trying_overrides session configId value).read_other prfModeReader h
  unfold prfModeInForce readU8
  rw [hread]

theorem slots_agree_ok :
    validateSlotTopologyContext profile session noOverride [] = .ok () ↔
      session.SlotsAgree profile := by
  rw [slot_topology_ok]
  constructor
  · rintro ⟨slots,hslots,hrange,responder,hresponder,hlt⟩
    exact ⟨slots,responder,hslots,check_range_ok.mp hrange,hresponder,hlt⟩
  · rintro ⟨slots,responder,hslots,hrange,hresponder,hlt⟩
    exact ⟨slots,hslots,check_range_ok.mpr hrange,responder,hresponder,hlt⟩

theorem stride_agrees_ok :
    validateBlockStrideContext profile session noOverride [] = .ok () ↔
      session.StrideAgrees profile := by
  rw [block_stride_ok]
  exact exists_congr fun stride => and_congr_right fun _ => and_congr check_max_ok Iff.rfl

theorem below_slots {capMax slots : UInt8} :
    slots ≠ 0 ∧ capMax ≤ slots-1 ↔ capMax.toNat < slots.toNat := by
  rw [UInt8.le_iff_toNat_le, Ne, ← UInt8.toNat_inj]
  have hslots := slots.toNat_lt
  by_cases h : slots.toNat = 0
  · exact iff_of_false (fun hs => hs.1 h) (by omega)
  · have hsub : (slots-1).toNat = slots.toNat-1 := by
      rw [UInt8.toNat_sub, show (1 : UInt8).toNat = 1 from rfl]
      omega
    rw [hsub]
    constructor
    · rintro ⟨-,hle⟩
      omega
    · intro hlt
      exact ⟨h,by omega⟩

theorem cap_agrees_ok :
    validateCapSizeRangeContext profile session noOverride [] = .ok () ↔ session.CapAgrees := by
  rw [cap_size_range_ok]
  refine exists_congr fun capMax => exists_congr fun capMin => and_congr_right fun _ => ?_
  rw [UInt8.le_iff_toNat_le]
  refine and_congr_right fun hle => imp_congr ?_ (and_congr_right fun _ => ?_)
  · rw [not_iff_not, ← UInt8.toNat_inj, ← UInt8.toNat_inj]
    change (_ = 0 ∧ _ = 0) ↔ _ = 0
    omega
  · exact exists_congr fun slots => and_congr_right fun _ => below_slots

theorem trying_slots :
    validateSlotTopologyContext profile session configId value = .ok () ↔
      (session.trying configId value).SlotsAgree profile := by
  rw [slot_topology_override profile (trying_overrides session configId value), slots_agree_ok]

theorem trying_stride :
    validateBlockStrideContext profile session configId value = .ok () ↔
      (session.trying configId value).StrideAgrees profile := by
  rw [block_stride_override profile (trying_overrides session configId value), stride_agrees_ok]

theorem trying_cap :
    validateCapSizeRangeContext profile session configId value = .ok () ↔
      (session.trying configId value).CapAgrees := by
  rw [cap_size_range_override profile (trying_overrides session configId value), cap_agrees_ok]

theorem expect_u8_judged {check : UInt8 → Check} {P : ℕ → Prop}
    (h : ∀ b, value = [b] → (check b = .ok () ↔ P b.toNat)) :
    expectU8 value invalid check = .ok () ↔
      value.length = 1 ∧ P (Bits.littleEndian value) := by
  rw [expect_u8_ok]
  constructor
  · rintro ⟨b,rfl,hcheck⟩
    exact ⟨rfl,by rw [Bits.little_endian_one]; exact (h b rfl).mp hcheck⟩
  · rintro ⟨hlength,hp⟩
    rcases List.length_eq_one_iff.mp hlength with ⟨b,rfl⟩
    rw [Bits.little_endian_one] at hp
    exact ⟨b,rfl,(h b rfl).mpr hp⟩

theorem expect_u16_judged {check : UInt8 → UInt8 → Check} {P : ℕ → Prop}
    (h : ∀ b0 b1, value = [b0,b1] → (check b0 b1 = .ok () ↔ P (Bits.littleEndian [b0,b1]))) :
    expectU16 value invalid check = .ok () ↔
      value.length = 2 ∧ P (Bits.littleEndian value) := by
  rw [expect_u16_ok]
  constructor
  · rintro ⟨b0,b1,rfl,hcheck⟩
    exact ⟨rfl,(h b0 b1 rfl).mp hcheck⟩
  · rintro ⟨hlength,hp⟩
    rcases List.length_eq_two.mp hlength with ⟨b0,b1,rfl⟩
    exact ⟨b0,b1,rfl,(h b0 b1 rfl).mpr hp⟩

/-- The rules of a parameter with a fixed length, spelled out. -/
theorem conforms_fixed {n : ℕ} (hlength : profile.lengths session configId =
      {k | some n = some k}) :
    session.Conforms profile configId value ↔ value.length = n ∧
      (Bits.littleEndian value ∈ profile.declared session.prfModeInForce configId ∧
        (session.trying configId value).Coupled profile configId) := by
  constructor
  · intro h
    have hn : value.length ∈ {k | some n = some k} := hlength ▸ h.length
    exact ⟨(Option.some.inj hn).symm,h.declared,h.coupled⟩
  · rintro ⟨hn,hdeclared,hcoupled⟩
    refine ⟨?_,hdeclared,hcoupled⟩
    rw [hlength, hn]
    exact rfl

/-- A parameter that nothing is coupled to. -/
def Free (configId : UInt8) : Prop :=
  configId ∉ [appConfigPreambleCodeIndex, appConfigSfdId, appConfigSlotsPerRr,
    appConfigResponderSlotIndex, appConfigRangingTimeStruct, appConfigScheduledMode,
    appConfigBlockStrideLength, appConfigCapSizeRange]

instance (configId : UInt8) : Decidable (Free configId) := inferInstanceAs (Decidable (_ ∉ _))

theorem Free.coupled (h : Free configId) (session : Session) :
    session.Coupled profile configId := by
  simp only [Free, List.mem_cons, List.not_mem_nil, or_false, not_or] at h
  constructor <;> simp [h]

theorem free_u8 {check : UInt8 → Check} (hfree : Free configId)
    (hvalidate : validateSessionAppConfig profile session configId value =
      expectU8 value invalid check)
    (hlength : profile.lengths session configId = {k | some 1 = some k})
    (hcheck : ∀ b, check b = .ok () ↔
      b.toNat ∈ profile.declared session.prfModeInForce configId) :
    validateSessionAppConfig profile session configId value = .ok () ↔
      session.Conforms profile configId value := by
  rw [hvalidate, conforms_fixed hlength, and_iff_left (hfree.coupled _)]
  exact expect_u8_judged fun b _ => hcheck b

theorem free_u16 {check : UInt8 → UInt8 → Check} (hfree : Free configId)
    (hvalidate : validateSessionAppConfig profile session configId value =
      expectU16 value invalid check)
    (hlength : profile.lengths session configId = {k | some 2 = some k})
    (hcheck : ∀ b0 b1, check b0 b1 = .ok () ↔
      Bits.littleEndian [b0,b1] ∈ profile.declared session.prfModeInForce configId) :
    validateSessionAppConfig profile session configId value = .ok () ↔
      session.Conforms profile configId value := by
  rw [hvalidate, conforms_fixed hlength, and_iff_left (hfree.coupled _)]
  exact expect_u16_judged fun b0 b1 _ => hcheck b0 b1

/-- A one-byte parameter with a condition of its own on the table. -/
theorem coupled_u8 {check : UInt8 → Check} {Q : Prop}
    (hvalidate : validateSessionAppConfig profile session configId value =
      expectU8 value invalid check)
    (hlength : profile.lengths session configId = {k | some 1 = some k})
    (hcoupled : (session.trying configId value).Coupled profile configId ↔ Q)
    (hcheck : ∀ b, check b = .ok () ↔
      b.toNat ∈ profile.declared session.prfModeInForce configId ∧ Q) :
    validateSessionAppConfig profile session configId value = .ok () ↔
      session.Conforms profile configId value := by
  rw [hvalidate, conforms_fixed hlength, hcoupled]
  exact expect_u8_judged (P := fun n =>
    n ∈ profile.declared session.prfModeInForce configId ∧ Q) fun b _ => hcheck b

theorem preamble_conforms :
    validateSessionAppConfig profile session appConfigPreambleCodeIndex value = .ok () ↔
      session.Conforms profile appConfigPreambleCodeIndex value := by
  have hcoupled : (session.trying appConfigPreambleCodeIndex value).Coupled profile
      appConfigPreambleCodeIndex ↔
        session.prfModeInForce.toNat ≤ profile.supportedPrfModeMax.toNat := by
    rw [← trying_prf session value (show appConfigPreambleCodeIndex ≠ appConfigPrfMode by decide)]
    exact ⟨fun h => h.prf (by decide),fun h => ⟨fun _ => h,fun hm => absurd hm (by decide),
      fun hm => absurd hm (by decide),fun hm => absurd hm (by decide)⟩⟩
  exact coupled_u8 rfl rfl hcoupled fun b => preamble_code_ok.trans and_comm

theorem sfd_conforms :
    validateSessionAppConfig profile session appConfigSfdId value = .ok () ↔
      session.Conforms profile appConfigSfdId value := by
  have hcoupled : (session.trying appConfigSfdId value).Coupled profile appConfigSfdId ↔
      session.prfModeInForce.toNat ≤ profile.supportedPrfModeMax.toNat := by
    rw [← trying_prf session value (show appConfigSfdId ≠ appConfigPrfMode by decide)]
    exact ⟨fun h => h.prf (by decide),fun h => ⟨fun _ => h,fun hm => absurd hm (by decide),
      fun hm => absurd hm (by decide),fun hm => absurd hm (by decide)⟩⟩
  exact coupled_u8 rfl rfl hcoupled fun b => sfd_ok.trans and_comm

theorem time_struct_conforms :
    validateSessionAppConfig profile session appConfigRangingTimeStruct value = .ok () ↔
      session.Conforms profile appConfigRangingTimeStruct value := by
  have hcoupled : (session.trying appConfigRangingTimeStruct value).Coupled profile
      appConfigRangingTimeStruct ↔
        (session.trying appConfigRangingTimeStruct value).StrideAgrees profile :=
    ⟨fun h => h.stride (by decide),fun h => ⟨fun hm => absurd hm (by decide),
      fun hm => absurd hm (by decide),fun _ => h,fun hm => absurd hm (by decide)⟩⟩
  exact coupled_u8 rfl rfl hcoupled fun b => then_ok.trans (and_congr check_mask_ok trying_stride)

theorem stride_conforms :
    validateSessionAppConfig profile session appConfigBlockStrideLength value = .ok () ↔
      session.Conforms profile appConfigBlockStrideLength value := by
  have hcoupled : (session.trying appConfigBlockStrideLength value).Coupled profile
      appConfigBlockStrideLength ↔
        (session.trying appConfigBlockStrideLength value).StrideAgrees profile :=
    ⟨fun h => h.stride (by decide),fun h => ⟨fun hm => absurd hm (by decide),
      fun hm => absurd hm (by decide),fun _ => h,fun hm => absurd hm (by decide)⟩⟩
  exact coupled_u8 rfl rfl hcoupled fun b => then_ok.trans (and_congr check_max_ok trying_stride)

theorem scheduled_mode_conforms :
    validateSessionAppConfig profile session appConfigScheduledMode value = .ok () ↔
      session.Conforms profile appConfigScheduledMode value := by
  have hcoupled : (session.trying appConfigScheduledMode value).Coupled profile
      appConfigScheduledMode ↔
        (session.trying appConfigScheduledMode value).StrideAgrees profile ∧
        (session.trying appConfigScheduledMode value).CapAgrees :=
    ⟨fun h => ⟨h.stride (by decide),h.cap (by decide)⟩,fun h =>
      ⟨fun hm => absurd hm (by decide),fun hm => absurd hm (by decide),fun _ => h.1,fun _ => h.2⟩⟩
  exact coupled_u8 rfl rfl hcoupled fun b => then_ok.trans
    (and_congr check_mask_ok (then_ok.trans (and_congr trying_stride trying_cap)))

theorem slots_conforms :
    validateSessionAppConfig profile session appConfigSlotsPerRr value = .ok () ↔
      session.Conforms profile appConfigSlotsPerRr value := by
  have hcoupled : (session.trying appConfigSlotsPerRr value).Coupled profile
      appConfigSlotsPerRr ↔
        (session.trying appConfigSlotsPerRr value).SlotsAgree profile ∧
        (session.trying appConfigSlotsPerRr value).CapAgrees :=
    ⟨fun h => ⟨h.slots (by decide),h.cap (by decide)⟩,fun h =>
      ⟨fun hm => absurd hm (by decide),fun _ => h.1,fun hm => absurd hm (by decide),fun _ => h.2⟩⟩
  exact coupled_u8 rfl rfl hcoupled fun b => then_ok.trans
    (and_congr check_range_ok (then_ok.trans (and_congr trying_slots trying_cap)))

theorem responder_conforms :
    validateSessionAppConfig profile session appConfigResponderSlotIndex value = .ok () ↔
      session.Conforms profile appConfigResponderSlotIndex value := by
  have hcoupled : (session.trying appConfigResponderSlotIndex value).Coupled profile
      appConfigResponderSlotIndex ↔
        (session.trying appConfigResponderSlotIndex value).SlotsAgree profile :=
    ⟨fun h => h.slots (by decide),fun h => ⟨fun hm => absurd hm (by decide),fun _ => h,
      fun hm => absurd hm (by decide),fun hm => absurd hm (by decide)⟩⟩
  exact coupled_u8 rfl rfl hcoupled fun b => trying_slots.trans (and_iff_right trivial).symm

theorem cap_conforms :
    validateSessionAppConfig profile session appConfigCapSizeRange value = .ok () ↔
      session.Conforms profile appConfigCapSizeRange value := by
  have hcoupled : (session.trying appConfigCapSizeRange value).Coupled profile
      appConfigCapSizeRange ↔ (session.trying appConfigCapSizeRange value).CapAgrees :=
    ⟨fun h => h.cap (by decide),fun h => ⟨fun hm => absurd hm (by decide),
      fun hm => absurd hm (by decide),fun hm => absurd hm (by decide),fun _ => h⟩⟩
  have hvalidate : validateSessionAppConfig profile session appConfigCapSizeRange value =
      expectU16 value profile.invalidCapSizeRange (fun _ _ =>
        validateCapSizeRangeContext profile session appConfigCapSizeRange value) := rfl
  rw [hvalidate, conforms_fixed rfl, hcoupled]
  exact expect_u16_judged (P := fun _ => True ∧ _)
    fun _ _ _ => trying_cap.trans (and_iff_right trivial).symm

theorem dst_address_conforms :
    validateSessionAppConfig profile session appConfigDstMacAddress value = .ok () ↔
      session.Conforms profile appConfigDstMacAddress value := by
  have hfree : Free appConfigDstMacAddress := by decide
  have hvalidate : validateSessionAppConfig profile session appConfigDstMacAddress value =
      validateDstMacAddress profile value := rfl
  rw [hvalidate, validateDstMacAddress, require_ok]
  constructor
  · rintro ⟨hsome,heven,hmax⟩
    refine ⟨⟨value.length/2,⟨by omega,hmax⟩,by omega⟩,trivial,hfree.coupled _⟩
  · rintro ⟨⟨count,⟨hone,hmax⟩,hlength⟩,-,-⟩
    rw [hlength]
    omega

theorem interval_conforms :
    validateSessionAppConfig profile session appConfigRangingInterval value = .ok () ↔
      session.Conforms profile appConfigRangingInterval value := by
  have hfree : Free appConfigRangingInterval := by decide
  have hlengths : profile.lengths session appConfigRangingInterval = {k | some 4 = some k} := rfl
  rw [conforms_fixed hlengths, and_iff_left (hfree.coupled _)]
  by_cases hlength : value.length = 4
  · rw [and_iff_right hlength]
    rcases List.length_eq_four.mp hlength with ⟨b0,b1,b2,b3,rfl⟩
    have hdeclared : profile.declared session.prfModeInForce appConfigRangingInterval =
        Set.Ici profile.supportedMinRangingIntervalMs.toNat := rfl
    rw [hdeclared, ← read_u32_value]
    exact require_ok.trans UInt32.le_iff_toNat_le
  · refine iff_of_false (fun hok => ?_) fun h => hlength h.1
    rw [ranging_interval_refuses profile session hlength] at hok
    cases hok

/-- An address is measured exactly where its mode names a length, or is refused. -/
theorem device_address_iff :
    (validateSessionAppConfig profile session appConfigDeviceMacAddress value = .ok () ↔
        session.Conforms profile appConfigDeviceMacAddress value) ↔
      ¬ (addressLength session.macAddressModeInForce = none ∧
        session.macAddressModeInForce.toNat ∈
          Bits.positions profile.supportedMacAddressModeMask.toNat) := by
  have hfree : Free appConfigDeviceMacAddress := by decide
  have hvalidate : validateSessionAppConfig profile session appConfigDeviceMacAddress value =
      validateDeviceMacAddress profile value session.macAddressModeInForce := rfl
  have hconforms : session.Conforms profile appConfigDeviceMacAddress value ↔
      addressLength session.macAddressModeInForce = some value.length :=
    ⟨fun h => h.length,fun h => ⟨h,trivial,hfree.coupled _⟩⟩
  rw [hvalidate, hconforms]
  unfold validateDeviceMacAddress addressLength
  by_cases hshort : session.macAddressModeInForce = macAddressModeShort
  · rw [if_pos hshort, if_pos hshort, require_ok]
    exact iff_of_true ⟨fun h => by rw [h],fun h => (Option.some.inj h).symm⟩ (by simp)
  rw [if_neg hshort, if_neg hshort]
  by_cases hextended : session.macAddressModeInForce = macAddressModeExtended
  · rw [if_pos hextended, if_pos hextended, require_ok]
    exact iff_of_true ⟨fun h => by rw [h],fun h => (Option.some.inj h).symm⟩ (by simp)
  rw [if_neg hextended, if_neg hextended]
  have hmode : validateMacAddressMode profile session.macAddressModeInForce = .ok () ↔
      session.macAddressModeInForce.toNat ∈
        Bits.positions profile.supportedMacAddressModeMask.toNat := check_mask_ok
  simp [hmode]

/-- The first of two bytes is within the bound and the second, not looked at, exceeds it. -/
def CutsRate (profile : Profile) (value : List UInt8) : Prop :=
  ∃ b0 b1, value = [b0,b1] ∧ b0 ≤ profile.supportedKeyRotationRateMax ∧ b1 ≠ 0

theorem rotation_rate_iff :
    (validateSessionAppConfig profile session appConfigKeyRotationRate value = .ok () ↔
        session.Conforms profile appConfigKeyRotationRate value) ↔
      ¬ CutsRate profile value := by
  have hfree : Free appConfigKeyRotationRate := by decide
  have hvalidate : validateSessionAppConfig profile session appConfigKeyRotationRate value =
      expectU16 value profile.invalidKeyRotationRate (fun b0 _ =>
        validateKeyRotationRate profile b0) := rfl
  have hlengths : profile.lengths session appConfigKeyRotationRate = {k | some 2 = some k} := rfl
  have hdeclared : profile.declared session.prfModeInForce appConfigKeyRotationRate =
      Set.Iic profile.supportedKeyRotationRateMax.toNat := rfl
  rw [hvalidate, conforms_fixed hlengths, and_iff_left (hfree.coupled _), hdeclared]
  by_cases hlength : value.length = 2
  · rcases List.length_eq_two.mp hlength with ⟨b0,b1,rfl⟩
    have hmax := profile.supportedKeyRotationRateMax.toNat_lt
    have hcode : expectU16 [b0,b1] profile.invalidKeyRotationRate (fun b0 _ =>
        validateKeyRotationRate profile b0) = .ok () ↔
          b0.toNat ≤ profile.supportedKeyRotationRateMax.toNat := check_max_ok
    have hrule : Bits.littleEndian [b0,b1] ∈
        Set.Iic profile.supportedKeyRotationRateMax.toNat ↔
          b0.toNat+256*b1.toNat ≤ profile.supportedKeyRotationRateMax.toNat := by
      rw [Bits.little_endian_two]
      exact Iff.rfl
    have hcuts : CutsRate profile [b0,b1] ↔
        b0.toNat ≤ profile.supportedKeyRotationRateMax.toNat ∧ b1.toNat ≠ 0 := by
      constructor
      · rintro ⟨c0,c1,hc,hle,hne⟩
        cases hc
        exact ⟨UInt8.le_iff_toNat_le.mp hle,fun hzero => hne (UInt8.toNat_inj.mp hzero)⟩
      · rintro ⟨hle,hne⟩
        exact ⟨b0,b1,rfl,UInt8.le_iff_toNat_le.mpr hle,fun hzero => hne (by rw [hzero]; rfl)⟩
    rw [hcode, hrule, hcuts, and_iff_right hlength]
    omega
  · refine iff_of_true (iff_of_false (fun hok => ?_) fun h => hlength h.1) ?_
    · rw [expect_u16_refuses _ _ hlength] at hok
      cases hok
    · rintro ⟨b0,b1,rfl,-⟩
      exact hlength rfl

/-- The validation accepts the value exactly when it keeps to the rules. -/
def JudgedByRules (profile : Profile) (session : Session) (configId : UInt8)
    (value : List UInt8) : Prop :=
  validateSessionAppConfig profile session configId value = .ok () ↔
    session.Conforms profile configId value

/-- The validation looks at a part of the value only, or at none of its length. -/
def Overlooks (profile : Profile) (session : Session) (configId : UInt8)
    (value : List UInt8) : Prop :=
  (configId = appConfigKeyRotationRate ∧ CutsRate profile value) ∨
    (configId = appConfigDeviceMacAddress ∧
      addressLength session.macAddressModeInForce = none ∧
      session.macAddressModeInForce.toNat ∈
        Bits.positions profile.supportedMacAddressModeMask.toNat)

theorem others_judged (h : configId ∈ validatedAppConfigs)
    (hrate : configId ≠ appConfigKeyRotationRate)
    (haddress : configId ≠ appConfigDeviceMacAddress) :
    JudgedByRules profile session configId value := by
  simp only [validatedAppConfigs, List.mem_cons, List.not_mem_nil, or_false] at h
  rcases h with rfl | rfl | rfl | rfl | rfl | rfl | rfl | rfl | rfl | rfl | rfl | rfl | rfl | rfl |
    rfl | rfl | rfl | rfl | rfl | rfl | rfl | rfl | rfl | rfl | rfl | rfl | rfl | rfl | rfl | rfl |
    rfl
  · exact free_u8 (by decide) rfl rfl fun b => check_mask_ok
  · exact free_u8 (by decide) rfl rfl fun b => check_mask_ok
  · exact free_u8 (by decide) rfl rfl fun b => check_mask16_ok
  · exact free_u8 (by decide) rfl rfl fun b => check_max_ok
  · exact absurd rfl haddress
  · exact dst_address_conforms
  · exact free_u8 (by decide) rfl rfl fun b => check_mask_ok
  · exact free_u8 (by decide) rfl rfl fun b => check_mask_ok
  · exact interval_conforms
  · exact free_u16 (by decide) rfl rfl fun b0 b1 => require_ok.trans
      (UInt16.le_iff_toNat_le.trans (by rw [read_u16_value]; exact Iff.rfl))
  · exact free_u8 (by decide) rfl rfl fun b => check_mask16_ok
  · exact free_u8 (by decide) rfl rfl fun b => check_max_ok
  · exact free_u8 (by decide) rfl rfl fun b => check_max_ok
  · exact preamble_conforms
  · exact sfd_conforms
  · exact free_u8 (by decide) rfl rfl fun b => check_max_ok
  · exact free_u8 (by decide) rfl rfl fun b => check_max_ok
  · exact free_u8 (by decide) rfl rfl fun b => check_max_ok
  · exact free_u8 (by decide) rfl rfl fun b => check_max_ok
  · exact free_u8 (by decide) rfl rfl fun b => check_max_ok
  · exact cap_conforms
  · exact time_struct_conforms
  · exact scheduled_mode_conforms
  · exact absurd rfl hrate
  · exact free_u8 (by decide) rfl rfl fun b => check_max_ok
  · exact free_u16 (by decide) rfl rfl fun b0 b1 => iff_of_true rfl trivial
  · exact stride_conforms
  · exact slots_conforms
  · exact responder_conforms
  · exact free_u8 (by decide) rfl rfl fun b => check_max_ok
  · exact free_u8 (by decide) rfl rfl fun b => result_report_ok

end

/-- Of every profile, session, validated parameter and byte string: the validation decides by
the rules exactly when it does not overlook a part of the value. -/
theorem judged_by_rules_iff (profile : Profile) (session : Session) (configId : UInt8)
    (value : List UInt8) (h : configId ∈ validatedAppConfigs) :
    JudgedByRules profile session configId value ↔
      ¬ Overlooks profile session configId value := by
  by_cases hrate : configId = appConfigKeyRotationRate
  · subst hrate
    refine rotation_rate_iff.trans (not_congr ?_)
    unfold Overlooks
    rw [and_iff_right rfl, or_iff_left fun h => absurd h.1 (by decide)]
  by_cases haddress : configId = appConfigDeviceMacAddress
  · subst haddress
    refine device_address_iff.trans (not_congr ?_)
    unfold Overlooks
    rw [or_iff_right fun h => absurd h.1 (by decide), and_iff_right rfl]
  · exact iff_of_true (others_judged h hrate haddress)
      fun hoverlooks => hoverlooks.elim (fun h => hrate h.1) fun h => haddress h.1

theorem slot_duration_judged_by_rules :
    JudgedByRules defaultProfile defaultTable appConfigSlotDuration [0x60,0x09] ↔
      ¬ Overlooks defaultProfile defaultTable appConfigSlotDuration [0x60,0x09] :=
  judged_by_rules_iff defaultProfile defaultTable appConfigSlotDuration [0x60,0x09] (by decide)

/-- The default profile's largest rate is 15, and the bytes of 256 are accepted. -/
theorem long_rate_accepted :
    validateSessionAppConfig defaultProfile defaultTable appConfigKeyRotationRate [0,1] =
        .ok () ∧
      ¬ defaultTable.Conforms defaultProfile appConfigKeyRotationRate [0,1] ∧
      ¬ JudgedByRules defaultProfile defaultTable appConfigKeyRotationRate [0,1] := by
  have haccepted : validateSessionAppConfig defaultProfile defaultTable
      appConfigKeyRotationRate [0,1] = .ok () := rfl
  have hbroken : ¬ defaultTable.Conforms defaultProfile appConfigKeyRotationRate [0,1] := by
    intro h
    have hle : Bits.littleEndian [0,1] ≤ 15 := h.declared
    exact absurd hle (by decide)
  exact ⟨haccepted,hbroken,fun h => hbroken (h.mp haccepted)⟩

end UciSim
