import UciSim.General.Bits
import UciSim.PacketCodec
import UciSim.ValidatorsAgree

/-!
# The rules of the parameters

What a profile admits for a parameter: a length on the wire, a set of integers,
and a condition on the table the value would be part of. The rules count every
byte of a value, and leave the order in which anything is checked open.
-/

set_option autoImplicit false

namespace UciSim

open Session

/-- The lengths of addresses; other modes name none. -/
def addressLength (macAddressMode : UInt8) : Option ℕ :=
  if macAddressMode = macAddressModeShort then some 2
  else if macAddressMode = macAddressModeExtended then some 8
  else none

namespace Session

def prfModeInForce (session : Session) : UInt8 := session.readU8 prfModeReader 0

def macAddressModeInForce (session : Session) : UInt8 :=
  session.readU8 macAddressModeReader macAddressModeShort

end Session

/-- The wire lengths of a parameter: those of addresses depend on the addressing mode or on
the number of addresses. -/
def Profile.lengths (profile : Profile) (session : Session) (configId : UInt8) : Set ℕ :=
  if configId = appConfigDeviceMacAddress then
    {n | addressLength session.macAddressModeInForce = some n}
  else if configId = appConfigDstMacAddress then
    {n | ∃ count ∈ Set.Icc 1 profile.supportedMaxControlees.toNat, n = 2*count}
  else {n | wireLength configId = some n}

/-- The integers the profile declares for a parameter, under the given pulse repetition. -/
def Profile.declared (profile : Profile) (prfMode : UInt8) (configId : UInt8) : Set ℕ :=
  if configId = appConfigDeviceType then
    Bits.positions profile.supportedDeviceTypeMask.toNat
  else if configId = appConfigMultiNodeMode then
    Bits.positions profile.supportedMultiNodeModeMask.toNat
  else if configId = appConfigChannelNumber then
    Bits.positions profile.supportedChannelNumberMask.toNat
  else if configId = appConfigNumberOfControlees then
    Set.Iic profile.supportedMaxControlees.toNat
  else if configId = appConfigMacAddressMode then
    Bits.positions profile.supportedMacAddressModeMask.toNat
  else if configId = appConfigStsConfig then
    Bits.positions profile.supportedStsConfigMask.toNat
  else if configId = appConfigResultReportConfig then
    Bits.submasks profile.supportedResultReportConfigMask.toNat
  else if configId = appConfigAoaResultReq then Set.Iic profile.supportedAoaResultReqMax.toNat
  else if configId = appConfigPrfMode then Set.Iic profile.supportedPrfModeMax.toNat
  else if configId = appConfigPreambleCodeIndex then
    if prfMode = 0 then
      Set.Icc profile.supportedBprfPreambleCodeIndexMin.toNat
        profile.supportedBprfPreambleCodeIndexMax.toNat
    else
      Set.Icc profile.supportedHprfPreambleCodeIndexMin.toNat
        profile.supportedHprfPreambleCodeIndexMax.toNat
  else if configId = appConfigSfdId then
    if prfMode = 0 then Bits.positions profile.supportedBprfSfdIdMask.toNat
    else Bits.positions profile.supportedHprfSfdIdMask.toNat
  else if configId = appConfigPsduDataRate then Set.Iic profile.supportedPsduDataRateMax.toNat
  else if configId = appConfigPreambleDuration then
    Set.Iic profile.supportedPreambleDurationMax.toNat
  else if configId = appConfigStsLength then Set.Iic profile.supportedStsLengthMax.toNat
  else if configId = appConfigKeyRotation then Set.Iic profile.supportedKeyRotationMax.toNat
  else if configId = appConfigKeyRotationRate then
    Set.Iic profile.supportedKeyRotationRateMax.toNat
  else if configId = appConfigNumberOfStsSegments then
    Set.Iic profile.supportedNumberOfStsSegmentsMax.toNat
  else if configId = appConfigLinkLayerMode then
    Set.Iic profile.supportedLinkLayerModeMax.toNat
  else if configId = appConfigSlotDuration then
    Set.Ici profile.supportedMinSlotDurationRstu.toNat
  else if configId = appConfigRangingTimeStruct then
    Bits.positions profile.supportedRangingTimeStructMask.toNat
  else if configId = appConfigScheduledMode then
    Bits.positions profile.supportedScheduledModeMask.toNat
  else if configId = appConfigBlockStrideLength then
    Set.Iic profile.supportedMaxBlockStrideLength.toNat
  else if configId = appConfigSlotsPerRr then
    Set.Icc profile.supportedMinSlotsPerRr.toNat profile.supportedMaxSlotsPerRr.toNat
  else if configId = appConfigRssiReporting then
    Set.Iic profile.supportedRssiReportingMax.toNat
  else if configId = appConfigRangingRoundUsage then
    Bits.positions profile.supportedRangingRoundUsageMask.toNat
  else if configId = appConfigRangingInterval then
    Set.Ici profile.supportedMinRangingIntervalMs.toNat
  else Set.univ

namespace Session

/-- The responder's slot is one of the round's slots. -/
def SlotsAgree (profile : Profile) (session : Session) : Prop :=
  ∃ slots responder, session.getConfig appConfigSlotsPerRr = some [slots] ∧
    slots.toNat ∈ Set.Icc profile.supportedMinSlotsPerRr.toNat
      profile.supportedMaxSlotsPerRr.toNat ∧
    session.getConfig appConfigResponderSlotIndex = some [responder] ∧
    responder.toNat < slots.toNat

/-- Blocks are skipped only in time-scheduled, block-based ranging. -/
def StrideAgrees (profile : Profile) (session : Session) : Prop :=
  ∃ stride, session.getConfig appConfigBlockStrideLength = some [stride] ∧
    stride.toNat ≤ profile.supportedMaxBlockStrideLength.toNat ∧
    (stride ≠ 0 → session.getConfig appConfigRangingTimeStruct = some [0x01] ∧
      session.getConfig appConfigScheduledMode = some [scheduledModeTimeScheduled])

/-- A contention access period is an ordered range within a contention-based round. -/
def CapAgrees (session : Session) : Prop :=
  ∃ capMax capMin, session.getConfig appConfigCapSizeRange = some [capMax,capMin] ∧
    capMin.toNat ≤ capMax.toNat ∧
    (capMax ≠ 0 → session.getConfig appConfigScheduledMode =
        some [scheduledModeContentionBased] ∧
      ∃ slots, session.getConfig appConfigSlotsPerRr = some [slots] ∧
        capMax.toNat < slots.toNat)

def trying (session : Session) (configId : UInt8) (value : List UInt8) : Session :=
  { session with configs := (configId,value)::session.configs }

structure Coupled (profile : Profile) (session : Session) (configId : UInt8) : Prop where
  prf : configId ∈ [appConfigPreambleCodeIndex, appConfigSfdId] →
    session.prfModeInForce.toNat ≤ profile.supportedPrfModeMax.toNat
  slots : configId ∈ [appConfigSlotsPerRr, appConfigResponderSlotIndex] →
    session.SlotsAgree profile
  stride : configId ∈ [appConfigRangingTimeStruct, appConfigScheduledMode,
    appConfigBlockStrideLength] → session.StrideAgrees profile
  cap : configId ∈ [appConfigScheduledMode, appConfigSlotsPerRr, appConfigCapSizeRange] →
    session.CapAgrees

/-- The value keeps to all rules of its parameter. -/
structure Conforms (profile : Profile) (session : Session) (configId : UInt8)
    (value : List UInt8) : Prop where
  length : value.length ∈ profile.lengths session configId
  declared : Bits.littleEndian value ∈ profile.declared session.prfModeInForce configId
  coupled : (session.trying configId value).Coupled profile configId

end Session

section

variable {profile : Profile} {session : Session} {configId : UInt8} {value : List UInt8}
  {invalid : InvalidConfig}

theorem check_max_ok {b maximum : UInt8} :
    checkMax b maximum invalid = .ok () ↔ b.toNat ∈ Set.Iic maximum.toNat :=
  require_ok.trans UInt8.le_iff_toNat_le

theorem check_range_ok {b minimum maximum : UInt8} :
    checkRange b minimum maximum invalid = .ok () ↔
      b.toNat ∈ Set.Icc minimum.toNat maximum.toNat :=
  require_ok.trans (and_congr UInt8.le_iff_toNat_le UInt8.le_iff_toNat_le)

theorem check_mask_ok {b mask : UInt8} :
    checkMask b mask invalid = .ok () ↔ b.toNat ∈ Bits.positions mask.toNat :=
  require_ok.trans (Bits.mem_positions_u8 mask b)

theorem check_mask16_ok {b : UInt8} {mask : UInt16} :
    checkMask16 b mask invalid = .ok () ↔ b.toNat ∈ Bits.positions mask.toNat :=
  require_ok.trans (Bits.mem_positions_u16 mask b)

theorem result_report_ok {b : UInt8} :
    validateResultReportConfig profile b = .ok () ↔
      b.toNat ∈ Bits.submasks profile.supportedResultReportConfigMask.toNat :=
  require_ok.trans (Bits.mem_submasks_u8 _ b)

theorem preamble_code_ok {b prfMode : UInt8} :
    validatePreambleCodeIndex profile b prfMode = .ok () ↔
      prfMode.toNat ≤ profile.supportedPrfModeMax.toNat ∧
        b.toNat ∈ profile.declared prfMode appConfigPreambleCodeIndex := by
  have hdeclared : profile.declared prfMode appConfigPreambleCodeIndex =
      if prfMode = 0 then
        Set.Icc profile.supportedBprfPreambleCodeIndexMin.toNat
          profile.supportedBprfPreambleCodeIndexMax.toNat
      else
        Set.Icc profile.supportedHprfPreambleCodeIndexMin.toNat
          profile.supportedHprfPreambleCodeIndexMax.toNat := rfl
  unfold validatePreambleCodeIndex
  rw [then_ok, hdeclared]
  refine and_congr check_max_ok ?_
  by_cases hprf : prfMode = 0
  · rw [if_pos hprf, if_pos hprf]
    exact check_range_ok
  · rw [if_neg hprf, if_neg hprf]
    exact check_range_ok

theorem sfd_ok {b prfMode : UInt8} :
    validateSfdId profile b prfMode = .ok () ↔
      prfMode.toNat ≤ profile.supportedPrfModeMax.toNat ∧
        b.toNat ∈ profile.declared prfMode appConfigSfdId := by
  have hdeclared : profile.declared prfMode appConfigSfdId =
      if prfMode = 0 then Bits.positions profile.supportedBprfSfdIdMask.toNat
      else Bits.positions profile.supportedHprfSfdIdMask.toNat := rfl
  unfold validateSfdId
  rw [then_ok, hdeclared]
  refine and_congr check_max_ok ?_
  by_cases hprf : prfMode = 0
  · rw [if_pos hprf, if_pos hprf]
    exact check_mask_ok
  · rw [if_neg hprf, if_neg hprf]
    exact check_mask_ok

theorem read_u16_value (b0 b1 : UInt8) :
    (readU16Le [b0,b1] 0).toNat = Bits.littleEndian [b0,b1] := by
  rw [Bits.little_endian_two]
  exact data_length_value b0 b1

theorem or_shifted {low k : ℕ} (h : low < 2^k) (high : ℕ) :
    low ||| high <<< k = low+high*2^k := by
  rw [Nat.or_comm, ← Nat.shiftLeft_add_eq_or_of_lt h, Nat.shiftLeft_eq, Nat.add_comm]

theorem read_u32_value (b0 b1 b2 b3 : UInt8) :
    (readU32Le [b0,b1,b2,b3] 0).toNat = Bits.littleEndian [b0,b1,b2,b3] := by
  have h0 := b0.toNat_lt
  have h1 := b1.toNat_lt
  have h2 := b2.toNat_lt
  have h3 := b3.toNat_lt
  have hshift : ∀ (b : UInt8) (k : ℕ), k ≤ 24 → b.toNat <<< k % 2^32 = b.toNat <<< k := by
    intro b k hk
    have hb := b.toNat_lt
    apply Nat.mod_eq_of_lt
    rw [Nat.shiftLeft_eq]
    calc
      b.toNat*2^k ≤ b.toNat*2^24 := Nat.mul_le_mul_left _ (Nat.pow_le_pow_right (by decide) hk)
      _ < 2^32 := by omega
  have hread : (readU32Le [b0,b1,b2,b3] 0).toNat =
      b0.toNat ||| b1.toNat <<< 8 ||| b2.toNat <<< 16 ||| b3.toNat <<< 24 := by
    simp only [readU32Le, byteAt, UInt32.toNat_or, UInt32.toNat_shiftLeft, UInt8.toNat_toUInt32]
    rw [show (8 : UInt32).toNat % 32 = 8 from rfl, show (16 : UInt32).toNat % 32 = 16 from rfl,
      show (24 : UInt32).toNat % 32 = 24 from rfl]
    rw [← hshift b1 8 (by decide), ← hshift b2 16 (by decide), ← hshift b3 24 (by decide)]
    rfl
  have htwo : b0.toNat+b1.toNat*2^8 < 2^16 := by omega
  have hthree : b0.toNat+b1.toNat*2^8+b2.toNat*2^16 < 2^24 := by omega
  rw [hread, or_shifted h0, or_shifted htwo, or_shifted hthree]
  simp only [Bits.littleEndian]
  omega

end

end UciSim
