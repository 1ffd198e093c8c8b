import UciSim.Validation

/-!
# What a refusal carries

Every check refuses with an entry of the profile, with such an entry under the
status of an invalid parameter, or with a fixed entry reported at once. A
property of these is a property of whatever the validation refuses with.
-/

set_option autoImplicit false

namespace UciSim

namespace Profile

/-- The entries the profile refuses with. -/
def invalidConfigs (profile : Profile) : List InvalidConfig := [
  profile.invalidRangingInterval, profile.invalidSlotDuration,
  profile.invalidResultReportConfig, profile.invalidStsConfig, profile.invalidAoaResultReq,
  profile.invalidPrfMode, profile.invalidPreambleCodeIndex, profile.invalidSfdId,
  profile.invalidPsduDataRate, profile.invalidPreambleDuration, profile.invalidStsLength,
  profile.invalidKeyRotation, profile.invalidKeyRotationRate,
  profile.invalidNumberOfStsSegments, profile.invalidLinkLayerMode,
  profile.invalidRangingTimeStruct, profile.invalidScheduledMode,
  profile.invalidBlockStrideLength, profile.invalidSlotsPerRr, profile.invalidCapSizeRange,
  profile.invalidRssiReporting, profile.invalidRangingRoundUsage,
  profile.invalidMultiNodeMode, profile.invalidChannelNumber, profile.invalidNumOfControlees,
  profile.invalidMacAddressMode, profile.invalidDeviceMacAddress, profile.invalidDstMacAddress,
  profile.invalidDeviceType]

/-- Every entry the validation can refuse with has the property. -/
structure Reports (profile : Profile) (P : InvalidConfig → Prop) : Prop where
  listed : ∀ invalid ∈ profile.invalidConfigs, P invalid
  restated : ∀ invalid, P invalid → P { invalid with status := statusInvalidParam }
  immediate : ∀ reason, P ⟨statusInvalidParam,reason,invalidConfigSurfaceImmediate⟩

end Profile

def Refuses {α : Type} (P : InvalidConfig → Prop) (c : Except InvalidConfig α) : Prop :=
  ∀ invalid, c = .error invalid → P invalid

section

variable {α β : Type} {P : InvalidConfig → Prop}

theorem refuses_ok (a : α) : Refuses P (.ok a : Except InvalidConfig α) := by
  intro invalid h
  cases h

theorem refuses_error {invalid : InvalidConfig} (h : P invalid) :
    Refuses P (.error invalid : Except InvalidConfig α) := by
  intro _ he
  cases he
  exact h

theorem refuses_bind {c : Except InvalidConfig α} {f : α → Except InvalidConfig β}
    (hc : Refuses P c) (hf : ∀ a, Refuses P (f a)) : Refuses P (c >>= f) := by
  intro invalid h
  cases c with
  | error refusal =>
    cases h
    exact hc _ rfl
  | ok a => exact hf a invalid h

theorem refuses_ite {condition : Prop} [Decidable condition] {c c' : Except InvalidConfig α}
    (h : Refuses P c) (h' : Refuses P c') : Refuses P (if condition then c else c') := by
  split
  · exact h
  · exact h'

theorem refuses_require (condition : Prop) [Decidable condition] {invalid : InvalidConfig}
    (h : P invalid) : Refuses P (require condition invalid) := by
  unfold require
  split
  · exact refuses_ok _
  · exact refuses_error h

theorem refuses_get_u8 (session : Session) (reader : Reader) {invalid : InvalidConfig}
    (h : P invalid) : Refuses P (session.getU8Config reader invalid) := by
  unfold Session.getU8Config
  split
  · exact refuses_ok _
  · exact refuses_error h

theorem refuses_get_u16 (session : Session) (reader : Reader) {invalid : InvalidConfig}
    (h : P invalid) : Refuses P (session.getU16Config reader invalid) := by
  unfold Session.getU16Config
  split
  · exact refuses_ok _
  · exact refuses_error h

theorem refuses_get_bytes (session : Session) (reader : Reader) {invalid : InvalidConfig}
    (h : P invalid) : Refuses P (session.getBytesConfig reader invalid) := by
  unfold Session.getBytesConfig
  split
  · exact refuses_ok _
  · exact refuses_error h

theorem refuses_context_u8 (session : Session) (reader : Reader) (overrideConfigId : UInt8)
    (overrideValue : List UInt8) {invalid : InvalidConfig} (h : P invalid) :
    Refuses P (session.contextU8 reader overrideConfigId overrideValue invalid) := by
  unfold Session.contextU8
  split
  · split
    · exact refuses_ok _
    · exact refuses_error h
  · exact refuses_get_u8 session reader h

end

/-- The maximum and the minimum, the value under test in place of the stored one. -/
def Session.contextCapSizeRange (session : Session) (overrideConfigId : UInt8)
    (overrideValue : List UInt8) (invalid : InvalidConfig) :
    Except InvalidConfig (UInt8 × UInt8) :=
  if overrideConfigId = appConfigCapSizeRange then
    match overrideValue with
    | [b0,b1] => .ok (b0,b1)
    | _ => .error invalid
  else session.getU16Config Session.capSizeRangeReader invalid

def checkCapSizeRange (session : Session) (overrideConfigId : UInt8)
    (overrideValue : List UInt8) (invalid : InvalidConfig) (bounds : UInt8 × UInt8) : Check := do
  require (bounds.2 ≤ bounds.1) invalid
  if bounds.2 = 0 ∧ bounds.1 = 0 then .ok ()
  else do
    let scheduledMode ←
      session.contextU8 Session.scheduledModeReader overrideConfigId overrideValue invalid
    let slotsPerRr ←
      session.contextU8 Session.slotsPerRrReader overrideConfigId overrideValue invalid
    require (scheduledMode = scheduledModeContentionBased ∧ slotsPerRr ≠ 0 ∧
      bounds.1 ≤ slotsPerRr-1) invalid

theorem validate_cap_size_range_eq (profile : Profile) (session : Session)
    (overrideConfigId : UInt8) (overrideValue : List UInt8) :
    validateCapSizeRangeContext profile session overrideConfigId overrideValue =
      (session.contextCapSizeRange overrideConfigId overrideValue
          profile.invalidCapSizeRange >>=
        checkCapSizeRange session overrideConfigId overrideValue
          profile.invalidCapSizeRange) := by
  unfold validateCapSizeRangeContext Session.contextCapSizeRange
  by_cases h : overrideConfigId = appConfigCapSizeRange
  · rw [if_pos h, if_pos h]
    match overrideValue with
    | [] => rfl
    | [_] => rfl
    | [_,_] => rfl
    | _::_::_::_ => rfl
  · rw [if_neg h, if_neg h]
    rfl

namespace Profile.Reports

variable {profile : Profile} {P : InvalidConfig → Prop}

theorem deviceTypeRolePair (h : profile.Reports P) (session : Session) :
    Refuses P (validateDeviceTypeRolePair profile session) := by
  have htype : P profile.invalidDeviceType := h.listed _ (by simp [invalidConfigs])
  unfold validateDeviceTypeRolePair
  refine refuses_bind (refuses_get_u8 _ _ htype) fun deviceType => ?_
  refine refuses_bind (refuses_require _ htype) fun _ => ?_
  refine refuses_bind (refuses_get_u8 _ _ (h.immediate _)) fun deviceRole => ?_
  split
  · exact refuses_require _ htype
  · split
    · exact refuses_require _ htype
    · exact refuses_ok _

theorem deviceMacAddress (h : profile.Reports P) (value : List UInt8) (macAddressMode : UInt8) :
    Refuses P (validateDeviceMacAddress profile value macAddressMode) := by
  have hmac : P profile.invalidDeviceMacAddress := h.listed _ (by simp [invalidConfigs])
  unfold validateDeviceMacAddress
  split
  · exact refuses_require _ hmac
  · split
    · exact refuses_require _ hmac
    · exact refuses_require _ (h.listed _ (by simp [invalidConfigs]))

theorem multiNodeModeTopology (h : profile.Reports P) (session : Session) :
    Refuses P (validateMultiNodeModeTopology profile session) := by
  have hmode : P profile.invalidMultiNodeMode := h.listed _ (by simp [invalidConfigs])
  have hmac : P profile.invalidMacAddressMode := h.listed _ (by simp [invalidConfigs])
  have hcontrolees : P profile.invalidNumOfControlees := h.listed _ (by simp [invalidConfigs])
  have hdevice : P profile.invalidDeviceMacAddress := h.listed _ (by simp [invalidConfigs])
  have hdst : P profile.invalidDstMacAddress := h.listed _ (by simp [invalidConfigs])
  unfold validateMultiNodeModeTopology
  refine refuses_bind (refuses_get_u8 _ _ hmode) fun multiNodeMode => ?_
  refine refuses_bind (refuses_require _ hmode) fun _ => ?_
  refine refuses_bind (refuses_get_u8 _ _ hmac) fun macAddressMode => ?_
  refine refuses_bind (refuses_require _ hmac) fun _ => ?_
  refine refuses_bind (refuses_get_u8 _ _ hcontrolees) fun numberOfControlees => ?_
  refine refuses_bind (refuses_require _ hcontrolees) fun _ => ?_
  refine refuses_bind (refuses_get_bytes _ _ hdevice) fun deviceMac => ?_
  refine refuses_bind (h.deviceMacAddress _ _) fun _ => ?_
  refine refuses_bind (refuses_get_bytes _ _ hdst) fun dstMac => ?_
  refine refuses_bind (refuses_require _ hdst) fun _ => ?_
  refine refuses_bind (refuses_require _ hcontrolees) fun _ => ?_
  exact refuses_require _ hmode

theorem slotTopology (h : profile.Reports P) (session : Session) (overrideConfigId : UInt8)
    (overrideValue : List UInt8) :
    Refuses P (validateSlotTopologyContext profile session overrideConfigId overrideValue) := by
  have hslots : P profile.invalidSlotsPerRr := h.listed _ (by simp [invalidConfigs])
  unfold validateSlotTopologyContext
  refine refuses_bind (refuses_context_u8 _ _ _ _ hslots) fun slotsPerRr => ?_
  refine refuses_bind (refuses_require _ hslots) fun _ => ?_
  refine refuses_bind (refuses_context_u8 _ _ _ _ hslots) fun responderSlotIndex => ?_
  exact refuses_require _ hslots

theorem blockStride (h : profile.Reports P) (session : Session) (overrideConfigId : UInt8)
    (overrideValue : List UInt8) :
    Refuses P (validateBlockStrideContext profile session overrideConfigId overrideValue) := by
  have hstride : P profile.invalidBlockStrideLength := h.listed _ (by simp [invalidConfigs])
  unfold validateBlockStrideContext
  refine refuses_bind (refuses_context_u8 _ _ _ _ hstride) fun blockStrideLength => ?_
  refine refuses_bind (refuses_require _ hstride) fun _ => ?_
  split
  · exact refuses_ok _
  · refine refuses_bind (refuses_context_u8 _ _ _ _ hstride) fun rangingTimeStruct => ?_
    refine refuses_bind (refuses_context_u8 _ _ _ _ hstride) fun scheduledMode => ?_
    exact refuses_require _ hstride

theorem capSizeRange (h : profile.Reports P) (session : Session) (overrideConfigId : UInt8)
    (overrideValue : List UInt8) :
    Refuses P (validateCapSizeRangeContext profile session overrideConfigId overrideValue) := by
  have hcap : P profile.invalidCapSizeRange := h.listed _ (by simp [invalidConfigs])
  rw [validate_cap_size_range_eq]
  refine refuses_bind ?_ fun bounds => ?_
  · unfold Session.contextCapSizeRange
    split
    · split
      · exact refuses_ok _
      · exact refuses_error hcap
    · exact refuses_get_u16 _ _ hcap
  · unfold checkCapSizeRange
    refine refuses_bind (refuses_require _ hcap) fun _ => ?_
    split
    · exact refuses_ok _
    · refine refuses_bind (refuses_context_u8 _ _ _ _ hcap) fun scheduledMode => ?_
      refine refuses_bind (refuses_context_u8 _ _ _ _ hcap) fun slotsPerRr => ?_
      exact refuses_require _ hcap

theorem configLength (h : profile.Reports P) (session : Session) (configId : UInt8)
    (lengths : List ℕ) : Refuses P (requireConfigLength profile session configId lengths) := by
  have hsts : P profile.invalidStsConfig := h.listed _ (by simp [invalidConfigs])
  unfold requireConfigLength
  split
  · exact refuses_require _ hsts
  · exact refuses_error hsts

theorem stsDependencies (h : profile.Reports P) (session : Session) (stsConfig : UInt8) :
    Refuses P (validateStsDependencies profile session stsConfig) := by
  unfold validateStsDependencies
  split
  · exact h.configLength _ _ _
  split
  · exact h.configLength _ _ _
  split
  · exact refuses_bind (h.configLength _ _ _) fun _ => h.configLength _ _ _
  · exact refuses_ok _

theorem preambleCodeIndex (h : profile.Reports P) (preambleCodeIndex prfMode : UInt8) :
    Refuses P (validatePreambleCodeIndex profile preambleCodeIndex prfMode) := by
  have hpreamble : P profile.invalidPreambleCodeIndex := h.listed _ (by simp [invalidConfigs])
  unfold validatePreambleCodeIndex
  refine refuses_bind (refuses_require _ (h.listed _ (by simp [invalidConfigs]))) fun _ => ?_
  split
  · exact refuses_require _ hpreamble
  · exact refuses_require _ hpreamble

theorem sfdId (h : profile.Reports P) (sfdId prfMode : UInt8) :
    Refuses P (validateSfdId profile sfdId prfMode) := by
  unfold validateSfdId
  refine refuses_bind (refuses_require _ (h.listed _ (by simp [invalidConfigs]))) fun _ => ?_
  exact refuses_require _ (h.listed _ (by simp [invalidConfigs]))

theorem require (h : profile.Reports P) {invalid : InvalidConfig} (condition : Prop)
    [Decidable condition] (hi : invalid ∈ profile.invalidConfigs) :
    Refuses P (UciSim.require condition invalid) :=
  refuses_require condition (h.listed invalid hi)

/-- A parameter is read and its value is checked. -/
theorem readU8 (h : profile.Reports P) (session : Session) (reader : Reader)
    {check : UInt8 → Check} {next : UInt8 → Check} {invalid : InvalidConfig}
    (hi : invalid ∈ profile.invalidConfigs) (hcheck : ∀ value, Refuses P (check value))
    (hnext : ∀ value, Refuses P (next value)) :
    Refuses P (session.getU8Config reader invalid >>= fun value => check value >>= fun _ =>
      next value) := by
  refine refuses_bind (refuses_get_u8 session reader (h.listed invalid hi)) fun value => ?_
  exact refuses_bind (hcheck value) fun _ => hnext value

/-- The start check refuses with an entry that has the property. -/
theorem start (h : profile.Reports P) (session : Session) :
    Refuses P (validateSessionStart profile session) := by
  unfold validateSessionStart
  refine refuses_bind (h.require _ (by simp [invalidConfigs])) fun _ => ?_
  refine refuses_bind (h.deviceTypeRolePair session) fun _ => ?_
  refine refuses_bind (h.multiNodeModeTopology session) fun _ => ?_
  refine refuses_bind (refuses_get_u16 _ _ (h.listed _ (by simp [invalidConfigs]))) ?_
  rintro ⟨slot0,slot1⟩
  refine refuses_bind (h.require _ (by simp [invalidConfigs])) fun _ => ?_
  refine h.readU8 session _ (by simp [invalidConfigs])
    (fun channelNumber => h.require _ (by simp [invalidConfigs])) fun _ => ?_
  refine h.readU8 session _ (by simp [invalidConfigs])
    (fun stsConfig => h.require _ (by simp [invalidConfigs])) fun stsConfig => ?_
  refine refuses_bind (h.stsDependencies session stsConfig) fun _ => ?_
  refine refuses_bind (h.require _ (by simp [invalidConfigs])) fun _ => ?_
  refine refuses_bind (h.require _ (by simp [invalidConfigs])) fun _ => ?_
  refine h.readU8 session _ (by simp [invalidConfigs])
    (fun prfMode => h.require _ (by simp [invalidConfigs])) fun prfMode => ?_
  refine h.readU8 session _ (by simp [invalidConfigs])
    (fun code => h.preambleCodeIndex code prfMode) fun _ => ?_
  refine h.readU8 session _ (by simp [invalidConfigs])
    (fun sfdId => h.sfdId sfdId prfMode) fun _ => ?_
  refine h.readU8 session _ (by simp [invalidConfigs])
    (fun psduDataRate => h.require _ (by simp [invalidConfigs])) fun _ => ?_
  refine h.readU8 session _ (by simp [invalidConfigs])
    (fun preambleDuration => h.require _ (by simp [invalidConfigs])) fun _ => ?_
  refine h.readU8 session _ (by simp [invalidConfigs])
    (fun stsLength => h.require _ (by simp [invalidConfigs])) fun _ => ?_
  refine h.readU8 session _ (by simp [invalidConfigs])
    (fun keyRotation => h.require _ (by simp [invalidConfigs])) fun keyRotation => ?_
  refine refuses_bind (h.require _ (by simp [invalidConfigs])) fun _ => ?_
  refine refuses_bind (refuses_get_u16 _ _ (h.listed _ (by simp [invalidConfigs]))) ?_
  rintro ⟨keyRotationRate,_⟩
  refine refuses_bind (h.require _ (by simp [invalidConfigs])) fun _ => ?_
  refine h.readU8 session _ (by simp [invalidConfigs])
    (fun numberOfStsSegments => h.require _ (by simp [invalidConfigs])) fun _ => ?_
  refine refuses_bind (refuses_get_u16 _ _ (h.immediate _)) fun _ => ?_
  refine h.readU8 session _ (by simp [invalidConfigs])
    (fun linkLayerMode => h.require _ (by simp [invalidConfigs])) fun _ => ?_
  refine h.readU8 session _ (by simp [invalidConfigs])
    (fun rangingTimeStruct => h.require _ (by simp [invalidConfigs])) fun _ => ?_
  refine h.readU8 session _ (by simp [invalidConfigs])
    (fun scheduledMode => h.require _ (by simp [invalidConfigs])) fun _ => ?_
  refine h.readU8 session _ (by simp [invalidConfigs])
    (fun blockStrideLength => h.require _ (by simp [invalidConfigs])) fun _ => ?_
  refine refuses_bind (h.blockStride session _ _) fun _ => ?_
  refine h.readU8 session _ (by simp [invalidConfigs])
    (fun slotsPerRr => h.require _ (by simp [invalidConfigs])) fun _ => ?_
  refine refuses_bind (h.slotTopology session _ _) fun _ => ?_
  refine refuses_bind (h.capSizeRange session _ _) fun _ => ?_
  refine refuses_bind (h.require _ (by simp [invalidConfigs])) fun _ => ?_
  exact h.require _ (by simp [invalidConfigs])

theorem expectU8 (h : profile.Reports P) (value : List UInt8) {invalid : InvalidConfig}
    {check : UInt8 → Check} (hi : P invalid) (hcheck : ∀ b, Refuses P (check b)) :
    Refuses P (UciSim.expectU8 value invalid check) := by
  unfold UciSim.expectU8
  split
  · exact hcheck _
  · exact refuses_error (h.restated _ hi)

theorem expectU16 (h : profile.Reports P) (value : List UInt8) {invalid : InvalidConfig}
    {check : UInt8 → UInt8 → Check} (hi : P invalid) (hcheck : ∀ b0 b1, Refuses P (check b0 b1)) :
    Refuses P (UciSim.expectU16 value invalid check) := by
  unfold UciSim.expectU16
  split
  · exact hcheck _ _
  · exact refuses_error (h.restated _ hi)

/-- The parameter is one byte, compared with a limit of the profile. -/
theorem limitU8 (h : profile.Reports P) (value : List UInt8) {invalid : InvalidConfig}
    (condition : UInt8 → Prop) [∀ b, Decidable (condition b)]
    (hi : invalid ∈ profile.invalidConfigs) :
    Refuses P (UciSim.expectU8 value invalid (fun b => UciSim.require (condition b) invalid)) :=
  h.expectU8 value (h.listed invalid hi) fun _ => h.require _ hi

/-- The check of a set parameter refuses with an entry that has the property. -/
theorem appConfig (h : profile.Reports P) (session : Session) (configId : UInt8)
    (value : List UInt8) : Refuses P (validateSessionAppConfig profile session configId value) := by
  have e : ∀ {invalid}, invalid ∈ profile.invalidConfigs → P invalid := h.listed _
  unfold validateSessionAppConfig
  refine refuses_ite (h.limitU8 value _ (by simp [invalidConfigs])) ?_
  refine refuses_ite (h.limitU8 value _ (by simp [invalidConfigs])) ?_
  refine refuses_ite (h.limitU8 value _ (by simp [invalidConfigs])) ?_
  refine refuses_ite (h.limitU8 value _ (by simp [invalidConfigs])) ?_
  refine refuses_ite (h.limitU8 value _ (by simp [invalidConfigs])) ?_
  refine refuses_ite (h.deviceMacAddress _ _) ?_
  refine refuses_ite (h.require _ (by simp [invalidConfigs])) ?_
  refine refuses_ite (h.limitU8 value _ (by simp [invalidConfigs])) ?_
  refine refuses_ite (h.expectU8 value (h.immediate _) fun _ =>
    h.require _ (by simp [invalidConfigs])) ?_
  refine refuses_ite (h.limitU8 value _ (by simp [invalidConfigs])) ?_
  refine refuses_ite (h.limitU8 value _ (by simp [invalidConfigs])) ?_
  refine refuses_ite (h.expectU8 value (e (by simp [invalidConfigs])) fun _ =>
    h.preambleCodeIndex _ _) ?_
  refine refuses_ite (h.expectU8 value (e (by simp [invalidConfigs])) fun _ => h.sfdId _ _) ?_
  refine refuses_ite (h.limitU8 value _ (by simp [invalidConfigs])) ?_
  refine refuses_ite (h.limitU8 value _ (by simp [invalidConfigs])) ?_
  refine refuses_ite (h.limitU8 value _ (by simp [invalidConfigs])) ?_
  refine refuses_ite (h.limitU8 value _ (by simp [invalidConfigs])) ?_
  refine refuses_ite (h.expectU16 value (e (by simp [invalidConfigs])) fun _ _ =>
      h.require _ (by simp [invalidConfigs])) ?_
  refine refuses_ite (h.limitU8 value _ (by simp [invalidConfigs])) ?_
  refine refuses_ite (h.expectU16 value (h.immediate _) fun _ _ => refuses_ok _) ?_
  refine refuses_ite (h.limitU8 value _ (by simp [invalidConfigs])) ?_
  refine refuses_ite (h.expectU16 value (e (by simp [invalidConfigs])) fun _ _ =>
      h.require _ (by simp [invalidConfigs])) ?_
  refine refuses_ite (h.expectU8 value (e (by simp [invalidConfigs])) fun _ =>
      refuses_bind (h.require _ (by simp [invalidConfigs])) fun _ => h.blockStride _ _ _) ?_
  refine refuses_ite (h.expectU8 value (e (by simp [invalidConfigs])) fun _ =>
      refuses_bind (h.require _ (by simp [invalidConfigs])) fun _ =>
        refuses_bind (h.blockStride _ _ _) fun _ => h.capSizeRange _ _ _) ?_
  refine refuses_ite (h.expectU8 value (e (by simp [invalidConfigs])) fun _ =>
      refuses_bind (h.require _ (by simp [invalidConfigs])) fun _ => h.blockStride _ _ _) ?_
  refine refuses_ite (h.expectU8 value (e (by simp [invalidConfigs])) fun _ =>
      refuses_bind (h.require _ (by simp [invalidConfigs])) fun _ =>
        refuses_bind (h.slotTopology _ _ _) fun _ => h.capSizeRange _ _ _) ?_
  refine refuses_ite (h.expectU8 value (e (by simp [invalidConfigs])) fun _ =>
    h.slotTopology _ _ _) ?_
  refine refuses_ite (h.limitU8 value _ (by simp [invalidConfigs])) ?_
  refine refuses_ite (h.expectU16 value (e (by simp [invalidConfigs])) fun _ _ =>
    h.capSizeRange _ _ _) ?_
  refine refuses_ite (h.limitU8 value _ (by simp [invalidConfigs])) ?_
  refine refuses_ite ?_ (refuses_ok _)
  split
  · exact h.require _ (by simp [invalidConfigs])
  · exact refuses_error (h.immediate _)

end Profile.Reports

end UciSim
