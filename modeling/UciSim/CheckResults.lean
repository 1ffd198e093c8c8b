import UciSim.Checks

/-!
# When a check accepts

Each check is read as the condition it decides. A check that takes the value
under test from the request decides the same as the check of the table that
stores it.
-/

set_option autoImplicit false

namespace UciSim

section

variable {α β ε : Type}

theorem bind_ok {c : Except ε α} {f : α → Except ε β} {b : β} :
    (c >>= f) = .ok b ↔ ∃ a, c = .ok a ∧ f a = .ok b := by
  cases c with
  | error refusal =>
    constructor
    · intro h
      cases h
    · rintro ⟨a,h,-⟩
      cases h
  | ok a =>
    constructor
    · exact fun h => ⟨a,rfl,h⟩
    · rintro ⟨a',h,hf⟩
      cases h
      exact hf

/-- A check that accepts, followed by another one. -/
theorem then_ok {c : Except ε Unit} {f : Unit → Except ε β} {b : β} :
    (c >>= f) = .ok b ↔ c = .ok () ∧ f () = .ok b := by
  rw [bind_ok]
  constructor
  · rintro ⟨⟨⟩,h⟩
    exact h
  · exact fun h => ⟨(),h⟩

end

theorem require_ok {condition : Prop} [Decidable condition] {invalid : InvalidConfig} :
    require condition invalid = .ok () ↔ condition := by
  unfold require
  by_cases h : condition
  · rw [if_pos h]
    exact iff_of_true rfl h
  · rw [if_neg h]
    exact iff_of_false nofun h

theorem expect_u8_ok {value : List UInt8} {invalid : InvalidConfig} {check : UInt8 → Check} :
    expectU8 value invalid check = .ok () ↔ ∃ b, value = [b] ∧ check b = .ok () := by
  match value with
  | [] => exact iff_of_false nofun nofun
  | [b] => simp [expectU8]
  | _::_::_ => exact iff_of_false nofun nofun

theorem expect_u16_ok {value : List UInt8} {invalid : InvalidConfig}
    {check : UInt8 → UInt8 → Check} :
    expectU16 value invalid check = .ok () ↔
      ∃ b0 b1, value = [b0,b1] ∧ check b0 b1 = .ok () := by
  match value with
  | [] => exact iff_of_false nofun nofun
  | [_] => exact iff_of_false nofun nofun
  | [b0,b1] => simp [expectU16]
  | _::_::_::_ => exact iff_of_false nofun nofun

namespace Session

variable {session session' : Session} {reader : Reader} {invalid : InvalidConfig}

theorem get_u8_ok {value : UInt8} :
    session.getU8Config reader invalid = .ok value ↔ session.read reader = some [value] := by
  unfold getU8Config
  split
  · rename_i v h
    rw [h]
    simp
  · rename_i h
    constructor
    · intro he
      cases he
    · intro hread
      exact absurd hread (h value)

theorem get_u16_ok {b0 b1 : UInt8} :
    session.getU16Config reader invalid = .ok (b0,b1) ↔ session.read reader = some [b0,b1] := by
  unfold getU16Config
  split
  · rename_i v v' h
    rw [h]
    simp
  · rename_i h
    constructor
    · intro he
      cases he
    · intro hread
      exact absurd hread (h b0 b1)

theorem get_bytes_ok {value : List UInt8} :
    session.getBytesConfig reader invalid = .ok value ↔ session.read reader = some value := by
  unfold getBytesConfig
  cases session.read reader with
  | none => exact iff_of_false nofun nofun
  | some v => simp

/-- The table of `session'` is that of `session` with the value under test stored. -/
def Overrides (session : Session) (configId : UInt8) (value : List UInt8)
    (session' : Session) : Prop :=
  ∀ other, session'.getConfig other =
    if configId = other then some value else session.getConfig other

theorem Overrides.stored {configId : UInt8} {value : List UInt8}
    (h : session.getConfig configId = some value) : session.Overrides configId value session := by
  intro other
  split
  · rename_i hid
    rw [← hid, h]
  · rfl

theorem Overrides.read_other {configId : UInt8}
    {value : List UInt8} (h : session.Overrides configId value session') (reader : Reader)
    (hid : configId ≠ reader.configId) : session'.read reader = session.read reader :=
  (h reader.configId).trans (if_neg hid)

theorem Overrides.read_same {configId : UInt8}
    {value : List UInt8} (h : session.Overrides configId value session') (reader : Reader)
    (hid : configId = reader.configId) : session'.read reader = some value :=
  (h reader.configId).trans (if_pos hid)

theorem read_u8_ok {β : Type} {f : UInt8 → Except InvalidConfig β} {b : β} :
    (session.getU8Config reader invalid >>= f) = .ok b ↔
      ∃ value, session.read reader = some [value] ∧ f value = .ok b := by
  simp only [bind_ok, get_u8_ok]

theorem read_u16_ok {β : Type} {f : UInt8 × UInt8 → Except InvalidConfig β} {b : β} :
    (session.getU16Config reader invalid >>= f) = .ok b ↔
      ∃ b0 b1, session.read reader = some [b0,b1] ∧ f (b0,b1) = .ok b := by
  simp only [bind_ok, Prod.exists, get_u16_ok]

theorem read_bytes_ok {β : Type} {f : List UInt8 → Except InvalidConfig β} {b : β} :
    (session.getBytesConfig reader invalid >>= f) = .ok b ↔
      ∃ value, session.read reader = some value ∧ f value = .ok b := by
  simp only [bind_ok, get_bytes_ok]

theorem context_u8_override {configId : UInt8} {value : List UInt8}
    (h : session.Overrides configId value session') :
    session.contextU8 reader configId value invalid = session'.getU8Config reader invalid := by
  unfold contextU8
  by_cases hid : configId = reader.configId
  · have hread : session'.read reader = some value := by
      rw [read, h, if_pos hid]
    rw [if_pos hid, getU8Config, hread]
    match value with
    | [] => rfl
    | [_] => rfl
    | _::_::_ => rfl
  · have hread : session'.read reader = session.read reader := by
      rw [read, h, if_neg hid, read]
    rw [if_neg hid, getU8Config, getU8Config, hread]

theorem context_u8_none (reader : Reader) (hid : noOverride ≠ reader.configId) :
    session.contextU8 reader noOverride [] invalid = session.getU8Config reader invalid :=
  if_neg hid

theorem context_cap_size_override {configId : UInt8} {value : List UInt8}
    (h : session.Overrides configId value session') :
    session.contextCapSizeRange configId value invalid =
      session'.getU16Config capSizeRangeReader invalid := by
  unfold contextCapSizeRange
  by_cases hid : configId = appConfigCapSizeRange
  · have hread : session'.read capSizeRangeReader = some value := by
      rw [read, h, if_pos hid]
    rw [if_pos hid, getU16Config, hread]
    match value with
    | [] => rfl
    | [_] => rfl
    | [_,_] => rfl
    | _::_::_::_ => rfl
  · have hread : session'.read capSizeRangeReader = session.read capSizeRangeReader := by
      rw [read, h, if_neg hid, read]
    rw [if_neg hid, getU16Config, getU16Config, hread]

end Session

open Session

section

variable (profile : Profile) {session session' : Session} {configId : UInt8}
  {value : List UInt8}

theorem slot_topology_override (h : session.Overrides configId value session') :
    validateSlotTopologyContext profile session configId value =
      validateSlotTopologyContext profile session' noOverride [] := by
  unfold validateSlotTopologyContext
  simp only [context_u8_override h, context_u8_none slotsPerRrReader (by decide),
    context_u8_none responderSlotIndexReader (by decide)]

theorem block_stride_override (h : session.Overrides configId value session') :
    validateBlockStrideContext profile session configId value =
      validateBlockStrideContext profile session' noOverride [] := by
  unfold validateBlockStrideContext
  simp only [context_u8_override h,
    context_u8_none blockStrideLengthReader (by decide),
    context_u8_none rangingTimeStructReader (by decide),
    context_u8_none scheduledModeReader (by decide)]

theorem cap_size_range_override (h : session.Overrides configId value session') :
    validateCapSizeRangeContext profile session configId value =
      validateCapSizeRangeContext profile session' noOverride [] := by
  rw [validate_cap_size_range_eq, validate_cap_size_range_eq]
  unfold checkCapSizeRange
  have hnone : session'.contextCapSizeRange noOverride [] profile.invalidCapSizeRange =
      session'.getU16Config capSizeRangeReader profile.invalidCapSizeRange :=
    if_neg (by decide)
  simp only [context_cap_size_override h, hnone, context_u8_override h,
    context_u8_none slotsPerRrReader (by decide),
    context_u8_none scheduledModeReader (by decide)]

theorem slot_topology_ok :
    validateSlotTopologyContext profile session noOverride [] = .ok () ↔
      ∃ slots, session.read slotsPerRrReader = some [slots] ∧
        validateSlotsPerRr profile slots = .ok () ∧
        ∃ responder, session.read responderSlotIndexReader = some [responder] ∧
          responder < slots := by
  simp only [validateSlotTopologyContext, context_u8_none slotsPerRrReader (by decide),
    context_u8_none responderSlotIndexReader (by decide), read_u8_ok, then_ok, require_ok]

theorem block_stride_ok :
    validateBlockStrideContext profile session noOverride [] = .ok () ↔
      ∃ stride, session.read blockStrideLengthReader = some [stride] ∧
        validateBlockStrideLength profile stride = .ok () ∧
        (stride ≠ 0 → session.read rangingTimeStructReader = some [0x01] ∧
          session.read scheduledModeReader = some [scheduledModeTimeScheduled]) := by
  simp only [validateBlockStrideContext, context_u8_none blockStrideLengthReader (by decide),
    context_u8_none rangingTimeStructReader (by decide),
    context_u8_none scheduledModeReader (by decide), read_u8_ok, then_ok]
  refine exists_congr fun stride => and_congr_right fun _ => and_congr_right fun _ => ?_
  by_cases h : stride = 0
  · rw [if_pos h]
    exact iff_of_true rfl fun hne => absurd h hne
  · rw [if_neg h, forall_prop_of_true h]
    simp only [read_u8_ok, require_ok]
    constructor
    · rintro ⟨_,htime,_,hmode,rfl,rfl⟩
      exact ⟨htime,hmode⟩
    · rintro ⟨htime,hmode⟩
      exact ⟨_,htime,_,hmode,rfl,rfl⟩

theorem cap_size_range_ok :
    validateCapSizeRangeContext profile session noOverride [] = .ok () ↔
      ∃ capMax capMin, session.read capSizeRangeReader = some [capMax,capMin] ∧
        capMin ≤ capMax ∧ (¬ (capMin = 0 ∧ capMax = 0) →
          session.read scheduledModeReader = some [scheduledModeContentionBased] ∧
          ∃ slots, session.read slotsPerRrReader = some [slots] ∧ slots ≠ 0 ∧
            capMax ≤ slots-1) := by
  have hnone : session.contextCapSizeRange noOverride [] profile.invalidCapSizeRange =
      session.getU16Config capSizeRangeReader profile.invalidCapSizeRange :=
    if_neg (by decide)
  simp only [validate_cap_size_range_eq, hnone, checkCapSizeRange,
    context_u8_none slotsPerRrReader (by decide),
    context_u8_none scheduledModeReader (by decide), read_u16_ok, then_ok, require_ok]
  refine exists_congr fun capMax => exists_congr fun capMin => and_congr_right fun _ =>
    and_congr_right fun _ => ?_
  by_cases h : capMin = 0 ∧ capMax = 0
  · rw [if_pos h]
    exact iff_of_true rfl fun hne => absurd h hne
  · rw [if_neg h, forall_prop_of_true h]
    simp only [read_u8_ok, require_ok]
    constructor
    · rintro ⟨_,hmode,slots,hslots,rfl,hrest⟩
      exact ⟨hmode,slots,hslots,hrest⟩
    · rintro ⟨hmode,slots,hslots,hrest⟩
      exact ⟨_,hmode,slots,hslots,rfl,hrest⟩

end

end UciSim
