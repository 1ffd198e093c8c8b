import UciSim.Chardev
import UciSim.General.Patches
import UciSim.RangingNumbers
import UciSim.TickCodes
import UciSim.TransferNotices

/-!
# The fields of a range data notification

The notification is the profile's template under patches: fields that show the sample and
fields that are cleared unless the mask reports them. In the shipped profile the fields lie
apart, so that each shows what was written into it.
-/

set_option autoImplicit false

namespace UciSim

open Patches

abbrev FieldBytes (width : ℕ) := {bytes : List UInt8 // bytes.length = width}

def writtenField (offset : UInt8) {width : ℕ} (bytes : FieldBytes width) : Patch UInt8 :=
  ⟨offset.toNat,width,some bytes⟩

/-- The field shows the template while the mask reports it, and is cleared otherwise. -/
def maskedField (mask field offset : UInt8) (width : ℕ) : Patch UInt8 :=
  ⟨offset.toNat,width,
    if mask &&& field = 0 then some ⟨List.replicate width 0,List.length_replicate⟩ else none⟩

def u32Bytes (value : UInt32) : FieldBytes 4 := ⟨writeU32Le value,rfl⟩

def u16Bytes (value : UInt16) : FieldBytes 2 := ⟨writeU16Le value,rfl⟩

namespace Profile

/-- The angles and their figures of merit, each with its bit of the mask and its width. -/
def rangeDataAngles (profile : Profile) : List (UInt8 × UInt8 × ℕ) :=
  let localAzimuthOffset := profile.rangeDataMeasurementDistanceOffset+2
  let localAzimuthFomOffset := localAzimuthOffset+2
  let localElevationOffset := localAzimuthFomOffset+1
  let localElevationFomOffset := localElevationOffset+2
  let remoteAzimuthOffset := localElevationFomOffset+1
  let remoteAzimuthFomOffset := remoteAzimuthOffset+2
  let remoteElevationOffset := remoteAzimuthFomOffset+1
  let remoteElevationFomOffset := remoteElevationOffset+2
  [(measFieldAoaAzimuth,localAzimuthOffset,2),(measFieldAoaAzimuth,remoteAzimuthOffset,2),
    (measFieldAoaElevation,localElevationOffset,2),
    (measFieldAoaElevation,remoteElevationOffset,2),
    (measFieldAoaAzimuthFom,localAzimuthFomOffset,1),
    (measFieldAoaAzimuthFom,remoteAzimuthFomOffset,1),
    (measFieldAoaElevationFom,localElevationFomOffset,1),
    (measFieldAoaElevationFom,remoteElevationFomOffset,1)]

def rssiOffset (profile : Profile) : UInt8 :=
  profile.rangeDataMeasurementDistanceOffset+2+2+1+2+1+2+1+2+2

/-- The fields that are cleared unless the mask reports them. -/
def maskedRangeData (profile : Profile) : List (UInt8 × UInt8 × ℕ) :=
  profile.rangeDataAngles ++ [(measFieldRssi,profile.rssiOffset,1)]

/-- What is written over the template, in the order of the source. -/
def rangeDataPatches (profile : Profile) (sample : Measurement) (mask : UInt8) :
    List (Patch UInt8) :=
  [writtenField profile.rangeDataSequenceOffset (u32Bytes sample.sequenceNumber),
    writtenField profile.rangeDataPrimarySessionIdOffset (u32Bytes sample.sessionId),
    writtenField profile.rangeDataSecondarySessionIdOffset (u32Bytes sample.sessionId),
    writtenField profile.rangeDataIntervalOffset (u32Bytes sample.rangingIntervalMs),
    writtenField profile.rangeDataMeasurementTypeOffset
      (⟨[sample.measurementType],rfl⟩ : FieldBytes 1),
    writtenField profile.rangeDataMeasurementDistanceOffset
      (if mask &&& measFieldDistance ≠ 0 then u16Bytes sample.distanceCm else ⟨[0,0],rfl⟩)] ++
    profile.rangeDataAngles.map (fun field => maskedField mask field.1 field.2.1 field.2.2) ++
    [writtenField profile.slotIndexOffset (⟨[sample.slotIndex],rfl⟩ : FieldBytes 1),
      maskedField mask measFieldRssi profile.rssiOffset 1]

def rangeDataPlaces (profile : Profile) : List (ℕ × ℕ) :=
  [(profile.rangeDataSequenceOffset.toNat,4),(profile.rangeDataPrimarySessionIdOffset.toNat,4),
    (profile.rangeDataSecondarySessionIdOffset.toNat,4),(profile.rangeDataIntervalOffset.toNat,4),
    (profile.rangeDataMeasurementTypeOffset.toNat,1),
    (profile.rangeDataMeasurementDistanceOffset.toNat,2)] ++
    profile.rangeDataAngles.map (fun field => (field.2.1.toNat,field.2.2)) ++
    [(profile.slotIndexOffset.toNat,1),(profile.rssiOffset.toNat,1)]

def rangeDataTemplate (profile : Profile) : List UInt8 :=
  (List.range profile.rangeDataPayloadLen.toNat).map (byteAt profile.rangeDataPayloadTemplate)

theorem patches_places (profile : Profile) (sample : Measurement) (mask : UInt8) :
    (profile.rangeDataPatches sample mask).map (fun p => (p.offset,p.width)) =
      profile.rangeDataPlaces := rfl

theorem template_length (profile : Profile) :
    profile.rangeDataTemplate.length = profile.rangeDataPayloadLen.toNat := by
  simp [rangeDataTemplate]

end Profile

theorem written_field_apply (payload : List UInt8) (offset : UInt8) {width : ℕ}
    (bytes : FieldBytes width) :
    setBytes payload offset.toNat bytes.1 = (writtenField offset bytes).apply payload :=
  set_bytes_overwrite payload offset.toNat bytes.1

theorem masked_field_apply (mask field offset : UInt8) (width : ℕ) (payload : List UInt8) :
    maskBytes mask field offset width payload =
      (maskedField mask field offset width).apply payload := by
  unfold maskBytes maskedField
  by_cases h : mask &&& field = 0
  · rw [if_pos h, if_pos h]
    exact set_bytes_overwrite _ _ _
  · rw [if_neg h, if_neg h]
    rfl

theorem build_range_data_patched {profile : Profile} (h : profile.BuildsRangeData)
    (sample : Measurement) (policyResult : PolicyResult) (oid : UInt8) :
    buildRangeDataNotification profile sample policyResult oid =
      some (.notification gidSessionControl oid (applyAll profile.rangeDataTemplate
        (profile.rangeDataPatches sample policyResult.emittedFieldMask))) := by
  have hdistance : (if policyResult.emittedFieldMask &&& measFieldDistance ≠ 0
      then u16Bytes sample.distanceCm else ⟨[0,0],rfl⟩ : FieldBytes 2).1 =
      if policyResult.emittedFieldMask &&& measFieldDistance ≠ 0
      then writeU16Le sample.distanceCm else [0,0] := by
    split <;> rfl
  unfold buildRangeDataNotification
  rw [if_neg (not_or.mpr ⟨h.1,Nat.not_lt.mpr h.2⟩)]
  simp only [applyAll, Profile.rangeDataPatches, Profile.rangeDataAngles, List.map_cons,
    List.map_nil, List.foldl_append, List.foldl_cons, List.foldl_nil, ← written_field_apply,
    ← masked_field_apply, hdistance]
  rfl

/-- The fields lie apart and inside the payload. -/
structure Profile.LaysOut (profile : Profile) : Prop where
  builds : profile.BuildsRangeData
  apart : profile.rangeDataPlaces.Pairwise fun p q => p.1+p.2 ≤ q.1 ∨ q.1+q.2 ≤ p.1
  inside : ∀ place ∈ profile.rangeDataPlaces, place.1+place.2 ≤ profile.rangeDataPayloadLen.toNat

theorem default_lays_out : defaultProfile.LaysOut where
  builds := by decide
  apart := by decide
  inside := by decide

section

variable {profile : Profile} (h : profile.LaysOut) (sample : Measurement) (mask : UInt8)

include h

theorem patches_apart : (profile.rangeDataPatches sample mask).Pairwise Patch.Apart := by
  have hplaces := h.apart
  rw [← profile.patches_places sample mask, List.pairwise_map] at hplaces
  exact hplaces

theorem patch_inside {p : Patch UInt8} (hp : p ∈ profile.rangeDataPatches sample mask) :
    p.Inside profile.rangeDataTemplate.length := by
  rw [profile.template_length]
  refine h.inside (p.offset,p.width) ?_
  rw [← profile.patches_places sample mask]
  exact List.mem_map_of_mem hp

theorem patched_shown {p : Patch UInt8} (hp : p ∈ profile.rangeDataPatches sample mask) :
    p.slice (applyAll profile.rangeDataTemplate (profile.rangeDataPatches sample mask)) =
      p.shown profile.rangeDataTemplate :=
  apply_all_slice _ (patches_apart h sample mask) hp (patch_inside h sample mask hp)

theorem written_bytes (offset : UInt8) {width : ℕ} (bytes : FieldBytes width)
    (hp : writtenField offset bytes ∈ profile.rangeDataPatches sample mask) :
    ∃ rest, (applyAll profile.rangeDataTemplate (profile.rangeDataPatches sample mask)).drop
      offset.toNat = bytes.1 ++ rest := by
  have hshown : ((applyAll profile.rangeDataTemplate
      (profile.rangeDataPatches sample mask)).drop offset.toNat).take width = bytes.1 :=
    patched_shown h sample mask hp
  exact ⟨_,by rw [← hshown, List.take_append_drop]⟩

theorem masked_field_byte {field offset : UInt8} {width : ℕ}
    (hp : maskedField mask field offset width ∈ profile.rangeDataPatches sample mask) {k : ℕ}
    (hk : k < width) :
    byteAt (applyAll profile.rangeDataTemplate (profile.rangeDataPatches sample mask))
      (offset.toNat+k) =
        if mask &&& field ≠ 0 then byteAt profile.rangeDataTemplate (offset.toNat+k) else 0 := by
  have hshown := congrArg (fun bytes => bytes[k]?) (patched_shown h sample mask hp)
  have hslice : ∀ s : List UInt8,
      ((maskedField mask field offset width).slice s)[k]? = s[offset.toNat+k]? := by
    intro s
    show ((s.drop offset.toNat).take width)[k]? = s[offset.toNat+k]?
    rw [List.getElem?_take, if_pos hk, List.getElem?_drop]
  rw [hslice] at hshown
  unfold byteAt
  rw [List.getD_eq_getElem?_getD, hshown]
  unfold maskedField Patch.shown
  by_cases hmask : mask &&& field = 0
  · rw [if_pos hmask, if_neg (not_not.mpr hmask)]
    simp [hk]
  · rw [if_neg hmask, if_pos hmask, List.getD_eq_getElem?_getD, ← hslice]
    unfold maskedField
    rw [if_neg hmask]

end

theorem read_u32_at {payload : List UInt8} {offset : ℕ} {value : UInt32}
    (h : ∃ rest, payload.drop offset = writeU32Le value ++ rest) :
    readU32Le payload offset = value := by
  rcases h with ⟨rest,hrest⟩
  rw [← read_write_u32_le value rest, ← hrest]
  simp only [readU32Le, Chardev.byte_at_drop, Nat.zero_add, Nat.add_zero]

theorem read_u16_at {payload : List UInt8} {offset : ℕ} {value : UInt16}
    (h : ∃ rest, payload.drop offset = writeU16Le value ++ rest) :
    readU16Le payload offset = value := by
  rcases h with ⟨rest,hrest⟩
  rw [← read_write_u16_le value rest, ← hrest]
  simp only [readU16Le, Chardev.byte_at_drop, Nat.zero_add, Nat.add_zero]

theorem byte_at_written {payload : List UInt8} {offset : ℕ} {b : UInt8}
    (h : ∃ rest, payload.drop offset = [b] ++ rest) : byteAt payload offset = b := by
  rcases h with ⟨rest,hrest⟩
  have hbyte := Chardev.byte_at_drop payload offset 0
  rw [hrest, Nat.add_zero] at hbyte
  exact hbyte.symm

/-- The payload reads as the sample, what the mask does not report is zero, and all other bytes
are the template's. -/
structure Profile.Decodes (profile : Profile) (sample : Measurement) (mask : UInt8)
    (payload : List UInt8) : Prop where
  length : payload.length = profile.rangeDataPayloadLen.toNat
  sequence : readU32Le payload profile.rangeDataSequenceOffset.toNat = sample.sequenceNumber
  primary : readU32Le payload profile.rangeDataPrimarySessionIdOffset.toNat = sample.sessionId
  secondary : readU32Le payload profile.rangeDataSecondarySessionIdOffset.toNat =
    sample.sessionId
  interval : readU32Le payload profile.rangeDataIntervalOffset.toNat = sample.rangingIntervalMs
  type : byteAt payload profile.rangeDataMeasurementTypeOffset.toNat = sample.measurementType
  distance : readU16Le payload profile.rangeDataMeasurementDistanceOffset.toNat =
    if mask &&& measFieldDistance ≠ 0 then sample.distanceCm else 0
  slot : byteAt payload profile.slotIndexOffset.toNat = sample.slotIndex
  masked : ∀ field ∈ profile.maskedRangeData, ∀ k < field.2.2,
    byteAt payload (field.2.1.toNat+k) =
      if mask &&& field.1 ≠ 0 then byteAt profile.rangeDataTemplate (field.2.1.toNat+k) else 0
  frame : ∀ k, (∀ place ∈ profile.rangeDataPlaces, k < place.1 ∨ place.1+place.2 ≤ k) →
    byteAt payload k = byteAt profile.rangeDataTemplate k

theorem patched_decodes {profile : Profile} (h : profile.LaysOut) (sample : Measurement)
    (mask : UInt8) :
    profile.Decodes sample mask (applyAll profile.rangeDataTemplate
      (profile.rangeDataPatches sample mask)) where
  length := (apply_all_length _ _).trans profile.template_length
  sequence := read_u32_at (written_bytes h sample mask profile.rangeDataSequenceOffset
    (u32Bytes sample.sequenceNumber) (by simp [Profile.rangeDataPatches]))
  primary := read_u32_at (written_bytes h sample mask profile.rangeDataPrimarySessionIdOffset
    (u32Bytes sample.sessionId) (by simp [Profile.rangeDataPatches]))
  secondary := read_u32_at (written_bytes h sample mask profile.rangeDataSecondarySessionIdOffset
    (u32Bytes sample.sessionId) (by simp [Profile.rangeDataPatches]))
  interval := read_u32_at (written_bytes h sample mask profile.rangeDataIntervalOffset
    (u32Bytes sample.rangingIntervalMs) (by simp [Profile.rangeDataPatches]))
  type := byte_at_written (written_bytes h sample mask profile.rangeDataMeasurementTypeOffset
    (⟨[sample.measurementType],rfl⟩ : FieldBytes 1) (by simp [Profile.rangeDataPatches]))
  distance := by
    have hdistance := written_bytes h sample mask profile.rangeDataMeasurementDistanceOffset
      (if mask &&& measFieldDistance ≠ 0 then u16Bytes sample.distanceCm else ⟨[0,0],rfl⟩)
      (by simp [Profile.rangeDataPatches])
    by_cases hmask : mask &&& measFieldDistance ≠ 0
    · rw [if_pos hmask] at hdistance ⊢
      exact read_u16_at hdistance
    · rw [if_neg hmask] at hdistance ⊢
      exact read_u16_at hdistance
  slot := byte_at_written (written_bytes h sample mask profile.slotIndexOffset
    (⟨[sample.slotIndex],rfl⟩ : FieldBytes 1) (by simp [Profile.rangeDataPatches]))
  masked := by
    intro field hfield k hk
    refine masked_field_byte h sample mask ?_ hk
    rcases List.mem_append.mp hfield with hangle | hrssi
    · exact List.mem_append_left _ (List.mem_append_right _
        (List.mem_map_of_mem (f := fun field => maskedField mask field.1 field.2.1 field.2.2)
          hangle))
    · rw [List.mem_singleton.mp hrssi]
      exact List.mem_append_right _ (List.mem_cons_of_mem _ List.mem_cons_self)
  frame := by
    intro k hk
    unfold byteAt
    rw [List.getD_eq_getElem?_getD, List.getD_eq_getElem?_getD, apply_all_frame]
    intro p hp hcovers
    have hplace : (p.offset,p.width) ∈ profile.rangeDataPlaces := by
      rw [← profile.patches_places sample mask]
      exact List.mem_map_of_mem hp
    have houtside := hk (p.offset,p.width) hplace
    unfold Patch.Covers at hcovers
    dsimp only at houtside
    omega

/-- The notification of the shipped profile reads as the sample whatever the mask, and none of its
fields is written over another. -/
theorem range_data_decodes (sample : Measurement) (policyResult : PolicyResult) (oid : UInt8) :
    ∃ payload, buildRangeDataNotification defaultProfile sample policyResult oid =
        some (.notification gidSessionControl oid payload) ∧
      defaultProfile.Decodes sample policyResult.emittedFieldMask payload ∧
      defaultProfile.rangeDataPlaces.Pairwise fun p q => p.1+p.2 ≤ q.1 ∨ q.1+q.2 ≤ p.1 :=
  ⟨_,build_range_data_patched default_lays_out.builds sample policyResult oid,
    patched_decodes default_lays_out sample policyResult.emittedFieldMask,default_lays_out.apart⟩

end UciSim
