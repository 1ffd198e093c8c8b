import UciSim.CommandReplies
import UciSim.General.Formats
import UciSim.ParameterRules
import UciSim.TransferNotices

/-!
# Calibrations

A request lists keys behind their number. The reply reports a calibration for every key
whose entry still fits, and a request that is not a list of keys gets three bytes.
-/

set_option autoImplicit false

namespace UciSim

open Exchange

theorem write_read_u16_le (b0 b1 : UInt8) : writeU16Le (readU16Le [b0,b1] 0) = [b0,b1] := by
  have hvalue := read_u16_value b0 b1
  rw [Bits.little_endian_two] at hvalue
  have hb0 := b0.toNat_lt
  have hb1 := b1.toNat_lt
  have hlow : ((readU16Le [b0,b1] 0) &&& 0xFF).toUInt8 = b0 := by
    apply UInt8.toNat_inj.mp
    simp [hvalue]
    exact (Nat.and_two_pow_sub_one_eq_mod b0.toNat 8).trans (Nat.mod_eq_of_lt hb0)
  have hhigh : (((readU16Le [b0,b1] 0) >>> 8) &&& 0xFF).toUInt8 = b1 := by
    apply UInt8.toNat_inj.mp
    simp [byte_masked, hvalue, Nat.shiftRight_eq_div_pow]
    omega
  unfold writeU16Le
  rw [hlow, hhigh]

def wordFormat : Format UInt8 UInt16 where
  write := writeU16Le
  read s := if s.length < 2 then none else some (readU16Le s 0,s.drop 2)
  read_iff s value rest := by
    constructor
    · intro hread
      by_cases hshort : s.length < 2
      · rw [if_pos hshort] at hread
        cases hread
      · rw [if_neg hshort] at hread
        cases hread
        rcases s with _ | ⟨b0,_ | ⟨b1,s⟩⟩
        · exact absurd (Nat.zero_lt_two) hshort
        · exact absurd (Nat.one_lt_two) hshort
        · have hword : writeU16Le (readU16Le (b0::b1::s) 0) = [b0,b1] := write_read_u16_le b0 b1
          rw [hword]
          rfl
    · rintro rfl
      have hlong : ¬ (writeU16Le value ++ rest).length < 2 := by
        rw [List.length_append, show (writeU16Le value).length = 2 from rfl]
        omega
      rw [if_neg hlong, read_write_u16_le]
      rfl

/-- A key, its status and its value. -/
abbrev Calibration := Format.Counted × UInt8 × Format.Counted

def calibrationFormat : Format UInt8 Calibration :=
  Format.counted.pair (Format.one.pair Format.counted)

/-- What is reported for a key. -/
def calibrated (key : Format.Counted) : Calibration := (key,0,⟨[0xFF],by decide⟩)

def entrySize (key : Format.Counted) : ℕ := key.1.length+4

/-- The keys whose entries still fit behind the status and the number. -/
def calibratedKeys (keys : List Format.Counted) : List Format.Counted :=
  Format.fitting entrySize (controlPayloadLimit-3) keys

theorem calibrated_write (key : Format.Counted) :
    calibrationFormat.write (calibrated key) =
      [UInt8.ofNat key.1.length] ++ key.1 ++ [0,1,0xFF] := rfl

theorem calibrated_size (key : Format.Counted) :
    (calibrationFormat.write (calibrated key)).length = entrySize key := by
  rw [calibrated_write]
  simp [entrySize]

theorem calibrated_length (keys : List Format.Counted) :
    (calibrationFormat.writeMany (keys.map calibrated)).length = (keys.map entrySize).sum := by
  induction keys with
  | nil => rfl
  | cons key keys ih =>
    rw [List.map_cons, Format.write_many_cons, List.length_append, ih, calibrated_size,
      List.map_cons, List.sum_cons]

namespace Packet

structure AsksCalibrations (request : Packet) : Prop where
  mt : request.mt = mtCommand
  gid : request.gid = gidQorvoMac
  oid : request.oid = oidQorvoMacGetCalibrations

/-- The payload is the number of the keys and the keys, each behind its length. -/
def ListsKeys (request : Packet) (keys : List Format.Counted) : Prop :=
  ∃ count : UInt16, keys.length = count.toNat ∧
    request.payload = writeU16Le count ++ Format.counted.writeMany keys

end Packet

theorem calibration_entries_succ (remaining : ℕ) (rest entries : List UInt8) (numReturned : ℕ)
    (h : 3+entries.length ≤ controlPayloadLimit) :
    calibrationEntries (remaining+1) rest entries numReturned =
      (Format.counted.read rest).bind fun found =>
        if entrySize found.1 ≤ controlPayloadLimit-(3+entries.length) then
          calibrationEntries remaining found.2
            (entries ++ calibrationFormat.write (calibrated found.1)) (numReturned+1)
        else calibrationEntries remaining found.2 entries numReturned := by
  cases rest with
  | nil => rfl
  | cons keyLen rest =>
    rw [calibrationEntries]
    by_cases hshort : rest.length < keyLen.toNat
    · have hnone : Format.counted.read (keyLen::rest) = none := if_pos hshort
      rw [if_pos hshort, hnone]
      rfl
    have htaken : (rest.take keyLen.toNat).length = keyLen.toNat :=
      List.length_take_of_le (Nat.le_of_not_lt hshort)
    let key : Format.Counted := ⟨rest.take keyLen.toNat,by
      rw [htaken]
      exact keyLen.toNat_lt⟩
    have hread : Format.counted.read (keyLen::rest) = some (key,rest.drop keyLen.toNat) :=
      if_neg hshort
    have hsize : entrySize key = keyLen.toNat+4 := congrArg (·+4) htaken
    rw [if_neg hshort, hread, Option.bind_some]
    by_cases hfull : 3+entries.length+1+keyLen.toNat+1+1+1 > controlPayloadLimit
    · have hskip : ¬ entrySize key ≤ controlPayloadLimit-(3+entries.length) := by
        rw [hsize]
        omega
      rw [if_pos hfull, if_neg hskip]
    · have hroom : entrySize key ≤ controlPayloadLimit-(3+entries.length) := by
        rw [hsize]
        omega
      have hkey : UInt8.ofNat key.1.length = keyLen := by
        rw [show key.1.length = keyLen.toNat from htaken, UInt8.ofNat_toNat]
      have hwritten : entries ++ [keyLen] ++ rest.take keyLen.toNat ++ [0,1,0xFF] =
          entries ++ calibrationFormat.write (calibrated key) := by
        rw [calibrated_write, hkey]
        simp [key]
      rw [if_neg hfull, if_pos hroom, hwritten]

theorem calibration_entries_eq (remaining : ℕ) (rest entries : List UInt8) (numReturned : ℕ)
    (h : 3+entries.length ≤ controlPayloadLimit) :
    calibrationEntries remaining rest entries numReturned =
      (Format.counted.readMany remaining rest).map fun found =>
        let keys := Format.fitting entrySize (controlPayloadLimit-(3+entries.length)) found.1
        (entries ++ calibrationFormat.writeMany (keys.map calibrated),numReturned+keys.length,
          found.2) := by
  induction remaining generalizing rest entries numReturned with
  | zero =>
    show some (entries,numReturned,rest) = some (entries ++ [],numReturned+0,rest)
    rw [List.append_nil, Nat.add_zero]
  | succ remaining ih =>
    rw [calibration_entries_succ _ _ _ _ h, Format.read_many_succ]
    cases Format.counted.read rest with
    | none => rfl
    | some found =>
      rcases found with ⟨key,left⟩
      rw [Option.bind_some, Option.bind_some, Option.map_map]
      dsimp only
      by_cases hroom : entrySize key ≤ controlPayloadLimit-(3+entries.length)
      · have hlength : (entries ++ calibrationFormat.write (calibrated key)).length =
            entries.length+entrySize key := by
          rw [List.length_append, calibrated_size]
        have hleft : controlPayloadLimit-(3+(entries.length+entrySize key)) =
            controlPayloadLimit-(3+entries.length)-entrySize key := by omega
        rw [if_pos hroom, ih _ _ _ (by rw [hlength]; omega), hlength, hleft]
        refine congrArg (fun f => Option.map f _) (funext fun found => ?_)
        dsimp only [Function.comp_apply]
        rw [Format.fitting, if_pos hroom, List.map_cons, Format.write_many_cons, List.length_cons,
          ← List.append_assoc]
        refine Prod.ext rfl (Prod.ext ?_ rfl)
        show numReturned+1+_ = numReturned+(_+1)
        omega
      · rw [if_neg hroom, ih _ _ _ h]
        refine congrArg (fun f => Option.map f _) (funext fun found => ?_)
        dsimp only [Function.comp_apply]
        rw [Format.fitting, if_neg hroom]

theorem lists_keys_iff (request : Packet) (keys : List Format.Counted) :
    request.ListsKeys keys ↔ ¬ request.payload.length < 2 ∧
      Format.counted.readMany (readU16Le request.payload 0).toNat (request.payload.drop 2) =
        some (keys,[]) := by
  rw [Format.read_many_iff, List.append_nil]
  constructor
  · rintro ⟨count,hcount,hpayload⟩
    have hread : wordFormat.read request.payload =
        some (count,Format.counted.writeMany keys) := (wordFormat.read_iff _ _ _).mpr hpayload
    by_cases hshort : request.payload.length < 2
    · rw [show wordFormat.read request.payload = none from if_pos hshort] at hread
      cases hread
    · rw [show wordFormat.read request.payload =
        some (readU16Le request.payload 0,request.payload.drop 2) from if_neg hshort] at hread
      rcases Prod.mk.inj (Option.some.inj hread) with ⟨hvalue,hrest⟩
      exact ⟨hshort,by rw [hvalue]; exact hcount,hrest⟩
  · rintro ⟨hlong,hcount,hrest⟩
    refine ⟨readU16Le request.payload 0,hcount,?_⟩
    rw [← hrest]
    exact (wordFormat.read_iff _ _ _).mp (if_neg hlong)

theorem ListsKeys.unique {request : Packet} {keys keys' : List Format.Counted}
    (h : request.ListsKeys keys) (h' : request.ListsKeys keys') : keys = keys' := by
  have hread := ((lists_keys_iff request keys).mp h).2
  rw [((lists_keys_iff request keys').mp h').2] at hread
  cases hread
  rfl

def calibrationReport (keys : List Format.Counted) : List UInt8 :=
  statusOk::writeU16Le (UInt16.ofNat (calibratedKeys keys).length) ++
    calibrationFormat.writeMany ((calibratedKeys keys).map calibrated)

theorem get_calibrations_cases (d : Device) {request : Packet} (h : request.AsksCalibrations) :
    (∃ keys, request.ListsKeys keys ∧ (start d).dispatchCommand request =
      (.ok,(start d).respond gidQorvoMac oidQorvoMacGetCalibrations (calibrationReport keys))) ∨
    ((∀ keys, ¬ request.ListsKeys keys) ∧ (start d).dispatchCommand request =
      (.err,(start d).respond gidQorvoMac oidQorvoMacGetCalibrations
        [statusInvalidMsgSize,0,0])) := by
  rw [dispatch_qorvo_mac h.gid, handleQorvoMac, if_pos h.oid]
  by_cases hshort : request.payload.length < 2
  · rw [if_pos hshort]
    exact Or.inr ⟨fun keys hkeys => ((lists_keys_iff request keys).mp hkeys).1 hshort,rfl⟩
  rw [if_neg hshort]
  dsimp only
  rw [calibration_entries_eq _ _ [] 0 (by decide)]
  cases hread : Format.counted.readMany (readU16Le request.payload 0).toNat
      (request.payload.drop 2) with
  | none =>
    refine Or.inr ⟨?_,rfl⟩
    intro keys hkeys
    rw [((lists_keys_iff request keys).mp hkeys).2] at hread
    cases hread
  | some found =>
    rcases found with ⟨keys,_ | ⟨b,left⟩⟩
    · refine Or.inl ⟨keys,(lists_keys_iff request keys).mpr ⟨hshort,hread⟩,?_⟩
      show (Rc.ok,(start d).respond gidQorvoMac oidQorvoMacGetCalibrations
        (statusOk::writeU16Le (UInt16.ofNat (0+(calibratedKeys keys).length)) ++
          ([] ++ calibrationFormat.writeMany ((calibratedKeys keys).map calibrated)))) = _
      rw [Nat.zero_add, List.nil_append]
      rfl
    · refine Or.inr ⟨?_,rfl⟩
      intro keys' hkeys
      rw [((lists_keys_iff request keys').mp hkeys).2] at hread
      cases hread

theorem report_length (keys : List Format.Counted) :
    (calibrationReport keys).length ≤ controlPayloadLimit := by
  have hsize := Format.fitting_size entrySize (controlPayloadLimit-3) keys
  have hlength : (calibrationReport keys).length = 3+((calibratedKeys keys).map entrySize).sum := by
    rw [← calibrated_length]
    show (statusOk::writeU16Le _ ++ _).length = _
    rw [List.length_append]
    rfl
  have hlimit : controlPayloadLimit = 255 := rfl
  rw [hlength]
  show 3+((Format.fitting entrySize (controlPayloadLimit-3) keys).map entrySize).sum ≤ _
  omega

theorem report_count {keys : List Format.Counted} {count : UInt16}
    (h : keys.length = count.toNat) :
    (readU16Le (calibrationReport keys) 1).toNat = (calibratedKeys keys).length := by
  have hfewer := (Format.fitting_sublist entrySize (controlPayloadLimit-3) keys).length_le
  have hcount := count.toNat_lt
  have hread : readU16Le (calibrationReport keys) 1 =
      UInt16.ofNat (calibratedKeys keys).length :=
    read_write_u16_le (UInt16.ofNat (calibratedKeys keys).length)
      (calibrationFormat.writeMany ((calibratedKeys keys).map calibrated))
  rw [hread]
  refine UInt16.toNat_ofNat_of_lt' ?_
  show (Format.fitting entrySize (controlPayloadLimit-3) keys).length < 2^16
  omega

/-- A request that lists keys is answered with a calibration for each key whose entry still fits,
in their order and behind their number. Any other request gets the three bytes of its refusal. -/
theorem calibrations_reported (d : Device) (request : Packet) (h : request.AsksCalibrations) :
    ∃ response, (d.handlePacket request).2.result.response = some response ∧
      response.mt = mtResponse ∧ response.gid = request.gid ∧ response.oid = request.oid ∧
      (byteAt response.payload 0 = statusOk ↔ ∃ keys, request.ListsKeys keys) ∧
      (∀ keys, request.ListsKeys keys →
        response.payload.length ≤ controlPayloadLimit ∧
          calibrationFormat.readMany (readU16Le response.payload 1).toNat
            (response.payload.drop 3) = some ((calibratedKeys keys).map calibrated,[])) ∧
      ((¬ ∃ keys, request.ListsKeys keys) →
        response.payload = [statusInvalidMsgSize,0x00,0x00]) := by
  rw [handle_command_response d request h.mt, h.gid, h.oid]
  rcases get_calibrations_cases d h with ⟨keys,hkeys,hdispatch⟩ | ⟨hnone,hdispatch⟩
  · rw [hdispatch]
    refine ⟨_,rfl,rfl,rfl,rfl,iff_of_true rfl ⟨keys,hkeys⟩,?_,fun hnot => absurd ⟨keys,hkeys⟩ hnot⟩
    intro keys' hkeys'
    cases ListsKeys.unique hkeys hkeys'
    rcases hkeys with ⟨count,hcount,-⟩
    refine ⟨report_length keys,?_⟩
    dsimp only
    rw [report_count hcount, Format.read_many_iff, List.length_map, List.append_nil]
    exact ⟨rfl,rfl⟩
  · rw [hdispatch]
    refine ⟨_,rfl,rfl,rfl,rfl,iff_of_false (by decide) ?_,?_,fun _ => rfl⟩
    · rintro ⟨keys,hkeys⟩
      exact hnone keys hkeys
    · intro keys hkeys
      exact absurd hkeys (hnone keys)

/-- One key and its calibration. -/
theorem calibration_of_a_key : ∃ response,
    ((Device.initWithProfile defaultProfile .default).handlePacket ⟨mtCommand,pbfComplete,
      gidQorvoMac,oidQorvoMacGetCalibrations,[1,0,2,0x61,0x62]⟩).2.result.response = some response ∧
    response.payload.length ≤ controlPayloadLimit ∧
    calibrationFormat.readMany (readU16Le response.payload 1).toNat (response.payload.drop 3) =
      some ([(⟨[0x61,0x62],by decide⟩,0,⟨[0xFF],by decide⟩)],[]) := by
  rcases calibrations_reported (Device.initWithProfile defaultProfile .default)
    ⟨mtCommand,pbfComplete,gidQorvoMac,oidQorvoMacGetCalibrations,[1,0,2,0x61,0x62]⟩
    ⟨rfl,rfl,rfl⟩ with ⟨response,hresponse,-,-,-,-,hreport,-⟩
  exact ⟨response,hresponse,hreport [⟨[0x61,0x62],by decide⟩] ⟨1,rfl,rfl⟩⟩

end UciSim
