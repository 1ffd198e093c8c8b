import UciSim.MemoryCore

/-!
# Core and vendor commands stay in their arrays

The cursors of a walk follow what the model's recursion still has to read and
has already written. So every access is inside its array, and the handler
returns what the model's does.
-/

set_option autoImplicit false

namespace UciSim.Memory

open Arrays

/-- The handler over arrays meets no fault and does what the model's handler does, and the
state it leaves is in its arrays. -/
structure Sound (checked : Checked (Rc × Exchange)) (outcome : Rc × Exchange) : Prop where
  agrees : checked = .ok outcome
  within : outcome.2.device.InArrays

variable {x : Exchange}

theorem sound_ite_of_iff {c c' : Prop} [Decidable c] [Decidable c'] (hc : c ↔ c')
    {checked checked' : Checked (Rc × Exchange)} {outcome outcome' : Rc × Exchange}
    (hpos : c → Sound checked outcome) (hneg : ¬ c → Sound checked' outcome') :
    Sound (if c then checked else checked') (if c' then outcome else outcome') := by
  by_cases h : c
  · rw [if_pos h, if_pos (hc.mp h)]
    exact hpos h
  · rw [if_neg h, if_neg (fun h' => h (hc.mpr h'))]
    exact hneg h

theorem sound_ite (c : Prop) [Decidable c] {checked checked' : Checked (Rc × Exchange)}
    {outcome outcome' : Rc × Exchange} (hpos : c → Sound checked outcome)
    (hneg : ¬ c → Sound checked' outcome') :
    Sound (if c then checked else checked') (if c then outcome else outcome') :=
  sound_ite_of_iff Iff.rfl hpos hneg

theorem respond_eq (x : Exchange) (gid oid : UInt8) {payload : List UInt8}
    (h : payload.length ≤ maxPayload) :
    respond x gid oid payload = .ok (x.respond gid oid payload) := by
  rw [respond, touch_inside (by rw [Nat.zero_add]; exact h)]
  rfl

theorem answer_sound (h : x.device.InArrays) (rc : Rc) (gid oid : UInt8) {payload : List UInt8}
    (hlen : payload.length ≤ maxPayload) :
    Sound (answer rc x gid oid payload) (rc,x.respond gid oid payload) := by
  refine ⟨?_,h⟩
  rw [answer, respond_eq x gid oid hlen]
  rfl

theorem fail_sound (h : x.device.InArrays) (request : Packet) (status : UInt8) :
    Sound (fail x request status) (x.fail request status) :=
  answer_sound h .err _ _ (show 1 ≤ maxPayload by decide)

theorem emit_eq (x : Exchange) {n : Packet} (h : n.payload.length ≤ maxPayload) :
    emit x n = .ok (x.emit n) := by
  rw [emit, touch_inside (by rw [Nat.zero_add]; exact h), ok_bind, deliver_notification_eq]
  rfl

variable {request : List UInt8}

theorem read_byte {i : ℕ} (h : i < request.length) : read request i = .ok (byteAt request i) :=
  read_inside h 0

theorem read_u16_eq {i : ℕ} (h : i+2 ≤ request.length) :
    readU16Le request i = .ok (UciSim.readU16Le request i) := by
  rw [readU16Le, slice_inside h]
  simp [UciSim.readU16Le, byteAt, bind, Except.bind, pure, Except.pure,
    List.getD_eq_getElem?_getD]

theorem read_u32_eq {i : ℕ} (h : i+4 ≤ request.length) :
    readU32Le request i = .ok (UciSim.readU32Le request i) := by
  rw [readU32Le, slice_inside h]
  simp [UciSim.readU32Le, byteAt, bind, Except.bind, pure, Except.pure,
    List.getD_eq_getElem?_getD]

theorem drop_cons {offset : ℕ} (h : offset < request.length) :
    ∃ b, request.drop offset = b::request.drop (offset+1) :=
  ⟨_,List.drop_eq_getElem_cons h⟩

theorem push_behind {head items : List UInt8} (b : UInt8)
    (h : head.length+items.length < maxPayload) :
    (holding (head ++ items)).push b = .ok (holding (head ++ (items ++ [b]))) := by
  rw [Buffer.holding_push b (by rw [List.length_append]; exact h), List.append_assoc]

theorem pushAll_behind {head items : List UInt8} (more : List UInt8)
    (h : head.length+items.length+more.length ≤ maxPayload) :
    (holding (head ++ items)).pushAll more = .ok (holding (head ++ (items ++ more))) := by
  rw [Buffer.holding_pushAll more (by rw [List.length_append]; exact h), List.append_assoc]

theorem qorvo_ext2_sound (h : x.device.InArrays) (request : Packet) :
    Sound (handleQorvoExt2 x request) (x.handleQorvoExt2 request) :=
  sound_ite _ (fun _ => answer_sound h .ok _ _ (show 3 ≤ maxPayload by decide))
    (fun _ => fail_sound h request _)

/-- The walk over the keys stops where the model's does, or both find the request malformed. -/
theorem calibration_entries_eq (request head : List UInt8) (hh : head.length = 3)
    (remaining offset : ℕ) (ho : offset ≤ request.length) (entries : List UInt8)
    (he : 3+entries.length ≤ controlPayloadLimit) (numReturned : ℕ) :
    (UciSim.calibrationEntries remaining (request.drop offset) entries numReturned = none ∧
      calibrationEntries request remaining offset (holding (head ++ entries)) numReturned =
        .ok none) ∨
    ∃ entries' numReturned' offset', 3+entries'.length ≤ controlPayloadLimit ∧
      offset' ≤ request.length ∧
      UciSim.calibrationEntries remaining (request.drop offset) entries numReturned =
        some (entries',numReturned',request.drop offset') ∧
      calibrationEntries request remaining offset (holding (head ++ entries)) numReturned =
        .ok (some (holding (head ++ entries'),numReturned',offset')) := by
  induction remaining generalizing offset entries numReturned with
  | zero => exact Or.inr ⟨entries,numReturned,offset,he,ho,rfl,rfl⟩
  | succ remaining ih =>
    by_cases hend : offset ≥ request.length
    · left
      rw [List.drop_eq_nil_of_le hend, calibrationEntries, if_pos hend]
      exact ⟨rfl,rfl⟩
    rcases drop_cons (Nat.lt_of_not_le hend) with ⟨keyLen,hkey⟩
    rw [calibrationEntries, if_neg hend, read_drop hkey, ok_bind, hkey,
      UciSim.calibrationEntries]
    dsimp only
    rw [List.length_drop, List.drop_drop]
    by_cases hshort : offset+1+keyLen.toNat > request.length
    · rw [if_pos hshort, if_pos (by omega)]
      exact Or.inl ⟨rfl,rfl⟩
    rw [if_neg hshort, if_neg (by omega), Buffer.holding_cursor, List.length_append, hh]
    by_cases hfull : 3+entries.length+1+keyLen.toNat+1+1+1 > controlPayloadLimit
    · rw [if_pos hfull, if_pos hfull]
      exact ih _ (by omega) entries he numReturned
    · have hsize : maxPayload = 1024 := rfl
      have hlimit : controlPayloadLimit = 255 := rfl
      have hkeylen : ((request.drop (offset+1)).take keyLen.toNat).length = keyLen.toNat := by
        rw [List.length_take, List.length_drop]
        omega
      rw [if_neg hfull, if_neg hfull, push_behind _ (by omega), ok_bind,
        slice_inside (by omega), ok_bind, pushAll_behind _ (by simp [hkeylen]; omega), ok_bind,
        pushAll_behind _ (by simp [hkeylen]; omega), ok_bind]
      exact ih _ (by omega) _ (by simp [hkeylen]; omega) (numReturned+1)

theorem qorvo_mac_sound (h : x.device.InArrays) (request : Packet) :
    Sound (handleQorvoMac x request) (x.handleQorvoMac request) := by
  have hmalformed : Sound
      (answer .err x gidQorvoMac oidQorvoMacGetCalibrations [statusInvalidMsgSize,0x00,0x00])
      (.err,x.respond gidQorvoMac oidQorvoMacGetCalibrations [statusInvalidMsgSize,0x00,0x00]) :=
    answer_sound h .err _ _ (by decide)
  refine sound_ite _ (fun _ => ?_) fun _ => sound_ite _ (fun _ => ?_) fun _ =>
    fail_sound h request _
  · refine sound_ite _ (fun _ => hmalformed) fun hlong => ?_
    rw [read_u16_eq (by omega), ok_bind]
    have hsize : maxPayload = 1024 := rfl
    have hlimit : controlPayloadLimit = 255 := rfl
    rcases calibration_entries_eq request.payload [statusOk,0,0] rfl
      (UciSim.readU16Le request.payload 0).toNat 2 (by omega) [] (by decide) 0 with
      ⟨hmodel,hchecked⟩ | ⟨entries,numReturned,offset,he,ho,hmodel,hchecked⟩
    · rw [List.append_nil] at hchecked
      rw [hchecked, ok_bind]
      dsimp only
      rw [hmodel]
      exact hmalformed
    · rw [List.append_nil] at hchecked
      rw [hchecked, ok_bind]
      dsimp only
      rw [hmodel]
      by_cases hend : offset ≠ request.payload.length
      · rw [if_pos hend]
        rcases drop_cons (show offset < request.payload.length by omega) with ⟨b,hb⟩
        rw [hb]
        exact hmalformed
      · rw [not_not] at hend
        rw [if_neg (by rw [not_not]; exact hend), hend, List.drop_length,
          Buffer.holding_put _ (by simp) (by simp; omega), ok_bind,
          Buffer.holding_put _ (by simp) (by simp; omega), ok_bind, Buffer.holding_filled]
        exact ⟨rfl,h⟩
  · exact answer_sound h .ok _ _ (show 1 ≤ maxPayload by decide)

theorem core_set_configs_end (remaining : ℕ) {rest : List UInt8} (h : rest.length < 2)
    (device : Device) (items : List UInt8) (anyFailed : Bool) :
    UciSim.coreSetConfigs (remaining+1) rest device items anyFailed =
      (device,items,anyFailed) := by
  rcases rest with _ | ⟨configId, _ | ⟨valueLen,rest⟩⟩
  · rfl
  · rfl
  · simp only [List.length_cons] at h
    omega

/-- The walk over the entries keeps the device in its arrays and the response in step. -/
theorem core_set_configs_eq (request head : List UInt8) (hh : head.length = 2)
    (remaining offset : ℕ) (ho : offset ≤ request.length) (device : Device)
    (hd : device.InArrays) (items : List UInt8) (processed : ℕ)
    (hp : items.length = processed*2) (hroom : 2+items.length ≤ maxPayload) (anyFailed : Bool) :
    ∃ device' items' processed' anyFailed', device'.InArrays ∧
      items'.length = processed'*2 ∧ 2+items'.length ≤ maxPayload ∧
      UciSim.coreSetConfigs remaining (request.drop offset) device items anyFailed =
        (device',items',anyFailed') ∧
      coreSetConfigs request remaining offset device (holding (head ++ items)) processed
        anyFailed = .ok (device',holding (head ++ items'),processed',anyFailed') := by
  induction remaining generalizing offset device items processed anyFailed with
  | zero => exact ⟨device,items,processed,anyFailed,hd,hp,hroom,rfl,rfl⟩
  | succ remaining ih =>
    by_cases hend : offset+2 > request.length
    · refine ⟨device,items,processed,anyFailed,hd,hp,hroom,core_set_configs_end _ ?_ _ _ _,?_⟩
      · rw [List.length_drop]
        omega
      · rw [coreSetConfigs, if_pos hend]
    rcases drop_cons (show offset < request.length by omega) with ⟨configId,hid⟩
    rcases drop_cons (show offset+1 < request.length by omega) with ⟨valueLen,hlen⟩
    have hrest : (request.drop (offset+1+1)).length = request.length-(offset+2) :=
      List.length_drop
    rw [coreSetConfigs, if_neg hend, read_drop hid, ok_bind, read_drop hlen, ok_bind, hid, hlen,
      UciSim.coreSetConfigs]
    dsimp only
    rw [hrest, Buffer.holding_cursor, List.length_append, hh, List.drop_drop]
    by_cases hstop : offset+2+valueLen.toNat > request.length ∨ 2+items.length+2 > maxPayload
    · rw [if_pos hstop, if_pos (by omega)]
      exact ⟨device,items,processed,anyFailed,hd,hp,hroom,rfl,rfl⟩
    rw [if_neg hstop, if_neg (by omega)]
    rcases not_or.mp hstop with ⟨hinside,hfits⟩
    -- Every branch writes the identifier and a status, and goes on behind the value.
    have hnext : ∀ (device' : Device) (status : UInt8) (failed : Bool), device'.InArrays →
        (holding (head ++ items)).pushAll [configId,status] =
          .ok (holding (head ++ (items ++ [configId,status]))) ∧
        ∃ device'' items' processed' anyFailed', device''.InArrays ∧
          items'.length = processed'*2 ∧ 2+items'.length ≤ maxPayload ∧
          UciSim.coreSetConfigs remaining (request.drop (offset+1+1+valueLen.toNat)) device'
            (items ++ [configId,status]) failed = (device'',items',anyFailed') ∧
          coreSetConfigs request remaining (offset+2+valueLen.toNat) device'
            (holding (head ++ (items ++ [configId,status]))) (processed+1) failed =
              .ok (device'',holding (head ++ items'),processed',anyFailed') := by
      intro device' status failed hd'
      constructor
      · exact pushAll_behind _ (by rw [hh]; exact Nat.le_of_not_lt hfits)
      · refine ih (offset+2+valueLen.toNat) (by omega) device' hd' _ _ ?_ ?_ failed
        · rw [List.length_append, hp, Nat.succ_mul]
          rfl
        · rw [List.length_append]
          exact Nat.le_of_not_lt hfits
    by_cases hstate : configId = deviceConfigDeviceState
    · rw [if_pos hstate, if_pos hstate, (hnext device statusInvalidParam true hd).1, ok_bind]
      exact (hnext device statusInvalidParam true hd).2
    rw [if_neg hstate, if_neg hstate]
    by_cases hsupported : (!device.profile.supportsCoreConfig configId) = true
    · rw [if_pos hsupported, if_pos hsupported, (hnext device statusInvalidParam true hd).1,
        ok_bind]
      exact (hnext device statusInvalidParam true hd).2
    rw [if_neg hsupported, if_neg hsupported]
    have hvalue : Span.Inside ⟨request,offset+2,valueLen.toNat⟩ := Nat.le_of_not_lt hinside
    rw [device_store_config_eq hd configId hvalue, ok_bind]
    have hcontent : Span.content ⟨request,offset+2,valueLen.toNat⟩ =
        (request.drop (offset+1+1)).take valueLen.toNat := rfl
    rw [hcontent]
    cases hstore : device.storeConfig configId
        ((request.drop (offset+1+1)).take valueLen.toNat) with
    | none =>
      dsimp only
      rw [(hnext device statusFailed true hd).1, ok_bind]
      exact (hnext device statusFailed true hd).2
    | some device' =>
      have hd' := hd.store_config hstore
      dsimp only
      rw [(hnext device' statusOk anyFailed hd').1, ok_bind]
      exact (hnext device' statusOk anyFailed hd').2

theorem core_set_config_sound (h : x.device.InArrays) (request : Packet) :
    Sound (handleCoreSetConfig x request) (x.handleCoreSetConfig request) := by
  unfold handleCoreSetConfig Exchange.handleCoreSetConfig
  rcases hpayload : request.payload with _ | ⟨count,rest⟩
  · exact fail_sound h request _
  have hcount : read (count::rest) 0 = .ok count := rfl
  rcases core_set_configs_eq (count::rest) [statusOk,0] rfl count.toNat 1 (by simp) x.device h
    [] 0 rfl (by decide) false with
    ⟨device,items,processed,anyFailed,hd,hp,hroom,hmodel,hchecked⟩
  have hhalf : items.length/2 = processed := by omega
  rw [List.append_nil] at hchecked
  rw [if_neg (by simp), hcount, ok_bind, hchecked, ok_bind]
  rw [show (count::rest).drop 1 = rest from rfl] at hmodel
  dsimp only
  rw [hmodel]
  dsimp only
  rw [hhalf, Buffer.holding_put _ (by simp) (by simp; omega), ok_bind,
    Buffer.holding_put _ (by simp) (by simp; omega), ok_bind]
  refine ⟨?_,hd⟩
  have htake : ∀ (first second : UInt8),
      ((holding (([statusOk,0] ++ items).set 0 first |>.set 1 second)).cells.take
        (2+processed*2)) = [first,second] ++ items := by
    intro first second
    have hlen : 2+processed*2 = ([first,second] ++ items).length := by
      simp only [List.length_append, List.length_cons, List.length_nil, hp]
    rw [hlen]
    show (holding ([first,second] ++ items)).filled = _
    rw [Buffer.holding_filled]
  rw [htake]
  rfl

/-- The walk over the identifiers of a get request keeps the response in step. -/
theorem collect_configs_eq {lookup : UInt8 → Option (List UInt8)}
    {checkedLookup : UInt8 → Checked (Option (List UInt8))}
    (hl : ∀ configId, checkedLookup configId = .ok (lookup configId))
    (request head : List UInt8) (hh : head.length = 2) (remaining offset : ℕ)
    (items : List UInt8) (hroom : 2+items.length ≤ maxPayload) (processed : ℕ) :
    ∃ status items' processed', 2+items'.length ≤ maxPayload ∧
      UciSim.collectConfigs lookup remaining (request.drop offset) items processed =
        (status,items',processed') ∧
      collectConfigs checkedLookup request remaining offset (holding (head ++ items)) processed =
        .ok (status,holding (head ++ items'),processed') := by
  induction remaining generalizing offset items processed with
  | zero => exact ⟨_,items,processed,hroom,rfl,rfl⟩
  | succ remaining ih =>
    by_cases hend : offset ≥ request.length
    · rw [List.drop_eq_nil_of_le hend, collectConfigs, if_pos hend]
      exact ⟨_,items,processed,hroom,rfl,rfl⟩
    rcases drop_cons (Nat.lt_of_not_le hend) with ⟨configId,hid⟩
    rw [collectConfigs, if_neg hend, read_drop hid, ok_bind, hl, ok_bind, hid,
      UciSim.collectConfigs]
    cases hlookup : lookup configId with
    | none => exact ⟨_,items,processed,hroom,rfl,rfl⟩
    | some value =>
      dsimp only
      rw [Buffer.holding_cursor, List.length_append, hh]
      by_cases hfull : 2+items.length+2+value.length > maxPayload
      · rw [if_pos hfull, if_pos hfull]
        exact ⟨_,items,processed,hroom,rfl,rfl⟩
      have hlen : ∀ n : UInt8, (items ++ [configId,n]).length = items.length+2 :=
        fun n => List.length_append
      rw [if_neg hfull, if_neg hfull,
        pushAll_behind _ (by rw [hh, List.length_cons, List.length_singleton]; omega), ok_bind,
        pushAll_behind _ (by rw [hh, hlen]; omega), ok_bind]
      exact ih _ _ (by rw [List.length_append, hlen]; omega) _

theorem answer_collected_sound (h : x.device.InArrays) (gid oid status : UInt8)
    {items : List UInt8} (hroom : 2+items.length ≤ maxPayload) (processed : ℕ) :
    Sound (answerCollected x gid oid status (holding ([statusOk,0] ++ items)) processed)
      (rcOf status,x.respond gid oid ([status,UInt8.ofNat processed] ++ items)) := by
  have hlen : ([statusOk,0] ++ items).length ≤ maxPayload := by
    rw [List.length_append]
    exact hroom
  refine ⟨?_,h⟩
  rw [answerCollected, Buffer.holding_put _ (by simp) hlen, ok_bind,
    Buffer.holding_put _ (by simp) (by rw [List.length_set]; exact hlen), ok_bind,
    Buffer.holding_filled]
  rfl

theorem core_get_config_sound (h : x.device.InArrays) (request : Packet) :
    Sound (handleCoreGetConfig x request) (x.handleCoreGetConfig request) := by
  unfold handleCoreGetConfig Exchange.handleCoreGetConfig
  rcases hpayload : request.payload with _ | ⟨count,rest⟩
  · exact fail_sound h request _
  have hcount : read (count::rest) 0 = .ok count := rfl
  have hlookup : ∀ configId, (if x.device.profile.supportsCoreConfig configId then
      deviceGetConfig x.device configId else .ok none) = (Except.ok
        (if x.device.profile.supportsCoreConfig configId then x.device.getConfig configId
          else none) : Checked _) := by
    intro configId
    rw [device_get_config_eq h]
    split <;> rfl
  rcases collect_configs_eq hlookup (count::rest) [statusOk,0] rfl count.toNat 1 []
    (by decide) 0 with ⟨status,items,processed,hroom,hmodel,hchecked⟩
  rw [List.append_nil] at hchecked
  rw [if_neg (by simp), hcount, ok_bind]
  dsimp only
  rw [hchecked, ok_bind]
  rw [show (count::rest).drop 1 = rest from rfl] at hmodel
  rw [hmodel]
  exact answer_collected_sound h _ _ _ hroom _

theorem device_reset_sound (h : x.device.InArrays) (request : Packet) :
    Sound (handleDeviceReset x request) (x.handleDeviceReset request) := by
  refine sound_ite _ (fun _ => fail_sound h request _) fun hlen => ?_
  rw [read_byte (by omega), ok_bind]
  refine sound_ite _ (fun _ => fail_sound h request _) fun _ => ?_
  dsimp only
  rw [respond_eq _ _ _ (by exact show 1 ≤ maxPayload by decide), ok_bind,
    emit_eq _ (by exact show 1 ≤ maxPayload by decide), ok_bind]
  exact ⟨rfl,Exchange.emit_in_arrays (Device.InArrays.reset x.device) _⟩

theorem device_info_sound (h : x.device.InArrays) :
    Sound (handleDeviceInfo x) x.handleDeviceInfo := by
  have hvendor : (x.device.profile.vendorSpecificData.take
      (controlPayloadLimit-deviceInfoFixedLen)).length ≤ 245 := List.length_take_le _ _
  refine answer_sound h .ok _ _ ?_
  simp only [List.length_cons, List.length_append, writeU16Le, List.length_nil]
  have hsize : maxPayload = 1024 := rfl
  omega

theorem query_uwbs_timestamp_sound (h : x.device.InArrays) (request : Packet) :
    Sound (handleQueryUwbsTimestamp x request) (x.handleQueryUwbsTimestamp request) := by
  refine sound_ite _ (fun _ => fail_sound h request _) fun _ => ?_
  dsimp only
  rw [respond_eq _ _ _ (by exact show 9 ≤ maxPayload by decide), ok_bind]
  exact ⟨rfl,h.congr rfl rfl rfl rfl⟩

theorem core_sound (h : x.device.InArrays)
    (hcaps : x.device.profile.coreCapsPayload.length ≤ maxPayload) (request : Packet) :
    Sound (handleCore x request) (x.handleCore request) := by
  unfold handleCore Exchange.handleCore
  refine sound_ite _ (fun _ => fail_sound h request _) fun _ => ?_
  refine sound_ite _ (fun _ => device_reset_sound h request) fun _ => ?_
  refine sound_ite _ (fun _ => device_info_sound h) fun _ => ?_
  refine sound_ite _ (fun _ => ?_) fun _ => ?_
  · exact sound_ite _ (fun _ => fail_sound h request _) fun _ => answer_sound h .ok _ _ hcaps
  refine sound_ite _ (fun _ => core_set_config_sound h request) fun _ => ?_
  refine sound_ite _ (fun _ => core_get_config_sound h request) fun _ => ?_
  exact sound_ite _ (fun _ => query_uwbs_timestamp_sound h request) fun _ =>
    fail_sound h request _

end UciSim.Memory
