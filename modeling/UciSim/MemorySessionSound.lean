import UciSim.MemoryCoreSound
import UciSim.MemorySession

/-!
# Session configuration stays in its arrays

The walks over entries, rounds and parameters follow the recursions of the
model, and whatever they store has the length of an array of the session.
-/

set_option autoImplicit false

namespace UciSim.Memory

open Arrays

variable {x : Exchange}

theorem store_defaults_eq {session : Session} (h : session.InArrays)
    (defaults : List (UInt8 × List UInt8)) :
    storeDefaults session defaults = .ok (session.storeDefaults defaults) := by
  induction defaults generalizing session with
  | nil => rfl
  | cons entry defaults ih =>
    rcases entry with ⟨configId,value⟩
    have hinside : Span.Inside (⟨value,0,value.length⟩ : Span UInt8) := by
      rw [Span.Inside, Nat.zero_add]
    have hcontent : Span.content (⟨value,0,value.length⟩ : Span UInt8) = value :=
      List.take_length
    rw [storeDefaults, session_store_config_eq h configId hinside, ok_bind, hcontent]
    refine ih ?_
    cases hstore : session.storeConfig configId value with
    | none => exact h
    | some session' => exact h.stored hstore

theorem alloc_session_eq {d : Device} (h : d.InArrays) (sessionId : UInt32) :
    allocSession d sessionId = .ok (d.allocSession sessionId) := by
  unfold allocSession Device.allocSession
  cases hfree : d.freeSession with
  | none => rfl
  | some i =>
    dsimp only
    rw [store_defaults_eq (by exact (h.sessions i).congr rfl rfl rfl rfl rfl rfl)]
    rfl

theorem emit_status_eq (x : Exchange) (sessionId : UInt32) (state : UInt8) :
    emitSessionStatusNtf x sessionId state = .ok (x.emitSessionStatusNtf sessionId state) :=
  emit_eq x (show 6 ≤ maxPayload by decide)

theorem session_init_sound (h : x.device.InArrays) (request : Packet) :
    Sound (handleSessionInit x request) (x.handleSessionInit request) := by
  refine sound_ite _ (fun _ => fail_sound h request _) fun hlong => ?_
  rw [read_u32_eq (by omega), ok_bind, read_byte (by omega), ok_bind]
  refine sound_ite _ (fun _ => fail_sound h request _) fun _ => ?_
  have hreply : ∀ (i : Fin maxSessions) (device : Device), device.InArrays → Sound
      (do
        let x ← respond { x with device := device } gidSessionConfig sessionInit
          (statusOk::writeU32Le (UciSim.readU32Le request.payload 0))
        let x ← emitSessionStatusNtf x (UciSim.readU32Le request.payload 0)
          (device.sessions i).state
        return (.ok,x))
      (.ok,({ x with device := device }.respond gidSessionConfig sessionInit
        (statusOk::writeU32Le (UciSim.readU32Le request.payload 0))).emitSessionStatusNtf
          (UciSim.readU32Le request.payload 0) (device.sessions i).state) := by
    intro i device hd
    rw [respond_eq _ _ _ (by exact show 5 ≤ maxPayload by decide), ok_bind, emit_status_eq,
      ok_bind]
    exact ⟨rfl,Exchange.emit_in_arrays hd _⟩
  cases hfound : x.device.findSession (UciSim.readU32Le request.payload 0) with
  | some i => exact hreply i x.device h
  | none =>
    dsimp only
    rw [alloc_session_eq h, ok_bind]
    cases halloc : x.device.allocSession (UciSim.readU32Le request.payload 0) with
    | none => exact fail_sound h request _
    | some found => exact hreply found.1 found.2 (h.alloc_session halloc)

theorem session_deinit_sound (h : x.device.InArrays) (request : Packet) :
    Sound (handleSessionDeinit x request) (x.handleSessionDeinit request) := by
  refine sound_ite _ (fun _ => fail_sound h request _) fun hlong => ?_
  rw [read_u32_eq (by omega), ok_bind]
  dsimp only
  cases hfound : x.device.findSession (UciSim.readU32Le request.payload 0) with
  | none => exact fail_sound h request _
  | some i =>
    dsimp only
    rw [respond_eq _ _ _ (by exact show 1 ≤ maxPayload by decide), ok_bind, emit_status_eq,
      ok_bind]
    refine ⟨rfl,Device.InArrays.set_session ?_ i .zero⟩
    exact Exchange.emit_in_arrays (x := x.makeStatusResponse request statusOk) h _

theorem session_get_count_sound (h : x.device.InArrays) :
    Sound (handleSessionGetCount x) x.handleSessionGetCount :=
  answer_sound h .ok _ _ (show 2 ≤ maxPayload by decide)

theorem query_data_size_sound (h : x.device.InArrays) (request : Packet) :
    Sound (handleQueryDataSizeInRanging x request) (x.handleQueryDataSizeInRanging request) := by
  have hfailed : Sound
      (answer .err x gidSessionConfig sessionQueryDataSizeInRanging [statusInvalidParam,0x00,0x00])
      (.err,x.respond gidSessionConfig sessionQueryDataSizeInRanging
        [statusInvalidParam,0x00,0x00]) := answer_sound h .err _ _ (by decide)
  refine sound_ite _ (fun _ => hfailed) fun hlong => ?_
  rw [read_u32_eq (by omega), ok_bind]
  cases hfound : x.device.findSession (UciSim.readU32Le request.payload 0) with
  | none => exact hfailed
  | some i => exact answer_sound h .ok _ _ (show 3 ≤ maxPayload by decide)

theorem session_get_state_sound (h : x.device.InArrays) (request : Packet) :
    Sound (handleSessionGetState x request) (x.handleSessionGetState request) := by
  refine sound_ite _ (fun _ => fail_sound h request _) fun hlong => ?_
  rw [read_u32_eq (by omega), ok_bind]
  cases hfound : x.device.findSession (UciSim.readU32Le request.payload 0) with
  | none => exact fail_sound h request _
  | some i => exact answer_sound h .ok _ _ (show 2 ≤ maxPayload by decide)

/-- Both keys are the same bytes, and both walks go on behind them. -/
theorem multicast_key_eq (action : UInt8) {request : List UInt8} {offset : ℕ}
    (ho : offset ≤ request.length) :
    (Session.multicastKey action (request.drop offset) = none ∧
      multicastKey action request offset = none) ∨
    ∃ key offset', Span.Inside key ∧ offset' ≤ request.length ∧
      Session.multicastKey action (request.drop offset) =
        some (key.content,request.drop offset') ∧
      multicastKey action request offset = some (key,offset') := by
  unfold multicastKey Session.multicastKey
  dsimp only
  rw [List.length_drop, List.drop_drop]
  by_cases hkey : offset+Session.multicastKeyLen action ≤ request.length
  · rw [if_pos hkey, if_pos (by omega)]
    exact Or.inr ⟨⟨request,offset,_⟩,_,hkey,hkey,rfl,rfl⟩
  rw [if_neg hkey, if_neg (by omega)]
  by_cases hend : offset ≠ request.length
  · rw [if_pos hend, if_pos (by omega)]
    exact Or.inl ⟨rfl,rfl⟩
  · rw [if_neg hend, if_neg (by omega)]
    rw [not_not] at hend
    refine Or.inr ⟨⟨request,offset,0⟩,offset,ho,ho,?_,rfl⟩
    rw [hend, List.drop_length]
    rfl

/-- The walk over the entries keeps the session in its arrays and the response in step. -/
theorem update_multicast_list_checked (request head : List UInt8) (hh : head.length = 2)
    (action : UInt8) (remaining offset : ℕ) (ho : offset ≤ request.length) (session : Session)
    (hs : session.InArrays) (items : List UInt8) (processed : ℕ)
    (hp : items.length = processed*7) (hroom : 2+items.length ≤ maxPayload) (overall : UInt8) :
    ∃ overall' items' processed' session', session'.InArrays ∧
      items'.length = processed'*7 ∧ 2+items'.length ≤ maxPayload ∧
      session.updateMulticastList action remaining (request.drop offset) items overall =
        (overall',items',session') ∧
      updateMulticastList request action remaining offset session (holding (head ++ items))
        processed overall = .ok (overall',holding (head ++ items'),processed',session') := by
  induction remaining generalizing offset session items processed overall with
  | zero => exact ⟨overall,items,processed,session,hs,hp,hroom,rfl,rfl⟩
  | succ remaining ih =>
    rw [updateMulticastList, Session.updateMulticastList, Buffer.holding_cursor,
      List.length_append, hh, List.length_drop]
    by_cases hstop : offset+6 > request.length ∨ 2+items.length+7 > maxPayload
    · rw [if_pos hstop, if_pos (by omega)]
      exact ⟨_,items,processed,session,hs,hp,hroom,rfl,rfl⟩
    rw [if_neg hstop, if_neg (by omega)]
    rcases not_or.mp hstop with ⟨hinside,hfits⟩
    have hshort : UciSim.readU16Le (request.drop offset) 0 = UciSim.readU16Le request offset := by
      simp [UciSim.readU16Le, byteAt, List.getD_eq_getElem?_getD]
    have hsub : UciSim.readU32Le (request.drop offset) 2 =
        UciSim.readU32Le request (offset+2) := by
      simp [UciSim.readU32Le, byteAt, List.getD_eq_getElem?_getD, Nat.add_assoc]
    rw [read_u16_eq (by omega), ok_bind, read_u32_eq (by omega), ok_bind]
    dsimp only
    rw [hshort, hsub, List.drop_drop]
    rcases multicast_key_eq action (show offset+6 ≤ request.length by omega) with
      ⟨hmodel,hchecked⟩ | ⟨key,offset',hkey,ho',hmodel,hchecked⟩
    · rw [hmodel, hchecked]
      exact ⟨_,items,processed,session,hs,hp,hroom,rfl,rfl⟩
    rw [hmodel, hchecked]
    dsimp only
    -- The entry is written with whatever status the session gave it.
    have hnext : ∀ entry : UInt8 × Session, entry.2.InArrays →
        ∃ overall' items' processed' session', session'.InArrays ∧
          items'.length = processed'*7 ∧ 2+items'.length ≤ maxPayload ∧
          entry.2.updateMulticastList action remaining (request.drop offset')
            (items ++ writeU16Le (UciSim.readU16Le request offset) ++
              writeU32Le (UciSim.readU32Le request (offset+2)) ++ [entry.1])
            (if entry.1 ≠ statusOk ∧ overall = statusOk then statusFailed else overall) =
              (overall',items',session') ∧
          (do
            let response ← (holding (head ++ items)).pushAll
              (writeU16Le (UciSim.readU16Le request offset))
            let response ← response.pushAll (writeU32Le (UciSim.readU32Le request (offset+2)))
            let response ← response.push entry.1
            updateMulticastList request action remaining offset' entry.2 response (processed+1)
              (if entry.1 ≠ statusOk ∧ overall = statusOk then statusFailed else overall)) =
            .ok (overall',holding (head ++ items'),processed',session') := by
      intro entry hentry
      have h2 : (writeU16Le (UciSim.readU16Le request offset)).length = 2 := rfl
      have h4 : (writeU32Le (UciSim.readU32Le request (offset+2))).length = 4 := rfl
      rw [pushAll_behind _ (by omega), ok_bind,
        pushAll_behind _ (by rw [List.length_append]; omega), ok_bind,
        push_behind _ (by rw [List.length_append, List.length_append]; omega), ok_bind]
      refine ih offset' ho' entry.2 hentry _ _ ?_ ?_ _
      · simp only [List.length_append, List.length_singleton, h2, h4]
        omega
      · simp only [List.length_append, List.length_singleton, h2, h4]
        omega
    by_cases hr : action = multicastActionRemove
    · simp only [if_pos hr]
      rw [remove_multicast_entry_checked hs, ok_bind]
      exact hnext _ (hs.remove_multicast_entry _ _)
    · simp only [if_neg hr]
      rw [add_multicast_entry_checked hs _ _ hkey, ok_bind]
      exact hnext _ (hs.add_multicast_entry _ _ _)

theorem update_multicast_list_sound (h : x.device.InArrays) (request : Packet) :
    Sound (handleSessionUpdateMulticastList x request)
      (x.handleSessionUpdateMulticastList request) := by
  refine sound_ite _ (fun _ => fail_sound h request _) fun hlong => ?_
  rw [read_u32_eq (by omega), ok_bind, read_byte (by omega), ok_bind, read_byte (by omega),
    ok_bind]
  dsimp only
  cases hfound : x.device.findSession (UciSim.readU32Le request.payload 0) with
  | none => exact fail_sound h request _
  | some i =>
    refine sound_ite _ (fun _ => fail_sound h request _) fun _ => ?_
    rcases update_multicast_list_checked request.payload [statusOk,0] rfl
      (byteAt request.payload 5) (byteAt request.payload 4).toNat 6 (by omega)
      (x.device.sessions i) (h.sessions i) [] 0 rfl (by decide) statusOk with
      ⟨overall,items,processed,session,hs,hp,hroom,hmodel,hchecked⟩
    have hcount : items.length/7 = processed := by omega
    rw [List.append_nil] at hchecked
    rw [hchecked, ok_bind]
    dsimp only
    rw [hmodel]
    dsimp only
    rw [hcount]
    exact answer_collected_sound (x := x.setSession i session) (h.set_session i hs) _ _ _ hroom _

theorem store_counted_eq {value : Span UInt8} (hv : value.Inside) {size : ℕ}
    (hsize : value.length ≤ size) : storeCounted value size = .ok value.content := by
  rw [storeCounted, Span.copyTo_inside hv hsize, ok_bind, touch_inside (by omega)]
  rfl

theorem data_transfer_phase_config_sound (h : x.device.InArrays) (request : Packet) :
    Sound (handleSessionDataTransferPhaseConfig x request)
      (x.handleSessionDataTransferPhaseConfig request) := by
  refine sound_ite _ (fun _ => fail_sound h request _) fun hlong => ?_
  rw [read_u32_eq (by omega), ok_bind]
  cases hfound : x.device.findSession (UciSim.readU32Le request.payload 0) with
  | none => exact fail_sound h request _
  | some i =>
    dsimp only
    rw [read_byte (by omega), ok_bind]
    refine sound_ite _ (fun _ => fail_sound h request _) fun hfits => ?_
    rcases not_or.mp hfits with ⟨hsize,hlen⟩
    rw [not_not] at hlen
    have hinside : Span.Inside
        ⟨request.payload,7,(UInt8.ofNat (request.payload.length-7)).toNat⟩ := by
      have hlow : (UInt8.ofNat (request.payload.length-7)).toNat ≤ request.payload.length-7 := by
        rw [UInt8.toNat_ofNat']
        exact Nat.mod_le _ _
      show 7+_ ≤ request.payload.length
      exact (Nat.add_le_add_left hlow 7).trans (by omega)
    have hstored : (UInt8.ofNat (request.payload.length-7)).toNat ≤ dtpPayloadSize := by
      rw [hlen]
      exact Nat.le_of_not_lt hsize
    have hcontent := (Span.content_length hinside).le.trans hstored
    rw [read_byte (by omega), ok_bind, read_byte (by omega), ok_bind,
      store_counted_eq hinside hstored, ok_bind]
    refine answer_sound (h.set_session i ?_) .ok _ _ (show 1 ≤ maxPayload by decide)
    exact (h.sessions i).with_dtp hcontent

theorem update_dt_rounds_sound (h : x.device.InArrays) (request : Packet)
    (useAnchorRounds : Bool) :
    Sound (handleSessionUpdateDtRounds x request useAnchorRounds)
      (x.handleSessionUpdateDtRounds request useAnchorRounds) := by
  refine sound_ite _ (fun _ => fail_sound h request _) fun hlong => ?_
  rw [read_u32_eq (by omega), ok_bind, read_byte (by omega), ok_bind]
  refine sound_ite _ (fun _ => fail_sound h request _) fun hfits => ?_
  rcases not_or.mp hfits with ⟨hinside,hcount⟩
  have hspan : Span.Inside ⟨request.payload,5,(byteAt request.payload 4).toNat⟩ :=
    Nat.le_of_not_lt hinside
  have hrounds := Nat.le_of_not_lt hcount
  have hlen := Span.content_length hspan
  cases hfound : x.device.findSession (UciSim.readU32Le request.payload 0) with
  | none => exact fail_sound h request _
  | some i =>
    dsimp only
    rw [store_counted_eq hspan hrounds, ok_bind,
      touch_inside (by rw [Nat.zero_add]; exact hrounds), ok_bind]
    refine answer_sound (h.set_session i ?_) .ok _ _ ?_
    · cases useAnchorRounds with
      | true => exact (h.sessions i).with_anchor_rounds (hlen.le.trans hrounds)
      | false => exact (h.sessions i).with_tag_rounds (hlen.le.trans hrounds)
    · rw [List.length_append, hlen]
      exact (Nat.add_le_add_left hrounds 2).trans (by decide)

theorem judge_app_config_eq {value : Span UInt8} (hv : value.Inside) (profile : Profile)
    (session : Session) (configId : UInt8) :
    judgeAppConfig profile session configId value =
      .ok (if validatedAppConfigs.contains configId then
        UciSim.validateSessionAppConfig profile session configId value.content else .ok ()) := by
  unfold judgeAppConfig
  by_cases hvalidated : validatedAppConfigs.contains configId = true
  · rw [if_pos hvalidated, if_pos hvalidated, validate_session_app_config_eq hv]
    rfl
  · rw [if_neg hvalidated, if_neg hvalidated]

/-- A refusal ends the entry, and the rest of the entry agrees. -/
theorem unless_refused_eq (refusal : Option UInt8) (d : Device)
    {next : Checked (Option UInt8 × Device)} {outcome : Option UInt8 × Device}
    (h : next = .ok outcome) :
    (match refusal with
      | some status => Except.ok (some status,d)
      | none => next) =
      (Except.ok (match refusal with
        | some status => (some status,d)
        | none => outcome) : Checked _) := by
  cases refusal with
  | some status => rfl
  | none => exact h

theorem set_app_config_checked {d : Device} (h : d.InArrays) (i : Fin maxSessions)
    (configId : UInt8) {value : Span UInt8} (hv : value.Inside) :
    setAppConfig d i configId value = .ok (d.setAppConfig i configId value.content) := by
  unfold setAppConfig Device.setAppConfig
  dsimp only
  by_cases hs : (!d.profile.supportsSessionAppConfig configId) = true
  · rw [if_pos hs, if_pos hs]
  rw [if_neg hs, if_neg hs, judge_app_config_eq hv, ok_bind]
  refine unless_refused_eq _ d ?_
  rw [session_store_config_eq (h.sessions i) configId hv, ok_bind]
  cases hstore : (d.sessions i).storeConfig configId value.content with
  | none => rfl
  | some session =>
    have hd' := h.set_session i (((h.sessions i).stored hstore).forget_proximity configId)
    dsimp only
    split
    · rw [reschedule_session_event_eq hd', ok_bind]
      generalize Device.rescheduleSessionEvent _ _ _ _ = moved
      rcases moved with ⟨_ | _,moved⟩ <;> rfl
    · rfl

theorem reconfigured_in_arrays {d d' : Device} {i : Fin maxSessions} (h : d.InArrays)
    (hsteps : Reconfigured i d d') : d'.InArrays := by
  induction hsteps with
  | same => exact h
  | stored d' configId value session before admitted supported stored ih =>
    exact ih.set_session i (((ih.sessions i).stored stored).forget_proximity configId)
  | rescheduled d' delayMs before active streaming ih =>
    exact ih.reschedule_session_event _ _ _

theorem set_app_configs_end (remaining : ℕ) {rest : List UInt8} (h : rest.length < 2)
    (d : Device) (i : Fin maxSessions) :
    Device.setAppConfigs (remaining+1) rest d i = (statusOk,d) := by
  rcases rest with _ | ⟨configId, _ | ⟨valueLen,rest⟩⟩
  · rfl
  · rfl
  · simp only [List.length_cons] at h
    omega

theorem set_app_configs_checked (request : List UInt8) (remaining offset : ℕ) {d : Device}
    (h : d.InArrays) (i : Fin maxSessions) :
    setAppConfigs request remaining offset d i =
      .ok (Device.setAppConfigs remaining (request.drop offset) d i) := by
  induction remaining generalizing offset d with
  | zero => rfl
  | succ remaining ih =>
    by_cases hend : offset+2 > request.length
    · rw [setAppConfigs, if_pos hend, set_app_configs_end _ (by rw [List.length_drop]; omega)]
    rcases drop_cons (show offset < request.length by omega) with ⟨configId,hid⟩
    rcases drop_cons (show offset+1 < request.length by omega) with ⟨valueLen,hlen⟩
    have hrest : (request.drop (offset+1+1)).length = request.length-(offset+2) :=
      List.length_drop
    rw [setAppConfigs, if_neg hend, read_drop hid, ok_bind, read_drop hlen, ok_bind, hid, hlen,
      Device.setAppConfigs]
    dsimp only
    rw [hrest, List.drop_drop]
    by_cases hshort : offset+2+valueLen.toNat > request.length
    · rw [if_pos hshort, if_pos (by omega)]
      rfl
    have hvalue : Span.Inside ⟨request,offset+2,valueLen.toNat⟩ := Nat.le_of_not_lt hshort
    have hcontent : Span.content ⟨request,offset+2,valueLen.toNat⟩ =
        (request.drop (offset+1+1)).take valueLen.toNat := rfl
    rw [if_neg hshort, if_neg (by omega), set_app_config_checked h i configId hvalue, ok_bind,
      hcontent]
    have hd' := reconfigured_in_arrays h (set_app_config_steps d d i configId
      ((request.drop (offset+1+1)).take valueLen.toNat) .same)
    cases hset : d.setAppConfig i configId ((request.drop (offset+1+1)).take valueLen.toNat) with
    | mk status d' =>
      rw [hset] at hd'
      cases status with
      | some status => rfl
      | none => exact ih (offset+2+valueLen.toNat) hd'

theorem set_app_config_sound (h : x.device.InArrays) (request : Packet) :
    Sound (handleSessionSetAppConfig x request) (x.handleSessionSetAppConfig request) := by
  refine sound_ite _ (fun _ => fail_sound h request _) fun hlong => ?_
  rw [read_u32_eq (by omega), ok_bind, read_byte (by omega), ok_bind]
  cases hfound : x.device.findSession (UciSim.readU32Le request.payload 0) with
  | none => exact fail_sound h request _
  | some i =>
    dsimp only
    rw [set_app_configs_checked request.payload _ _ h, ok_bind]
    refine answer_sound (x := { x with device := _ }) ?_ _ _ _ (show 2 ≤ maxPayload by decide)
    exact reconfigured_in_arrays h (set_app_configs_steps _ _ _ _ i .same)

theorem collect_supported_eq {session : Session} (h : session.InArrays) (head : List UInt8)
    (hh : head.length = 2) (configIds items : List UInt8) (hroom : 2+items.length ≤ maxPayload)
    (processed : ℕ) :
    ∃ status items' processed', 2+items'.length ≤ maxPayload ∧
      UciSim.collectSupported session configIds items processed = (status,items',processed') ∧
      collectSupported session configIds (holding (head ++ items)) processed =
        .ok (status,holding (head ++ items'),processed') := by
  induction configIds generalizing items processed with
  | nil => exact ⟨_,items,processed,hroom,rfl,rfl⟩
  | cons configId rest ih =>
    rw [collectSupported, session_get_config_eq h, ok_bind, UciSim.collectSupported]
    cases hget : session.getConfig configId with
    | none => exact ih items hroom processed
    | some value =>
      dsimp only
      rw [Buffer.holding_cursor, List.length_append, hh]
      by_cases hfull : 2+items.length+2+value.length > maxPayload
      · rw [if_pos hfull, if_pos hfull]
        exact ⟨_,items,processed,hroom,rfl,rfl⟩
      have hlen : ∀ n : UInt8, (items ++ [configId,n]).length = items.length+2 :=
        fun n => List.length_append
      rw [if_neg hfull, if_neg hfull,
        pushAll_behind _ (by rw [hh, List.length_cons, List.length_singleton]; omega), ok_bind,
        pushAll_behind _ (by rw [hh, hlen]; omega), ok_bind]
      exact ih _ (by rw [List.length_append, hlen]; omega) _

theorem get_app_config_sound (h : x.device.InArrays) (request : Packet) :
    Sound (handleSessionGetAppConfig x request) (x.handleSessionGetAppConfig request) := by
  refine sound_ite _ (fun _ => fail_sound h request _) fun hlong => ?_
  rw [read_u32_eq (by omega), ok_bind, read_byte (by omega), ok_bind]
  cases hfound : x.device.findSession (UciSim.readU32Le request.payload 0) with
  | none => exact fail_sound h request _
  | some i =>
    have hlookup : ∀ configId, (if x.device.profile.supportsSessionAppConfig configId then
        sessionGetConfig (x.device.sessions i) configId else .ok none) = (Except.ok
          (if x.device.profile.supportsSessionAppConfig configId then
            (x.device.sessions i).getConfig configId else none) : Checked _) := by
      intro configId
      rw [session_get_config_eq (h.sessions i)]
      by_cases hs : x.device.profile.supportsSessionAppConfig configId = true
      · rw [if_pos hs, if_pos hs]
      · rw [if_neg hs, if_neg hs]
    dsimp only
    by_cases hcount : byteAt request.payload 4 = 0
    · rcases collect_supported_eq (h.sessions i) [statusOk,0] rfl
        x.device.profile.supportedSessionAppConfigIds [] (by decide) 0 with
        ⟨status,items,processed,hroom,hmodel,hchecked⟩
      rw [List.append_nil] at hchecked
      rw [if_pos hcount, if_pos hcount, hchecked, hmodel]
      exact answer_collected_sound h _ _ _ hroom _
    · rcases collect_configs_eq hlookup request.payload [statusOk,0] rfl
        (byteAt request.payload 4).toNat 5 [] (by decide) 0 with
        ⟨status,items,processed,hroom,hmodel,hchecked⟩
      rw [List.append_nil] at hchecked
      rw [if_neg hcount, if_neg hcount, hchecked, hmodel]
      exact answer_collected_sound h _ _ _ hroom _

theorem session_config_sound (h : x.device.InArrays) (request : Packet) :
    Sound (handleSessionConfig x request) (x.handleSessionConfig request) := by
  unfold handleSessionConfig Exchange.handleSessionConfig
  refine sound_ite _ (fun _ => fail_sound h request _) fun _ => ?_
  refine sound_ite _ (fun _ => session_init_sound h request) fun _ => ?_
  refine sound_ite _ (fun _ => session_deinit_sound h request) fun _ => ?_
  refine sound_ite _ (fun _ => set_app_config_sound h request) fun _ => ?_
  refine sound_ite _ (fun _ => get_app_config_sound h request) fun _ => ?_
  refine sound_ite _ (fun _ => session_get_count_sound h) fun _ => ?_
  refine sound_ite _ (fun _ => query_data_size_sound h request) fun _ => ?_
  refine sound_ite _ (fun _ => session_get_state_sound h request) fun _ => ?_
  refine sound_ite _ (fun _ => update_multicast_list_sound h request) fun _ => ?_
  refine sound_ite _ (fun _ => update_dt_rounds_sound h request true) fun _ => ?_
  refine sound_ite _ (fun _ => update_dt_rounds_sound h request false) fun _ => ?_
  exact sound_ite _ (fun _ => data_transfer_phase_config_sound h request) fun _ =>
    fail_sound h request _

end UciSim.Memory
