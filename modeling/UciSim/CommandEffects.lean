import UciSim.Changes
import UciSim.Dispatch

/-!
# Every command is one change

Each handler is traced once. Its outcome is the changed device with the
response and the notifications of one `Change` posted to it. The core and the
vendor commands come first.
-/

set_option autoImplicit false

namespace UciSim

namespace Exchange

/-- The device, a response, and notifications posted in order. -/
def answered (d : Device) (response : Packet) (ns : List Packet) : Exchange :=
  Exchange.emitAll ⟨d,⟨some response,none⟩,[]⟩ ns

theorem answered_append (d : Device) (response : Packet) (ns : List Packet) (n : Packet) :
    (answered d response ns).emit n = answered d response (ns ++ [n]) := by
  simp [answered, emitAll]

theorem answered_response (d : Device) (response : Packet) (ns : List Packet) :
    (answered d response ns).result.response = some response := by
  rw [answered, emitAll_mail]
  rfl

end Exchange

open Exchange

def Answers (d : Device) (request : Packet) (x : Exchange) : Prop :=
  ∃ response ns d', x = answered d' response ns ∧ response.mt = mtResponse ∧
    Change d request ns d'

theorem answers_fail (d : Device) (request : Packet) (status : UInt8) :
    Answers d request ((start d).fail request status).2 :=
  ⟨_,[],d,rfl,rfl,.housekept d (.refl d)⟩

theorem answers_respond (d d' : Device) (request : Packet) (gid oid : UInt8)
    (payload : List UInt8) (h : Change d request [] d') :
    Answers d request ({ start d with device := d' }.respond gid oid payload) :=
  ⟨_,[],d',rfl,rfl,h⟩

theorem answers_same (d : Device) (request : Packet) (gid oid : UInt8)
    (payload : List UInt8) : Answers d request ((start d).respond gid oid payload) :=
  answers_respond d d request gid oid payload (.housekept d (.refl d))

theorem answers_emit (d d' : Device) (request : Packet) (gid oid : UInt8)
    (payload : List UInt8) (n : Packet) (h : Change d request [n] d') :
    Answers d request (({ start d with device := d' }.respond gid oid payload).emit n) :=
  ⟨_,[n],d',rfl,rfl,h⟩

theorem qorvo_ext2_answers (d : Device) (request : Packet) :
    Answers d request ((start d).handleQorvoExt2 request).2 := by
  unfold handleQorvoExt2
  by_cases h : request.oid = oidQorvoCoreGetDeviceStats
  · rw [if_pos h]
    exact answers_same d request _ _ _
  · rw [if_neg h]
    exact answers_fail d request _

theorem qorvo_mac_answers (d : Device) (request : Packet) :
    Answers d request ((start d).handleQorvoMac request).2 := by
  unfold handleQorvoMac
  split
  · split
    · exact answers_same d request _ _ _
    · dsimp only
      split
      · exact answers_same d request _ _ _
      · exact answers_same d request _ _ _
  · split
    · exact answers_same d request _ _ _
    · exact answers_fail d request _

theorem store_config_same_control (d d' : Device) (configId : UInt8) (value : List UInt8)
    (h : d.storeConfig configId value = some d') : d.SameControl d' := by
  obtain ⟨-,configs,-,rfl⟩ := Device.store_config_some h
  exact ⟨rfl,rfl,rfl,rfl,rfl,rfl⟩

theorem Device.SameControl.trans {d d' d'' : Device} (h : d.SameControl d')
    (h' : d'.SameControl d'') : d.SameControl d'' where
  profile := h'.profile.trans h.profile
  scenario := h'.scenario.trans h.scenario
  sessions := h'.sessions.trans h.sessions
  events := h'.events.trans h.events
  pending := h'.pending.trans h.pending
  sequence := h'.sequence.trans h.sequence

theorem core_set_configs_same_control (count : ℕ) (rest : List UInt8) (d : Device)
    (items : List UInt8) (failed : Bool) :
    d.SameControl (coreSetConfigs count rest d items failed).1 := by
  induction count generalizing rest d items failed with
  | zero => exact .refl d
  | succ count ih =>
    match rest with
    | [] => exact .refl d
    | [_] => exact .refl d
    | configId::valueLen::rest =>
      unfold coreSetConfigs
      dsimp only
      split
      · exact .refl d
      · split
        · exact ih _ _ _ _
        · split
          · exact ih _ _ _ _
          · split
            · exact ih _ _ _ _
            · rename_i d' hstore
              exact (store_config_same_control d d' _ _ hstore).trans (ih _ _ _ _)

theorem core_set_config_answers (d : Device) (request : Packet) :
    Answers d request ((start d).handleCoreSetConfig request).2 := by
  unfold handleCoreSetConfig
  split
  · exact answers_fail d request _
  · exact answers_respond d _ request _ _ _
      (.housekept _ (core_set_configs_same_control _ _ d _ _))

theorem core_get_config_answers (d : Device) (request : Packet) :
    Answers d request ((start d).handleCoreGetConfig request).2 := by
  unfold handleCoreGetConfig
  split
  · exact answers_fail d request _
  · exact answers_same d request _ _ _

theorem device_reset_answers (d : Device) (request : Packet) (hgid : request.gid = gidCore)
    (hoid : request.oid = coreDeviceReset) :
    Answers d request ((start d).handleDeviceReset request).2 := by
  unfold handleDeviceReset
  split
  · exact answers_fail d request _
  · rename_i hlen
    split
    · exact answers_fail d request _
    · rename_i hvalue
      have hp : request.payload = [coreDeviceResetConfigValid] := by
        obtain ⟨b,hb⟩ := List.length_eq_one_iff.mp (not_not.mp hlen)
        rw [hb]
        simpa [byteAt, hb] using hvalue
      exact answers_emit d _ request _ _ _ _ (.reset ⟨hgid,hoid⟩ hp)

theorem query_uwbs_timestamp_answers (d : Device) (request : Packet) :
    Answers d request ((start d).handleQueryUwbsTimestamp request).2 := by
  unfold handleQueryUwbsTimestamp
  split
  · exact answers_fail d request _
  · exact answers_respond d _ request _ _ _ (.housekept _ ⟨rfl,rfl,rfl,rfl,rfl,rfl⟩)

theorem core_answers (d : Device) (request : Packet) (hgid : request.gid = gidCore) :
    Answers d request ((start d).handleCore request).2 := by
  refine (core_dispatch d.profile request).outcome (P := fun o => Answers d request o.2)
    (x := start d) rfl (answers_fail d request _) ?_
  intro handler listed _
  cases listed with
  | deviceReset opcode => exact device_reset_answers d request hgid opcode
  | deviceInfo => exact answers_same d request _ _ _
  | getCaps =>
    dsimp only
    split
    · exact answers_fail d request _
    · exact answers_same d request _ _ _
  | setConfig => exact core_set_config_answers d request
  | getConfig => exact core_get_config_answers d request
  | queryTimestamp => exact query_uwbs_timestamp_answers d request

end UciSim
