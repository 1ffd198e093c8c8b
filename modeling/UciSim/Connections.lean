import UciSim.Transmission

/-!
# Writing to a connection

Both transports write a serialized packet with as many calls as the connection
needs. `takes` gives how many bytes each call takes, none when the call fails. A
call that is interrupted, or that would block the TCP transport, is made again and
does not count.
-/

set_option autoImplicit false

namespace UciSim

/-- The bytes written so far, and the calls made for them. -/
structure Connection where
  written : List UInt8
  calls : ℕ

namespace Connection

variable (takes : ℕ → ℕ)

def writeLoop : ℕ → List UInt8 → Connection → Rc × Connection
  | 0, _, conn => (.err,conn)
  | turns+1, wire, conn =>
    if 0 < wire.length then
      let n := min (takes conn.calls) wire.length
      if n = 0 then (.err,{ conn with calls := conn.calls+1 })
      else writeLoop turns (wire.drop n) ⟨conn.written ++ wire.take n,conn.calls+1⟩
    else (.ok,conn)

/-- The loop of `send_all`, and of `master_flush` for one packet. -/
def sendAll (wire : List UInt8) (conn : Connection) : Rc × Connection :=
  writeLoop takes (wire.length+1) wire conn

def sendFragments (packet : Packet) : ℕ → ℕ → Connection → Rc × Connection
  | 0, _, conn => (.err,conn)
  | turns+1, payloadOffset, conn =>
    if payloadOffset < packet.payload.length then
      let frag := fragment packet payloadOffset
      match packetSerialize frag maxPacket with
      | none => (.err,conn)
      | some wire =>
        match conn.sendAll takes wire with
        | (.err,conn) => (.err,conn)
        | (.ok,conn) => sendFragments packet turns (payloadOffset+frag.payload.length) conn
    else (.ok,conn)

def sendPacket (packet : Packet) (conn : Connection) : Rc × Connection :=
  match packetSerialize packet maxPacket with
  | none => (.err,conn)
  | some wire => conn.sendAll takes wire

def sendToClient (packet : Packet) (conn : Connection) : Rc × Connection :=
  if packet.mt ≠ mtData ∧ packet.payload.length > 255 then
    conn.sendFragments takes packet (packet.payload.length+1) 0
  else conn.sendPacket takes packet

end Connection

/-- All the bytes are written, or a part at their front when a call fails. -/
inductive Wrote (conn : Connection) (bytes : List UInt8) : Rc × Connection → Prop where
  | all (calls : ℕ) : Wrote conn bytes (.ok,⟨conn.written ++ bytes,calls⟩)
  | part (front : List UInt8) (calls : ℕ) (h : front <+: bytes) :
      Wrote conn bytes (.err,⟨conn.written ++ front,calls⟩)

namespace Wrote

variable {conn conn' : Connection} {bytes more : List UInt8} {rc : Rc} {out : Rc × Connection}

theorem written (h : Wrote conn bytes (.ok,conn')) :
    conn'.written = conn.written ++ bytes := by
  cases h
  rfl

theorem written_prefix (h : Wrote conn bytes (rc,conn')) :
    conn'.written <+: conn.written ++ bytes := by
  cases h with
  | all => exact List.prefix_rfl
  | part front calls h => exact (List.prefix_append_right_inj _).mpr h

/-- What is written after a first part that did not fail. -/
theorem append (h : Wrote conn bytes (.ok,conn')) (h' : Wrote conn' more out) :
    Wrote conn (bytes ++ more) out := by
  have hwritten := h.written
  cases h' with
  | all calls =>
    rw [hwritten, List.append_assoc]
    exact .all calls
  | part front calls h =>
    rw [hwritten, List.append_assoc]
    exact .part _ calls ((List.prefix_append_right_inj _).mpr h)

theorem done (conn : Connection) : Wrote conn [] (.ok,conn) := by
  have hall : Wrote conn [] (.ok,⟨conn.written ++ [],conn.calls⟩) := .all _
  rwa [List.append_nil] at hall

theorem failed (h : Wrote conn bytes (.err,conn')) (more : List UInt8) :
    Wrote conn (bytes ++ more) (.err,conn') := by
  cases h with
  | part front calls h => exact .part front calls (h.trans (List.prefix_append _ _))

end Wrote

namespace Connection

variable (takes : ℕ → ℕ)

theorem write_loop_wrote (turns : ℕ) (wire : List UInt8) (conn : Connection)
    (h : wire.length < turns) : Wrote conn wire (writeLoop takes turns wire conn) := by
  induction turns generalizing wire conn with
  | zero => omega
  | succ turns ih =>
    rw [writeLoop]
    by_cases hwire : 0 < wire.length
    · rw [if_pos hwire]
      dsimp only
      generalize hn : min (takes conn.calls) wire.length = n
      by_cases hzero : n = 0
      · rw [if_pos hzero]
        have hnone : Wrote conn wire (.err,⟨conn.written ++ [],conn.calls+1⟩) :=
          .part [] _ List.nil_prefix
        rwa [List.append_nil] at hnone
      · rw [if_neg hzero]
        have hrest := ih (wire.drop n) ⟨conn.written ++ wire.take n,conn.calls+1⟩
          (by rw [List.length_drop]; omega)
        have hfirst : Wrote conn (wire.take n)
            (.ok,⟨conn.written ++ wire.take n,conn.calls+1⟩) := .all _
        have hall := hfirst.append hrest
        rwa [List.take_append_drop] at hall
    · rw [if_neg hwire, List.length_eq_zero_iff.mp (Nat.eq_zero_of_not_pos hwire)]
      exact Wrote.done conn

theorem send_all_wrote (wire : List UInt8) (conn : Connection) :
    Wrote conn wire (conn.sendAll takes wire) :=
  write_loop_wrote takes _ wire conn (Nat.lt_succ_self _)

theorem send_fragments_wrote (packet : Packet) (turns payloadOffset : ℕ) (conn : Connection)
    {bytes : List UInt8} (h : UciSim.sendFragments packet turns payloadOffset = some bytes) :
    Wrote conn bytes (conn.sendFragments takes packet turns payloadOffset) := by
  induction turns generalizing payloadOffset conn bytes with
  | zero => cases h
  | succ turns ih =>
    rw [UciSim.sendFragments] at h
    rw [sendFragments]
    by_cases hmore : payloadOffset < packet.payload.length
    · rw [if_pos hmore] at h ⊢
      dsimp only at h ⊢
      rcases fragment_serialized packet payloadOffset with ⟨wire,hwire⟩
      rw [hwire] at h ⊢
      simp only [Option.bind_eq_bind, Option.bind_some] at h
      rcases Option.bind_eq_some_iff.mp h with ⟨more,hsent,hbytes⟩
      cases hbytes
      have hwrote := send_all_wrote takes wire conn
      dsimp only
      generalize conn.sendAll takes wire = sent at hwrote ⊢
      rcases sent with ⟨rc,conn'⟩
      cases rc with
      | err => exact hwrote.failed more
      | ok => exact hwrote.append (ih _ conn' hsent)
    · rw [if_neg hmore] at h ⊢
      cases h
      exact Wrote.done conn

theorem send_packet_wrote {packet : Packet} (conn : Connection) {bytes : List UInt8}
    (h : packetSerialize packet maxPacket = some bytes) :
    Wrote conn bytes (conn.sendPacket takes packet) := by
  rw [sendPacket, h]
  exact send_all_wrote takes bytes conn

theorem send_to_client_wrote {packet : Packet} (conn : Connection) {bytes : List UInt8}
    (h : UciSim.sendToClient packet = some bytes) :
    Wrote conn bytes (conn.sendToClient takes packet) := by
  rw [UciSim.sendToClient] at h
  rw [sendToClient]
  split at h
  · rw [if_pos ‹_›]
    exact send_fragments_wrote takes packet _ 0 conn h
  · rw [if_neg ‹_›]
    exact send_packet_wrote takes conn h

end Connection

end UciSim
