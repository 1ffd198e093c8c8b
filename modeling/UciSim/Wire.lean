import UciSim.Packet
import UciSim.General.Framing

/-!
# Packets in a byte stream

The header of a packet gives its length, so a byte stream is cut into packets.
The readers of the stream differ only in the length they accept.
-/

set_option autoImplicit false

namespace UciSim

open Framing

def headerLength (bytes : List UInt8) : ℕ :=
  payloadLengthFromHeader ((byteAt bytes 0 >>> 5) &&& 0x03) (byteAt bytes 2) (byteAt bytes 3)

def wireFront (limit : ℕ) (bytes : List UInt8) : Front :=
  if bytes.length < headerSize then .short
  else if headerLength bytes > limit then .invalid
  else if bytes.length < headerSize+headerLength bytes then .short
  else .complete (headerSize+headerLength bytes)

/-- The packet whose header and payload start the bytes. -/
def packetOf (bytes : List UInt8) : Packet where
  mt := (byteAt bytes 0 >>> 5) &&& 0x03
  pbf := (byteAt bytes 0 >>> 4) &&& 0x01
  gid := byteAt bytes 0 &&& 0x0F
  oid := byteAt bytes 1 &&& 0x3F
  payload := (bytes.drop headerSize).take (headerLength bytes)

theorem packet_parse_eq (bytes : List UInt8) :
    packetParse bytes =
      if bytes.length < headerSize then none
      else if headerLength bytes > maxPayload then none
      else if bytes.length < headerSize+headerLength bytes then none
      else some (packetOf bytes) := by
  match bytes with
  | [] | [_] | [_,_] | [_,_,_] => rfl
  | b0::b1::b2::b3::body =>
    have hlength : (b0::b1::b2::b3::body).length = headerSize+body.length := by
      simp only [List.length_cons, headerSize]
      omega
    rw [if_neg (by omega)]
    change (if headerLength (b0::b1::b2::b3::body) > maxPayload then none
      else if body.length < headerLength (b0::b1::b2::b3::body) then none
      else some (packetOf (b0::b1::b2::b3::body))) = _
    by_cases hlimit : headerLength (b0::b1::b2::b3::body) > maxPayload
    · rw [if_pos hlimit, if_pos hlimit]
    · rw [if_neg hlimit, if_neg hlimit]
      by_cases hbody : body.length < headerLength (b0::b1::b2::b3::body)
      · rw [if_pos hbody, if_pos (by omega)]
      · rw [if_neg hbody, if_neg (by omega)]

theorem header_length_append {bytes : List UInt8} (more : List UInt8)
    (h : headerSize ≤ bytes.length) : headerLength (bytes ++ more) = headerLength bytes := by
  match bytes, h with
  | [], h | [_], h | [_,_], h | [_,_,_], h => simp [headerSize] at h
  | _::_::_::_::_, _ => rfl

theorem header_length_take {bytes : List UInt8} {n : ℕ} (h : headerSize ≤ bytes.length)
    (hn : headerSize ≤ n) : headerLength (bytes.take n) = headerLength bytes := by
  have hlength : headerSize ≤ (bytes.take n).length := by
    rw [List.length_take]
    omega
  rw [← header_length_append (bytes.drop n) hlength, List.take_append_drop]

theorem wire_front_complete {limit n : ℕ} {bytes : List UInt8} :
    wireFront limit bytes = .complete n ↔
      headerSize ≤ bytes.length ∧ headerLength bytes ≤ limit ∧
        headerSize+headerLength bytes ≤ bytes.length ∧ n = headerSize+headerLength bytes := by
  unfold wireFront
  split
  · constructor
    · intro h
      cases h
    · omega
  split
  · constructor
    · intro h
      cases h
    · omega
  split
  · constructor
    · intro h
      cases h
    · omega
  · constructor
    · intro h
      cases h
      omega
    · rintro ⟨-,-,-,rfl⟩
      rfl

theorem wire_front_invalid {limit : ℕ} {bytes : List UInt8} :
    wireFront limit bytes = .invalid ↔
      headerSize ≤ bytes.length ∧ limit < headerLength bytes := by
  unfold wireFront
  split
  · constructor
    · intro h
      cases h
    · omega
  split
  · constructor
    · omega
    · exact fun _ => rfl
  · constructor
    · intro h
      split at h <;> cases h
    · omega

def wireCutter (limit : ℕ) : Cutter UInt8 where
  front := wireFront limit
  fits s n h := by
    have h := wire_front_complete.mp h
    simp only [headerSize] at h
    omega
  grows s t n h := by
    rcases wire_front_complete.mp h with ⟨hheader,hlimit,hlength,hn⟩
    refine wire_front_complete.mpr ?_
    rw [header_length_append t hheader, List.length_append]
    omega
  stays s t h := by
    rcases wire_front_invalid.mp h with ⟨hheader,hlimit⟩
    refine wire_front_invalid.mpr ?_
    rw [header_length_append t hheader, List.length_append]
    omega
  own s n h := by
    rcases wire_front_complete.mp h with ⟨hheader,hlimit,hlength,hn⟩
    refine wire_front_complete.mpr ?_
    rw [header_length_take hheader (by omega), List.length_take]
    omega

/-- A frame has the length its header gives, within the reader's limit. -/
theorem wire_frame {limit : ℕ} {bytes : List UInt8} :
    Frame (wireCutter limit) bytes ↔
      headerSize ≤ bytes.length ∧ headerLength bytes ≤ limit ∧
        bytes.length = headerSize+headerLength bytes := by
  refine wire_front_complete.trans ?_
  omega

theorem frame_parse {limit : ℕ} (hlimit : limit ≤ maxPayload) {bytes : List UInt8}
    (h : Frame (wireCutter limit) bytes) : packetParse bytes = some (packetOf bytes) := by
  have h := wire_frame.mp h
  rw [packet_parse_eq, if_neg (by omega), if_neg (by omega), if_neg (by omega)]

theorem frame_payload {limit : ℕ} {bytes : List UInt8} (h : Frame (wireCutter limit) bytes) :
    (packetOf bytes).payload.length = headerLength bytes := by
  have h := wire_frame.mp h
  rw [packetOf, List.length_take, List.length_drop]
  omega

theorem packet_of_take (b0 b1 b2 b3 : UInt8) (body : List UInt8) :
    packetOf ((b0::b1::b2::b3::body).take (headerSize+headerLength [b0,b1,b2,b3])) =
      { packetOf [b0,b1,b2,b3] with payload := body.take (headerLength [b0,b1,b2,b3]) } := by
  have htake : (b0::b1::b2::b3::body).take (headerSize+headerLength [b0,b1,b2,b3]) =
      b0::b1::b2::b3::body.take (headerLength [b0,b1,b2,b3]) := by
    rw [headerSize, Nat.add_comm]
    rfl
  have hpayload : ((b0::b1::b2::b3::body.take (headerLength [b0,b1,b2,b3])).drop headerSize).take
      (headerLength [b0,b1,b2,b3]) = body.take (headerLength [b0,b1,b2,b3]) := by
    change (body.take _).take _ = _
    rw [List.take_take, Nat.min_self]
  rw [htake]
  exact congrArg (fun payload => ({ packetOf [b0,b1,b2,b3] with payload := payload } : Packet))
    hpayload

/-- The bytes of one packet and no more. -/
def WirePacket (bytes : List UInt8) : Prop :=
  ∃ packet, packetParse bytes = some packet ∧ bytes.length = headerSize+packet.payload.length

theorem wire_packet_frame {bytes : List UInt8} :
    WirePacket bytes ↔ Frame (wireCutter maxPayload) bytes := by
  constructor
  · rintro ⟨packet,hparse,hlength⟩
    rw [packet_parse_eq] at hparse
    split at hparse
    · cases hparse
    split at hparse
    · cases hparse
    split at hparse
    · cases hparse
    · rename_i hshort hlimit hbody
      cases hparse
      rw [packetOf, List.length_take, List.length_drop] at hlength
      refine wire_frame.mpr ?_
      omega
  · intro h
    refine ⟨packetOf bytes,frame_parse le_rfl h,?_⟩
    rw [frame_payload h]
    exact (wire_frame.mp h).2.2

instance (bytes : List UInt8) : Decidable (WirePacket bytes) :=
  decidable_of_iff _ wire_packet_frame.symm

end UciSim
