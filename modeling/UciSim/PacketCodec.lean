import UciSim.Transmission

/-!
# The packet codec

Serializing and parsing undo each other. The bits the header reserves do not
survive the way through a packet, everything else does.
-/

set_option autoImplicit false

namespace UciSim

open Framing

/-- The bytes of a packet with the reserved bits of the header cleared. -/
def canonical : List UInt8 → List UInt8
  | b0::b1::b2::b3::body =>
    (b0 &&& 0x7F)::(b1 &&& 0x3F)::(if (b0 >>> 5) &&& 0x03 = mtData then b2 else 0)::b3::body
  | bytes => bytes

/-- The payload lengths a header can state. -/
def Packet.LengthFits (packet : Packet) : Prop :=
  packet.payload.length ≤ maxPayload ∧ (packet.mt = mtData ∨ packet.payload.length ≤ 255)

/-- The fields within the bits the header gives them. -/
structure Packet.FieldsFit (packet : Packet) : Prop where
  mt : packet.mt < 4
  pbf : packet.pbf < 2
  gid : packet.gid < 16
  oid : packet.oid < 64

theorem byte_value (b : UInt8) : ∃ n : Fin 256, UInt8.ofNat n = b :=
  ⟨⟨b.toNat,b.toNat_lt⟩,UInt8.ofNat_toNat⟩

theorem low_bits (b : UInt8) : (b < 4 → b &&& 0x03 = b) ∧ (b < 2 → b &&& 0x01 = b) ∧
    (b < 16 → b &&& 0x0F = b) ∧ (b < 64 → b &&& 0x3F = b) := by
  rcases byte_value b with ⟨n,rfl⟩
  revert n
  decide +kernel

theorem packed_byte (b : UInt8) :
    ((((b >>> 5) &&& 0x03) &&& 0x03) <<< 5) ||| ((((b >>> 4) &&& 0x01) &&& 0x01) <<< 4) |||
      ((b &&& 0x0F) &&& 0x0F) = b &&& 0x7F ∧ (b &&& 0x3F) &&& 0x3F = b &&& 0x3F := by
  rcases byte_value b with ⟨n,rfl⟩
  revert n
  decide +kernel

theorem data_length_value (low high : UInt8) :
    (low.toUInt16 ||| (high.toUInt16 <<< 8)).toNat = low.toNat+256*high.toNat := by
  have hlow := low.toNat_lt
  have hhigh := high.toNat_lt
  have hshift : high.toNat <<< 8 % 2^16 = high.toNat <<< 8 := by
    rw [Nat.shiftLeft_eq]
    omega
  simp only [UInt16.toNat_or, UInt16.toNat_shiftLeft, UInt8.toNat_toUInt16]
  rw [show (8 : UInt16).toNat % 16 = 8 from rfl, hshift, Nat.or_comm,
    ← Nat.shiftLeft_add_eq_or_of_lt hlow, Nat.shiftLeft_eq]
  omega

theorem Packet.FieldsFit.masked {packet : Packet} (h : packet.FieldsFit) :
    packet.mt &&& 0x03 = packet.mt ∧ packet.pbf &&& 0x01 = packet.pbf ∧
      packet.gid &&& 0x0F = packet.gid ∧ packet.oid &&& 0x3F = packet.oid := by
  exact ⟨(low_bits packet.mt).1 h.mt,(low_bits packet.pbf).2.1 h.pbf,
    (low_bits packet.gid).2.2.1 h.gid,(low_bits packet.oid).2.2.2 h.oid⟩

theorem packet_of_append {bytes : List UInt8} (h : Frame (wireCutter maxPayload) bytes)
    (trailing : List UInt8) : packetOf (bytes ++ trailing) = packetOf bytes := by
  rcases wire_frame.mp h with ⟨hheader,-,hlength⟩
  match bytes, hheader, hlength with
  | b0::b1::b2::b3::body, _, hlength =>
    have hbody : body.length = headerLength [b0,b1,b2,b3] := by
      rw [List.length_cons, List.length_cons, List.length_cons, List.length_cons] at hlength
      change _ = 4+headerLength [b0,b1,b2,b3] at hlength
      omega
    have hwhole : (body ++ trailing).take (headerLength [b0,b1,b2,b3]) =
        body.take (headerLength [b0,b1,b2,b3]) := by
      rw [← hbody, List.take_left, List.take_length]
    exact congrArg (fun payload => ({ packetOf [b0,b1,b2,b3] with payload := payload } : Packet))
      hwhole

theorem parse_append {bytes : List UInt8} (h : Frame (wireCutter maxPayload) bytes)
    (trailing : List UInt8) : packetParse (bytes ++ trailing) = some (packetOf bytes) := by
  rcases wire_frame.mp h with ⟨hheader,hlimit,hlength⟩
  have hsame := header_length_append trailing hheader
  rw [packet_parse_eq, List.length_append, if_neg (by omega), if_neg (by omega),
    if_neg (by omega), packet_of_append h]

theorem serialize_parse {packet : Packet} {capacity : ℕ} (hfields : packet.FieldsFit)
    (hlength : packet.LengthFits) (hcapacity : headerSize+packet.payload.length ≤ capacity) :
    ∃ bytes, packetSerialize packet capacity = some bytes ∧
      bytes.length = headerSize+packet.payload.length ∧
      ∀ trailing, packetParse (bytes ++ trailing) = some packet := by
  rcases hfields.masked with ⟨hmt,hpbf,hgid,hoid⟩
  have hserialized :
      packetSerialize packet capacity = some (wireHeader packet ++ packet.payload) := by
    rw [packet_serialize_eq, if_pos ⟨hlength.1,hlength.2,hcapacity⟩]
  rcases serialize_frame hmt hserialized with ⟨hframe,hpacket⟩
  refine ⟨_,hserialized,?_,fun trailing => ?_⟩
  · rw [List.length_append]
    rfl
  · rw [parse_append hframe, hpacket, hpbf, hgid, hoid]

theorem header_written (b0 b1 b2 b3 : UInt8) (body : List UInt8)
    (h : body.length = headerLength [b0,b1,b2,b3]) :
    wireHeader { packetOf [b0,b1,b2,b3] with payload := body } ++ body =
      canonical (b0::b1::b2::b3::body) := by
  have hfirst := (packed_byte b0).1
  have hsecond := (packed_byte b1).2
  have hvalue := data_length_value b2 b3
  have h2 := b2.toNat_lt
  have h3 := b3.toNat_lt
  change body.length = payloadLengthFromHeader ((b0 >>> 5) &&& 0x03) b2 b3 at h
  change (((((b0 >>> 5) &&& 0x03) &&& 0x03) <<< 5) |||
      ((((b0 >>> 4) &&& 0x01) &&& 0x01) <<< 4) ||| ((b0 &&& 0x0F) &&& 0x0F)) ::
    ((b1 &&& 0x3F) &&& 0x3F) ::
    (if (b0 >>> 5) &&& 0x03 = mtData then UInt8.ofNat (body.length % 256) else 0) ::
    (if (b0 >>> 5) &&& 0x03 = mtData then UInt8.ofNat (body.length / 256 % 256)
      else UInt8.ofNat (body.length % 256)) :: body = _
  rw [hfirst, hsecond, canonical]
  by_cases hdata : (b0 >>> 5) &&& 0x03 = mtData
  · rw [payloadLengthFromHeader, if_pos hdata, hvalue] at h
    rw [if_pos hdata, if_pos hdata, if_pos hdata, h,
      show (b2.toNat+256*b3.toNat) % 256 = b2.toNat by omega,
      show (b2.toNat+256*b3.toNat) / 256 % 256 = b3.toNat by omega, UInt8.ofNat_toNat,
      UInt8.ofNat_toNat]
  · rw [payloadLengthFromHeader, if_neg hdata] at h
    rw [if_neg hdata, if_neg hdata, if_neg hdata, h, Nat.mod_eq_of_lt h3, UInt8.ofNat_toNat]

theorem parse_serialize {buffer : List UInt8} {packet : Packet} {capacity : ℕ}
    (h : packetParse buffer = some packet)
    (hcapacity : headerSize+packet.payload.length ≤ capacity) :
    packetSerialize packet capacity =
      some (canonical (buffer.take (headerSize+packet.payload.length))) := by
  rw [packet_parse_eq] at h
  split at h
  · cases h
  split at h
  · cases h
  split at h
  · cases h
  rename_i hheader hlimit hbody
  cases h
  match buffer with
  | [] | [_] | [_,_] | [_,_,_] => simp [headerSize] at hheader
  | b0::b1::b2::b3::body =>
    have hlength : (b0::b1::b2::b3::body).length = headerSize+body.length := by
      simp only [List.length_cons, headerSize]
      omega
    have hbody' : headerLength [b0,b1,b2,b3] ≤ body.length := by
      change ¬ _ < headerSize+headerLength [b0,b1,b2,b3] at hbody
      omega
    have htake : (body.take (headerLength [b0,b1,b2,b3])).length = headerLength [b0,b1,b2,b3] :=
      List.length_take_of_le hbody'
    have hparsed : packetOf (b0::b1::b2::b3::body) =
      { packetOf [b0,b1,b2,b3] with payload := body.take (headerLength [b0,b1,b2,b3]) } := rfl
    have hbytes : (b0::b1::b2::b3::body).take (headerSize+headerLength [b0,b1,b2,b3]) =
        b0::b1::b2::b3::body.take (headerLength [b0,b1,b2,b3]) := by
      rw [headerSize, Nat.add_comm]
      rfl
    rw [hparsed] at hcapacity ⊢
    rw [show ({ packetOf [b0,b1,b2,b3] with
        payload := body.take (headerLength [b0,b1,b2,b3]) } : Packet).payload.length =
      headerLength [b0,b1,b2,b3] from htake] at hcapacity ⊢
    rw [hbytes, ← header_written b0 b1 b2 b3 _ htake, packet_serialize_eq, if_pos]
    refine ⟨?_,?_,?_⟩
    · exact htake.trans_le (Nat.le_of_not_gt hlimit)
    · by_cases hdata : (b0 >>> 5) &&& 0x03 = mtData
      · exact Or.inl hdata
      · refine Or.inr (htake.trans_le ?_)
        change payloadLengthFromHeader ((b0 >>> 5) &&& 0x03) b2 b3 ≤ 255
        rw [payloadLengthFromHeader, if_neg hdata]
        exact Nat.le_of_lt_succ b3.toNat_lt
    · exact (Nat.add_le_add_left htake.le headerSize).trans hcapacity

theorem serialize_refused {packet : Packet} (h : ¬ packet.LengthFits) (capacity : ℕ) :
    packetSerialize packet capacity = none := by
  rw [packet_serialize_eq, if_neg]
  rintro ⟨hlimit,hkind,-⟩
  exact h ⟨hlimit,hkind⟩

/-- A packet comes back from its bytes, whatever follows them; bytes come back from their packet
with the reserved bits cleared; and no other payload length is serialized. -/
theorem packet_codec :
    (∀ (packet : Packet) (capacity : ℕ), packet.FieldsFit → packet.LengthFits →
      headerSize+packet.payload.length ≤ capacity →
        ∃ bytes, packetSerialize packet capacity = some bytes ∧
          bytes.length = headerSize+packet.payload.length ∧
          ∀ trailing, packetParse (bytes ++ trailing) = some packet) ∧
    (∀ (buffer : List UInt8) (packet : Packet) (capacity : ℕ), packetParse buffer = some packet →
      headerSize+packet.payload.length ≤ capacity →
        packetSerialize packet capacity =
          some (canonical (buffer.take (headerSize+packet.payload.length)))) ∧
    ∀ (packet : Packet) (capacity : ℕ), ¬ packet.LengthFits →
      packetSerialize packet capacity = none :=
  ⟨fun _ _ => serialize_parse,fun _ _ _ => parse_serialize,
    fun _ capacity h => serialize_refused h capacity⟩

/-- A command in front of other bytes comes back, bytes come back without their reserved bits, and
a control payload of 256 bytes is refused. -/
theorem command_codec :
    (∃ bytes, packetSerialize ⟨mtCommand,pbfComplete,gidCore,coreGetConfig,[0x01,0x02]⟩ 6 =
        some bytes ∧ packetParse (bytes ++ [0xFF,0xFF]) =
          some ⟨mtCommand,pbfComplete,gidCore,coreGetConfig,[0x01,0x02]⟩) ∧
      packetSerialize ⟨1,0,1,2,[0x55]⟩ 5 =
        some (canonical [0xA1,0xC2,0x07,0x01,0x55]) ∧
      packetSerialize ⟨mtCommand,pbfComplete,gidCore,coreGetConfig,List.replicate 256 0⟩
        maxPacket = none := by
  rcases packet_codec with ⟨hpacket,hbytes,hlong⟩
  have hrejected : ¬ Packet.LengthFits
      ⟨mtCommand,pbfComplete,gidCore,coreGetConfig,List.replicate 256 0⟩ := by
    unfold Packet.LengthFits
    rw [List.length_replicate]
    decide
  rcases hpacket ⟨mtCommand,pbfComplete,gidCore,coreGetConfig,[0x01,0x02]⟩ 6
    ⟨by decide,by decide,by decide,by decide⟩ ⟨by decide,Or.inr (by decide)⟩ (by decide) with
    ⟨bytes,hserialized,-,hparse⟩
  exact ⟨⟨bytes,hserialized,hparse _⟩,
    hbytes [0xA1,0xC2,0x07,0x01,0x55,0xFF] ⟨1,0,1,2,[0x55]⟩ 5 (by decide) (by decide),
    hlong _ _ hrejected⟩

end UciSim
