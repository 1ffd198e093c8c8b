import UciSim.Engine
import UciSim.Wire

/-!
# Sending packets to the host

Both transports dequeue the outbound packets one by one and serialize them. The
TCP transport splits a control packet with more than 255 payload bytes into
fragments, the chardev hands every packet to the serializer as it is. `hostDecode`
is what a host makes of the bytes: it cuts them into packets by their headers
and joins payloads until a packet says that its message is complete.
-/

set_option autoImplicit false

namespace UciSim

open Framing

def masterWrite (packet : Packet) : Option (List UInt8) := packetSerialize packet maxPacket

/-- The fragment of a packet that starts at `payloadOffset`. -/
def fragment (packet : Packet) (payloadOffset : ℕ) : Packet :=
  let remaining := packet.payload.length-payloadOffset
  let fragmentLen := if remaining > 255 then 255 else remaining
  { mt := packet.mt
    pbf := if remaining > 255 then pbfNotComplete else pbfComplete
    gid := packet.gid
    oid := packet.oid
    payload := (packet.payload.drop payloadOffset).take fragmentLen }

def sendFragments (packet : Packet) : ℕ → ℕ → Option (List UInt8)
  | 0, _ => none
  | turns+1, payloadOffset =>
    if payloadOffset < packet.payload.length then do
      let frag := fragment packet payloadOffset
      let wire ← packetSerialize frag maxPacket
      let more ← sendFragments packet turns (payloadOffset+frag.payload.length)
      some (wire ++ more)
    else some []

def sendToClient (packet : Packet) : Option (List UInt8) :=
  if packet.mt ≠ mtData ∧ packet.payload.length > 255 then
    sendFragments packet (packet.payload.length+1) 0
  else packetSerialize packet maxPacket

namespace Engine

/-- The loop both transports flush with: the code, the bytes written and the engine after. -/
def flushLoopWith (send : Packet → Option (List UInt8)) : ℕ → Engine → Rc × List UInt8 × Engine
  | 0, engine => (.ok,[],engine)
  | turns+1, engine =>
    match engine.dequeueOutboundPacket with
    | none => (.ok,[],engine)
    | some (packet,engine) =>
      match send packet with
      | none => (.err,[],engine)
      | some wire =>
        let (rc,more,engine) := flushLoopWith send turns engine
        (rc,wire ++ more,engine)

def masterFlush (engine : Engine) : Rc × List UInt8 × Engine :=
  engine.flushLoopWith masterWrite (engine.outboundPackets.length+1)

def flushToClient (engine : Engine) : Rc × List UInt8 × Engine :=
  engine.flushLoopWith sendToClient (engine.outboundPackets.length+1)

end Engine

structure Message where
  mt : UInt8
  gid : UInt8
  oid : UInt8
  payload : List UInt8
  deriving DecidableEq, Repr

def reassemble : List UInt8 → List Packet → List Message
  | _, [] => []
  | got, packet::packets =>
    if packet.pbf = pbfComplete then
      ⟨packet.mt,packet.gid,packet.oid,got ++ packet.payload⟩ :: reassemble [] packets
    else reassemble (got ++ packet.payload) packets

def hostDecode (bytes : List UInt8) : List Message :=
  reassemble [] ((cut (wireCutter maxPayload) bytes).1.map packetOf)

/-- What the header carries of a packet: two bits of type, four of group and six of opcode. -/
def Packet.message (packet : Packet) : Message :=
  ⟨packet.mt &&& 0x03,packet.gid &&& 0x0F,packet.oid &&& 0x3F,packet.payload⟩

theorem masked_byte (x : UInt8) (n : ℕ) (hn : n < 256) :
    ∃ m ≤ n, x &&& UInt8.ofNat n = UInt8.ofNat m := by
  refine ⟨(x &&& UInt8.ofNat n).toNat,?_,UInt8.ofNat_toNat.symm⟩
  rw [UInt8.toNat_and, UInt8.toNat_ofNat_of_lt' hn]
  exact Nat.and_le_right

theorem header_byte_fields : ∀ m : Fin 4, ∀ b : Fin 2, ∀ g : Fin 16,
    let byte := (UInt8.ofNat m <<< 5) ||| (UInt8.ofNat b <<< 4) ||| UInt8.ofNat g
    (byte >>> 5) &&& 0x03 = UInt8.ofNat m ∧ (byte >>> 4) &&& 0x01 = UInt8.ofNat b ∧
      byte &&& 0x0F = UInt8.ofNat g := by
  decide +kernel

theorem header_byte (mt pbf gid : UInt8) :
    let byte := ((mt &&& 0x03) <<< 5) ||| ((pbf &&& 0x01) <<< 4) ||| (gid &&& 0x0F)
    (byte >>> 5) &&& 0x03 = mt &&& 0x03 ∧ (byte >>> 4) &&& 0x01 = pbf &&& 0x01 ∧
      byte &&& 0x0F = gid &&& 0x0F := by
  rcases masked_byte mt 3 (by decide) with ⟨m,hm,hmt⟩
  rcases masked_byte pbf 1 (by decide) with ⟨b,hb,hpbf⟩
  rcases masked_byte gid 15 (by decide) with ⟨g,hg,hgid⟩
  have hfields := header_byte_fields ⟨m,by omega⟩ ⟨b,by omega⟩ ⟨g,by omega⟩
  change mt &&& 0x03 = _ at hmt
  change pbf &&& 0x01 = _ at hpbf
  change gid &&& 0x0F = _ at hgid
  rw [hmt, hpbf, hgid]
  exact hfields

theorem data_length_bytes : ∀ n : Fin 1025,
    ((UInt8.ofNat (n % 256)).toUInt16 ||| ((UInt8.ofNat (n / 256 % 256)).toUInt16 <<< 8)).toNat
      = n := by
  decide +kernel

/-- The header as the serializer writes it. -/
def wireHeader (packet : Packet) : List UInt8 :=
  let len := packet.payload.length
  [((packet.mt &&& 0x03) <<< 5) ||| ((packet.pbf &&& 0x01) <<< 4) ||| (packet.gid &&& 0x0F),
    packet.oid &&& 0x3F,if packet.mt = mtData then UInt8.ofNat (len % 256) else 0,
    if packet.mt = mtData then UInt8.ofNat (len / 256 % 256) else UInt8.ofNat (len % 256)]

theorem packet_serialize_eq (packet : Packet) (capacity : ℕ) :
    packetSerialize packet capacity =
      if packet.payload.length ≤ maxPayload ∧
          (packet.mt = mtData ∨ packet.payload.length ≤ 255) ∧
          headerSize+packet.payload.length ≤ capacity then
        some (wireHeader packet ++ packet.payload)
      else none := by
  unfold packetSerialize
  by_cases hlimit : packet.payload.length > maxPayload
  · rw [if_pos hlimit, if_neg (by omega)]
  rw [if_neg hlimit]
  by_cases hcontrol : packet.mt ≠ mtData ∧ packet.payload.length > 255
  · rw [if_pos hcontrol, if_neg ?_]
    rintro ⟨-,hdata | hshort,-⟩
    · exact hcontrol.1 hdata
    · omega
  rw [if_neg hcontrol]
  by_cases hcapacity : capacity < headerSize+packet.payload.length
  · rw [if_pos hcapacity, if_neg (by omega)]
  have hkind : packet.mt = mtData ∨ packet.payload.length ≤ 255 := by
    by_cases hdata : packet.mt = mtData
    · exact Or.inl hdata
    · exact Or.inr (by_contra fun hlong => hcontrol ⟨hdata,by omega⟩)
  have hfits : packet.payload.length ≤ maxPayload ∧
      (packet.mt = mtData ∨ packet.payload.length ≤ 255) ∧
      headerSize+packet.payload.length ≤ capacity := ⟨by omega,hkind,by omega⟩
  rw [if_neg hcapacity, if_pos hfits]
  by_cases hdata : packet.mt = mtData
  · simp only [wireHeader, if_pos hdata]
    rfl
  · simp only [wireHeader, if_neg hdata]
    rfl

theorem header_length_serialized {packet : Packet} (hmt : packet.mt &&& 0x03 = packet.mt)
    (hlimit : packet.payload.length ≤ maxPayload)
    (hcontrol : packet.mt = mtData ∨ packet.payload.length ≤ 255) :
    headerLength (wireHeader packet ++ packet.payload) = packet.payload.length := by
  change payloadLengthFromHeader (((((packet.mt &&& 0x03) <<< 5) ||| ((packet.pbf &&& 0x01) <<< 4)
    ||| (packet.gid &&& 0x0F)) >>> 5) &&& 0x03)
    (if packet.mt = mtData then UInt8.ofNat (packet.payload.length % 256) else 0)
    (if packet.mt = mtData then UInt8.ofNat (packet.payload.length / 256 % 256)
      else UInt8.ofNat (packet.payload.length % 256)) = _
  rw [(header_byte packet.mt packet.pbf packet.gid).1, hmt, payloadLengthFromHeader]
  by_cases hdata : packet.mt = mtData
  · rw [if_pos hdata, if_pos hdata, if_pos hdata]
    exact data_length_bytes ⟨packet.payload.length,by simp only [maxPayload] at hlimit; omega⟩
  · have hshort : packet.payload.length ≤ 255 := hcontrol.resolve_left hdata
    rw [if_neg hdata, if_neg hdata, Nat.mod_eq_of_lt (by omega)]
    exact UInt8.toNat_ofNat_of_lt' (show packet.payload.length < 256 by omega)

/-- A serialized packet is one frame, and a host reads the packet from it. -/
theorem serialize_frame {packet : Packet} {capacity : ℕ} {bytes : List UInt8}
    (hmt : packet.mt &&& 0x03 = packet.mt) (h : packetSerialize packet capacity = some bytes) :
    Frame (wireCutter maxPayload) bytes ∧ packetOf bytes =
      ⟨packet.mt,packet.pbf &&& 0x01,packet.gid &&& 0x0F,packet.oid &&& 0x3F,packet.payload⟩ := by
  rw [packet_serialize_eq] at h
  split at h
  · rename_i hfits
    cases h
    have hlength := header_length_serialized hmt hfits.1 hfits.2.1
    constructor
    · refine wire_frame.mpr ?_
      rw [hlength, List.length_append]
      refine ⟨?_,hfits.1,rfl⟩
      show headerSize ≤ headerSize+_
      omega
    · rcases header_byte packet.mt packet.pbf packet.gid with ⟨hmt',hpbf,hgid⟩
      rw [packetOf, hlength, Packet.mk.injEq]
      refine ⟨hmt'.trans hmt,hpbf,hgid,?_,?_⟩
      · show (packet.oid &&& 0x3F) &&& 0x3F = _
        rw [UInt8.and_assoc, UInt8.and_self]
      · show packet.payload.take _ = _
        rw [List.take_length]
  · cases h

/-- Whatever follows, the host reads the message from the bytes first. -/
def Delivers (bytes : List UInt8) (message : Message) (got : List UInt8) : Prop :=
  ∃ frames : List (List UInt8), (∀ f ∈ frames, Frame (wireCutter maxPayload) f) ∧
    bytes = frames.flatten ∧ ∀ packets, reassemble got (frames.map packetOf ++ packets) =
      message :: reassemble [] packets

/-- The messages of bytes delivered one after the other. -/
theorem decode_delivered (deliveries : List (List UInt8 × Message))
    (h : ∀ d ∈ deliveries, Delivers d.1 d.2 []) :
    hostDecode (deliveries.map Prod.fst).flatten = deliveries.map Prod.snd := by
  have hframes : ∃ frames : List (List UInt8), (∀ f ∈ frames, Frame (wireCutter maxPayload) f) ∧
      (deliveries.map Prod.fst).flatten = frames.flatten ∧
      reassemble [] (frames.map packetOf) = deliveries.map Prod.snd := by
    induction deliveries with
    | nil => exact ⟨[],nofun,rfl,rfl⟩
    | cons d deliveries ih =>
      rcases h d List.mem_cons_self with ⟨fs,hfs,hbytes,hread⟩
      rcases ih fun d hd => h d (List.mem_cons_of_mem _ hd) with ⟨gs,hgs,hrest,hreads⟩
      refine ⟨fs ++ gs,?_,?_,?_⟩
      · intro f hf
        rcases List.mem_append.mp hf with hf | hf
        · exact hfs f hf
        · exact hgs f hf
      · rw [List.map_cons, List.flatten_cons, List.flatten_append, hbytes, hrest]
      · rw [List.map_append, hread, hreads, List.map_cons]
  rcases hframes with ⟨frames,hfs,hbytes,hread⟩
  rw [hostDecode, hbytes, cut_flatten hfs]
  exact hread

theorem serialize_delivers {packet : Packet} {bytes got : List UInt8}
    (hmt : packet.mt &&& 0x03 = packet.mt) (hpbf : packet.pbf = pbfComplete)
    (h : packetSerialize packet maxPacket = some bytes) :
    Delivers bytes { packet.message with payload := got ++ packet.payload } got := by
  rcases serialize_frame hmt h with ⟨hframe,hpacket⟩
  refine ⟨[bytes],by simpa using hframe,by simp,fun packets => ?_⟩
  rw [List.map_singleton, List.singleton_append, reassemble, hpacket, hpbf,
    if_pos (show pbfComplete &&& 0x01 = pbfComplete from rfl), Packet.message, hmt]

theorem fragment_serialized (packet : Packet) (payloadOffset : ℕ) :
    ∃ bytes, packetSerialize (fragment packet payloadOffset) maxPacket = some bytes := by
  refine ⟨_,(packet_serialize_eq _ _).trans (if_pos ?_)⟩
  have hlength : (fragment packet payloadOffset).payload.length ≤ 255 := by
    simp only [fragment, List.length_take, List.length_drop]
    split <;> omega
  simp only [maxPacket, maxPayload, headerSize]
  exact ⟨by omega,Or.inr hlength,by omega⟩

theorem fragments_deliver {packet : Packet} (hmt : packet.mt &&& 0x03 = packet.mt)
    (turns payloadOffset : ℕ) (got : List UInt8) (h : payloadOffset < packet.payload.length)
    (hturns : packet.payload.length-payloadOffset < turns) :
    ∃ bytes, sendFragments packet turns payloadOffset = some bytes ∧
      Delivers bytes { packet.message with payload := got ++ packet.payload.drop payloadOffset }
        got := by
  induction turns generalizing payloadOffset got with
  | zero => omega
  | succ turns ih =>
    rcases fragment_serialized packet payloadOffset with ⟨wire,hwire⟩
    have hmt' : (fragment packet payloadOffset).mt &&& 0x03 =
        (fragment packet payloadOffset).mt := hmt
    rcases serialize_frame hmt' hwire with ⟨hframe,hpacket⟩
    rw [sendFragments, if_pos h]
    simp only [hwire, Option.bind_eq_bind, Option.bind_some]
    by_cases hmore : packet.payload.length-payloadOffset > 255
    · have hpayload : (fragment packet payloadOffset).payload =
          (packet.payload.drop payloadOffset).take 255 := by
        simp only [fragment, if_pos hmore]
      have hlength : (fragment packet payloadOffset).payload.length = 255 := by
        rw [hpayload, List.length_take, List.length_drop]
        omega
      have hpbf : (fragment packet payloadOffset).pbf = pbfNotComplete := by
        simp only [fragment, if_pos hmore]
      rcases ih (payloadOffset+255) (got ++ (packet.payload.drop payloadOffset).take 255)
        (by omega) (by omega) with ⟨more,hsent,frames,hframes,hjoin,hread⟩
      rw [hlength, hsent]
      refine ⟨wire ++ more,rfl,wire::frames,?_,?_,?_⟩
      · intro f hf
        rcases List.mem_cons.mp hf with rfl | hf
        · exact hframe
        · exact hframes f hf
      · rw [List.flatten_cons, hjoin]
      · intro packets
        rw [List.map_cons, List.cons_append, reassemble, hpacket, hpbf, hpayload,
          if_neg (show ¬ pbfNotComplete &&& 0x01 = pbfComplete by decide), hread,
          List.append_assoc, ← List.drop_drop, List.take_append_drop]
    · have hpayload : (fragment packet payloadOffset).payload =
          packet.payload.drop payloadOffset := by
        simp only [fragment, if_neg hmore]
        exact List.take_of_length_le (by rw [List.length_drop])
      have hpbf : (fragment packet payloadOffset).pbf = pbfComplete := by
        simp only [fragment, if_neg hmore]
      have hend : sendFragments packet turns
          (payloadOffset+(fragment packet payloadOffset).payload.length) = some [] := by
        cases turns with
        | zero => omega
        | succ turns =>
          rw [sendFragments, if_neg]
          rw [hpayload, List.length_drop]
          omega
      rw [hend]
      refine ⟨wire ++ [],rfl,[wire],?_,?_,?_⟩
      · simpa using hframe
      · rw [List.append_nil, List.flatten_cons, List.flatten_nil, List.append_nil]
      · intro packets
        rw [List.map_singleton, List.singleton_append, reassemble, hpacket, hpbf, hpayload,
          if_pos (show pbfComplete &&& 0x01 = pbfComplete from rfl), Packet.message, hmt]
        rfl

end UciSim
