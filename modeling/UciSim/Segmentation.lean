import UciSim.PacketCodec

/-!
# Segments of a packet

The TCP transport writes a long control packet as segments. Read back packet by
packet they carry what the header holds of the packet's type, group and opcode,
announce each other, and join to its payload.
-/

set_option autoImplicit false

namespace UciSim

def parsePackets : ℕ → List UInt8 → Option (List Packet)
  | _, [] => some []
  | 0, _::_ => none
  | turns+1, b::bytes => do
    let packet ← packetParse (b::bytes)
    let packets ← parsePackets turns ((b::bytes).drop (headerSize+packet.payload.length))
    some (packet::packets)

def parseStream (bytes : List UInt8) : Option (List Packet) := parsePackets bytes.length bytes

/-- The fragments carry the packet between them. -/
structure Packet.CarriedBy (packet : Packet) (fragments : List Packet) : Prop where
  fields : ∀ frag ∈ fragments, frag.mt = packet.mt ∧ frag.gid = packet.gid ∧
    frag.oid = packet.oid
  short : packet.mt ≠ mtData → ∀ frag ∈ fragments, frag.payload.length ≤ 255
  whole : 1 < fragments.length → ∀ frag ∈ fragments, frag.payload ≠ []
  announced : 1 < fragments.length → ∃ segments final, fragments = segments ++ [final] ∧
    (∀ frag ∈ segments, frag.pbf = pbfNotComplete) ∧ final.pbf = pbfComplete
  payload : fragments.flatMap Packet.payload = packet.payload

/-- Sending succeeds, and the stream parses into fragments that carry the packet `wire`. -/
def Packet.SentAs (packet wire : Packet) : Prop :=
  ∃ bytes fragments, sendToClient packet = some bytes ∧
    parseStream bytes = some fragments ∧ fragments ≠ [] ∧ wire.CarriedBy fragments

def Packet.Segments (packet : Packet) : Prop := packet.SentAs packet

/-- The packet with its type, group and opcode cut to the fields of the header. -/
def Packet.masked (packet : Packet) : Packet :=
  { packet with
    mt := packet.mt &&& 0x03
    gid := packet.gid &&& 0x0F
    oid := packet.oid &&& 0x3F }

/-- What reads as data on the wire is data, unless there is no length to misread. -/
def Packet.KeepsKind (packet : Packet) : Prop :=
  packet.mt &&& 0x03 = mtData → packet.mt = mtData ∨ packet.payload = []

instance (packet : Packet) : Decidable packet.KeepsKind :=
  inferInstanceAs (Decidable (_ → _ ∨ _))

/-- The type, group and opcode are numbers of the header's fields. -/
def Packet.HeaderFits (packet : Packet) : Prop :=
  packet.mt < 4 ∧ packet.gid < 16 ∧ packet.oid < 64

instance (packet : Packet) : Decidable packet.HeaderFits := inferInstanceAs (Decidable (_ ∧ _))

theorem parse_packets_cons {bytes rest : List UInt8} {packet : Packet} {packets : List Packet}
    (hparse : packetParse (bytes ++ rest) = some packet)
    (hlength : bytes.length = headerSize+packet.payload.length)
    (hrest : ∀ turns, rest.length ≤ turns → parsePackets turns rest = some packets)
    (turns : ℕ) (hturns : (bytes ++ rest).length ≤ turns) :
    parsePackets turns (bytes ++ rest) = some (packet::packets) := by
  rw [List.length_append, hlength] at hturns
  cases bytes with
  | nil =>
    rw [List.length_nil, headerSize] at hlength
    omega
  | cons b bytes =>
    cases turns with
    | zero =>
      simp only [headerSize] at hturns
      omega
    | succ turns =>
      have hdrop : (b::(bytes ++ rest)).drop (headerSize+packet.payload.length) = rest := by
        rw [← hlength, ← List.cons_append]
        exact List.drop_left
      rw [List.cons_append] at hparse ⊢
      rw [parsePackets, hparse]
      simp only [Option.bind_eq_bind, Option.bind_some, hdrop]
      rw [hrest turns (by simp only [headerSize] at hturns; omega)]
      rfl

theorem masked_fields (b : UInt8) : (b >>> 5) &&& 0x03 < 4 ∧ b &&& 0x0F < 16 ∧
    b &&& 0x3F < 64 := by
  rcases byte_value b with ⟨n,rfl⟩
  revert n
  decide +kernel

theorem parsed_header_fits {bytes : List UInt8} {packet : Packet}
    (h : packetParse bytes = some packet) : packet.HeaderFits := by
  unfold packetParse at h
  split at h
  · rename_i b0 b1 b2 b3 body
    dsimp only at h
    split at h
    · cases h
    split at h
    · cases h
    · cases h
      exact ⟨(masked_fields b0).1,(masked_fields b0).2.1,(masked_fields b1).2.2⟩
  · cases h

theorem stream_header_fits {turns : ℕ} {bytes : List UInt8} {packets : List Packet}
    (h : parsePackets turns bytes = some packets) : ∀ packet ∈ packets, packet.HeaderFits := by
  induction turns generalizing bytes packets with
  | zero =>
    cases bytes with
    | nil =>
      cases h
      exact nofun
    | cons b bytes => cases h
  | succ turns ih =>
    cases bytes with
    | nil =>
      cases h
      exact nofun
    | cons b bytes =>
      rw [parsePackets] at h
      rcases Option.bind_eq_some_iff.mp h with ⟨packet,hparse,h⟩
      rcases Option.bind_eq_some_iff.mp h with ⟨rest,hrest,h⟩
      cases h
      intro other hmem
      rcases List.mem_cons.mp hmem with rfl | hmem
      · exact parsed_header_fits hparse
      · exact ih hrest other hmem

section

variable {packet : Packet}

theorem fragment_long {payloadOffset : ℕ} (h : packet.payload.length-payloadOffset > 255) :
    fragment packet payloadOffset = ⟨packet.mt,pbfNotComplete,packet.gid,packet.oid,
      (packet.payload.drop payloadOffset).take 255⟩ := by
  simp only [fragment, if_pos h]

theorem fragment_last {payloadOffset : ℕ} (h : ¬ packet.payload.length-payloadOffset > 255) :
    fragment packet payloadOffset = ⟨packet.mt,pbfComplete,packet.gid,packet.oid,
      packet.payload.drop payloadOffset⟩ := by
  simp only [fragment, if_neg h]
  rw [List.take_of_length_le (by rw [List.length_drop])]

theorem fragment_parse (hfits : packet.HeaderFits) (payloadOffset : ℕ) :
    ∃ bytes, packetSerialize (fragment packet payloadOffset) maxPacket = some bytes ∧
      bytes.length = headerSize+(fragment packet payloadOffset).payload.length ∧
      ∀ trailing, packetParse (bytes ++ trailing) = some (fragment packet payloadOffset) := by
  have hlength : (fragment packet payloadOffset).payload.length ≤ 255 := by
    simp only [fragment, List.length_take, List.length_drop]
    split <;> omega
  have hpbf : (fragment packet payloadOffset).pbf < 2 := by
    simp only [fragment]
    split <;> decide
  refine serialize_parse ⟨hfits.1,hpbf,hfits.2.1,hfits.2.2⟩ ⟨?_,Or.inr hlength⟩ ?_
  · simp only [maxPayload]
    omega
  · simp only [maxPacket, maxPayload, headerSize]
    omega

/-- What the loop has still to send: a last segment, behind any number of announced ones. -/
structure Packet.Remains (packet : Packet) (payloadOffset : ℕ) (segments : List Packet)
    (final : Packet) : Prop where
  fields : ∀ frag ∈ segments ++ [final], frag.mt = packet.mt ∧ frag.gid = packet.gid ∧
    frag.oid = packet.oid ∧ frag.payload.length ≤ 255 ∧ frag.payload ≠ []
  announced : ∀ frag ∈ segments, frag.pbf = pbfNotComplete
  complete : final.pbf = pbfComplete
  payload : (segments ++ [final]).flatMap Packet.payload = packet.payload.drop payloadOffset

theorem Packet.Remains.last {payloadOffset : ℕ} (h : payloadOffset < packet.payload.length)
    (hlast : ¬ packet.payload.length-payloadOffset > 255) :
    packet.Remains payloadOffset [] (fragment packet payloadOffset) := by
  rw [fragment_last hlast]
  refine ⟨?_,nofun,rfl,List.append_nil _⟩
  intro frag hmem
  rw [List.mem_singleton.mp hmem]
  refine ⟨rfl,rfl,rfl,?_,?_⟩
  · rw [List.length_drop]
    omega
  · exact List.drop_eq_nil_iff.not.mpr (Nat.not_le_of_lt h)

theorem Packet.Remains.cons {payloadOffset : ℕ} {segments : List Packet} {final : Packet}
    (hlong : packet.payload.length-payloadOffset > 255)
    (h : packet.Remains (payloadOffset+255) segments final) :
    packet.Remains payloadOffset (fragment packet payloadOffset::segments) final := by
  rw [fragment_long hlong]
  refine ⟨?_,?_,h.complete,?_⟩
  · intro frag hmem
    rcases List.mem_cons.mp hmem with rfl | hmem
    · refine ⟨rfl,rfl,rfl,List.length_take_le _ _,?_⟩
      apply List.ne_nil_of_length_pos
      rw [List.length_take, List.length_drop]
      omega
    · exact h.fields frag hmem
  · intro frag hmem
    rcases List.mem_cons.mp hmem with rfl | hmem
    · rfl
    · exact h.announced frag hmem
  · rw [List.cons_append, List.flatMap_cons, h.payload, ← List.drop_drop, List.take_append_drop]

theorem fragments_parse (hfits : packet.HeaderFits) (turns payloadOffset : ℕ)
    (h : payloadOffset < packet.payload.length)
    (hturns : packet.payload.length-payloadOffset < turns) :
    ∃ bytes segments final, sendFragments packet turns payloadOffset = some bytes ∧
      (∀ n, bytes.length ≤ n → parsePackets n bytes = some (segments ++ [final])) ∧
      packet.Remains payloadOffset segments final := by
  induction turns generalizing payloadOffset with
  | zero => omega
  | succ turns ih =>
    rcases fragment_parse hfits payloadOffset with ⟨wire,hwire,hlength,hparse⟩
    rw [sendFragments, if_pos h]
    simp only [hwire, Option.bind_eq_bind, Option.bind_some]
    by_cases hlong : packet.payload.length-payloadOffset > 255
    · have hcut : (fragment packet payloadOffset).payload.length = 255 := by
        rw [fragment_long hlong]
        dsimp only
        rw [List.length_take, List.length_drop]
        omega
      rcases ih (payloadOffset+255) (by omega) (by omega) with
        ⟨more,segments,final,hsent,hmore,hremains⟩
      rw [hcut, hsent]
      refine ⟨wire ++ more,_,final,rfl,?_,hremains.cons hlong⟩
      exact parse_packets_cons (hparse more) hlength hmore
    · have hend : sendFragments packet turns
          (payloadOffset+(fragment packet payloadOffset).payload.length) = some [] := by
        cases turns with
        | zero => omega
        | succ turns =>
          rw [sendFragments, if_neg]
          rw [fragment_last hlong, List.length_drop]
          omega
      rw [hend]
      refine ⟨wire ++ [],[],_,rfl,?_,.last h hlong⟩
      exact parse_packets_cons (hparse []) hlength fun n _ => by cases n <;> rfl

theorem segmented (hfits : packet.HeaderFits)
    (hlong : packet.mt ≠ mtData ∧ packet.payload.length > 255) : packet.Segments := by
  rcases fragments_parse hfits (packet.payload.length+1) 0 (by omega) (by omega) with
    ⟨bytes,segments,final,hsent,hparse,hremains⟩
  refine ⟨bytes,segments ++ [final],?_,hparse _ (Nat.le_refl _),by simp,?_⟩
  · rw [sendToClient, if_pos hlong, hsent]
  · exact {
      fields := fun frag hmem =>
        ⟨(hremains.fields frag hmem).1,(hremains.fields frag hmem).2.1,
          (hremains.fields frag hmem).2.2.1⟩
      short := fun _ frag hmem => (hremains.fields frag hmem).2.2.2.1
      whole := fun _ frag hmem => (hremains.fields frag hmem).2.2.2.2
      announced := fun _ => ⟨segments,final,rfl,hremains.announced,hremains.complete⟩
      payload := hremains.payload }

theorem unsegmented (hfits : packet.HeaderFits) (hlimit : packet.payload.length ≤ maxPayload)
    (hshort : ¬ (packet.mt ≠ mtData ∧ packet.payload.length > 255)) : packet.Segments := by
  have hkind : packet.mt = mtData ∨ packet.payload.length ≤ 255 := by
    by_cases hdata : packet.mt = mtData
    · exact Or.inl hdata
    · exact Or.inr (Nat.le_of_not_lt fun hlong => hshort ⟨hdata,hlong⟩)
  have hmt := (low_bits packet.mt).1 hfits.1
  have hgid := (low_bits packet.gid).2.2.1 hfits.2.1
  have hoid := (low_bits packet.oid).2.2.2 hfits.2.2
  have hwritten :
      packetSerialize packet maxPacket = some (wireHeader packet ++ packet.payload) := by
    rw [packet_serialize_eq, if_pos ⟨hlimit,hkind,Nat.add_le_add_left hlimit headerSize⟩]
  rcases serialize_frame hmt hwritten with ⟨hframe,hpacket⟩
  rw [hgid, hoid] at hpacket
  have hread : packetParse ((wireHeader packet ++ packet.payload) ++ []) =
      some ⟨packet.mt,packet.pbf &&& 0x01,packet.gid,packet.oid,packet.payload⟩ :=
    (parse_append hframe []).trans (congrArg some hpacket)
  have hparse := parse_packets_cons hread List.length_append
    (fun turns _ => by cases turns <;> rfl) _ (Nat.le_refl _)
  rw [List.append_nil] at hparse
  refine ⟨_,_,?_,hparse,List.cons_ne_nil _ _,?_⟩
  · rw [sendToClient, if_neg hshort, hwritten]
  · exact {
      fields := by simp
      short := fun hcontrol => by simpa using hkind.resolve_left hcontrol
      whole := fun hmany => absurd hmany (by simp)
      announced := fun hmany => absurd hmany (by simp)
      payload := List.append_nil _ }

theorem segments_of_fits (hfits : packet.HeaderFits)
    (hlimit : packet.payload.length ≤ maxPayload) : packet.Segments := by
  by_cases hlong : packet.mt ≠ mtData ∧ packet.payload.length > 255
  · exact segmented hfits hlong
  · exact unsegmented hfits hlimit hlong

theorem fits_of_segments (h : packet.Segments) : packet.HeaderFits := by
  rcases h with ⟨bytes,fragments,-,hparse,hsome,hcarried⟩
  rcases List.exists_mem_of_ne_nil fragments hsome with ⟨frag,hmem⟩
  rcases hcarried.fields frag hmem with ⟨hmt,hgid,hoid⟩
  have hfits := stream_header_fits hparse frag hmem
  unfold Packet.HeaderFits at hfits
  rwa [hmt, hgid, hoid] at hfits

theorem masked_fits (packet : Packet) : packet.masked.HeaderFits := by
  have hmt : ∀ b : UInt8, b &&& 0x03 < 4 := by
    intro b
    rcases byte_value b with ⟨n,rfl⟩
    revert n
    decide +kernel
  exact ⟨hmt _,(masked_fields _).2.1,(masked_fields _).2.2⟩

/-- The masked type is the data type for the same packets, the empty ones apart. -/
theorem KeepsKind.data_iff (h : packet.KeepsKind) (hsome : packet.payload ≠ []) :
    packet.mt &&& 0x03 = mtData ↔ packet.mt = mtData := by
  constructor
  · exact fun hmasked => (h hmasked).resolve_right hsome
  · intro hdata
    rw [hdata]
    decide

theorem serialize_masked (capacity : ℕ) (h : packet.KeepsKind) :
    packetSerialize packet.masked capacity = packetSerialize packet capacity := by
  have hheader : wireHeader packet.masked = wireHeader packet := by
    unfold wireHeader Packet.masked
    dsimp only
    rw [UInt8.and_assoc, UInt8.and_assoc, UInt8.and_assoc, UInt8.and_self, UInt8.and_self,
      UInt8.and_self]
    by_cases hsome : packet.payload = []
    · simp [hsome]
    · simp only [KeepsKind.data_iff h hsome]
  have hkind : packet.masked.mt = mtData ∨ packet.payload.length ≤ 255 ↔
      packet.mt = mtData ∨ packet.payload.length ≤ 255 := by
    by_cases hsome : packet.payload = []
    · simp [hsome]
    · exact or_congr_left (KeepsKind.data_iff h hsome)
  rw [packet_serialize_eq, packet_serialize_eq, hheader]
  exact if_congr (and_congr_right fun _ => and_congr_left fun _ => hkind) rfl rfl

theorem fragment_keeps_kind (payloadOffset : ℕ)
    (h : packet.mt &&& 0x03 = mtData → packet.mt = mtData) :
    (fragment packet payloadOffset).KeepsKind := fun hmasked => Or.inl (h hmasked)

theorem send_fragments_masked (h : packet.mt &&& 0x03 = mtData → packet.mt = mtData)
    (turns payloadOffset : ℕ) : sendFragments packet.masked turns payloadOffset =
      sendFragments packet turns payloadOffset := by
  induction turns generalizing payloadOffset with
  | zero => rfl
  | succ turns ih =>
    rw [sendFragments, sendFragments]
    dsimp only
    rw [show fragment packet.masked payloadOffset = (fragment packet payloadOffset).masked from rfl,
      serialize_masked _ (fragment_keeps_kind payloadOffset h), ih]
    rfl

theorem send_masked (h : packet.KeepsKind) :
    sendToClient packet.masked = sendToClient packet := by
  unfold sendToClient
  rw [serialize_masked _ h]
  by_cases hsome : packet.payload = []
  · have hshort : ∀ mt : UInt8, ¬ (mt ≠ mtData ∧ packet.payload.length > 255) := by
      intro mt
      rw [hsome]
      simp
    exact (if_neg (hshort packet.masked.mt)).trans (if_neg (hshort packet.mt)).symm
  · have hdata := KeepsKind.data_iff h hsome
    rw [send_fragments_masked hdata.mp]
    exact if_congr (and_congr_left fun _ => not_congr hdata) rfl rfl

theorem sent_masked (h : packet.KeepsKind) (hlimit : packet.payload.length ≤ maxPayload) :
    packet.SentAs packet.masked := by
  rcases segments_of_fits (masked_fits packet) hlimit with ⟨bytes,fragments,hsent,hrest⟩
  rw [send_masked h] at hsent
  exact ⟨bytes,fragments,hsent,hrest⟩

/-- A segment that reads as data states a length in the other byte. -/
theorem misread (hmasked : packet.mt &&& 0x03 = mtData) (hmt : packet.mt ≠ mtData)
    (hsome : packet.payload ≠ []) (hshort : packet.payload.length ≤ 255)
    {trailing : List UInt8} (htrailing : trailing = [] ∨ packet.payload.length = 255) :
    packetParse (wireHeader packet ++ packet.payload ++ trailing) = none := by
  have hpos := List.length_pos_iff.mpr hsome
  have hlength : headerLength (wireHeader packet ++ packet.payload ++ trailing) =
      256*packet.payload.length := by
    have hvalue : (UInt8.ofNat (packet.payload.length % 256)).toNat = packet.payload.length := by
      rw [Nat.mod_eq_of_lt (by omega)]
      exact UInt8.toNat_ofNat_of_lt' (show packet.payload.length < 256 by omega)
    rw [wireHeader, if_neg hmt, if_neg hmt, headerLength]
    change payloadLengthFromHeader (((((packet.mt &&& 0x03) <<< 5) |||
      ((packet.pbf &&& 0x01) <<< 4) ||| (packet.gid &&& 0x0F)) >>> 5) &&& 0x03) 0
        (UInt8.ofNat (packet.payload.length % 256)) = _
    rw [(header_byte packet.mt packet.pbf packet.gid).1, hmasked, payloadLengthFromHeader,
      if_pos rfl, data_length_value, hvalue]
    exact Nat.zero_add _
  have hbytes : (wireHeader packet ++ packet.payload ++ trailing).length =
      headerSize+packet.payload.length+trailing.length := by
    rw [List.length_append, List.length_append]
    rfl
  rw [packet_parse_eq, hlength, hbytes]
  rcases htrailing with rfl | hfull
  · rw [if_neg (by omega)]
    split
    · rfl
    · rw [if_pos (by simp only [List.length_nil]; omega)]
  · rw [if_neg (by omega), if_pos (by rw [hfull]; decide)]

theorem send_fragments_starts (turns payloadOffset : ℕ)
    (hturns : packet.payload.length-payloadOffset < turns) :
    ∃ bytes, sendFragments packet turns payloadOffset = some bytes ∧
      (payloadOffset < packet.payload.length →
        wireHeader (fragment packet payloadOffset) ++ (fragment packet payloadOffset).payload <+:
          bytes) := by
  induction turns generalizing payloadOffset with
  | zero => omega
  | succ turns ih =>
    rw [sendFragments]
    by_cases h : payloadOffset < packet.payload.length
    · have hshort : (fragment packet payloadOffset).payload.length ≤ 255 ∧
          0 < (fragment packet payloadOffset).payload.length := by
        simp only [fragment, List.length_take, List.length_drop]
        split <;> omega
      have hfits : headerSize+(fragment packet payloadOffset).payload.length ≤ maxPacket :=
        Nat.add_le_add_left (hshort.1.trans (by decide)) headerSize
      rcases ih (payloadOffset+(fragment packet payloadOffset).payload.length) (by omega) with
        ⟨more,hmore,-⟩
      rw [if_pos h]
      dsimp only
      rw [packet_serialize_eq, if_pos ⟨hshort.1.trans (by decide),Or.inr hshort.1,hfits⟩, hmore]
      exact ⟨_,rfl,fun _ => List.prefix_append _ _⟩
    · rw [if_neg h]
      exact ⟨[],rfl,fun hlt => absurd hlt h⟩

theorem sending_succeeds (hlimit : packet.payload.length ≤ maxPayload) :
    ∃ bytes, sendToClient packet = some bytes := by
  unfold sendToClient
  split
  · rcases send_fragments_starts (packet.payload.length+1) 0 (Nat.lt_succ_self _) with
      ⟨bytes,hsent,-⟩
    exact ⟨bytes,hsent⟩
  · rename_i hshort
    have hkind : packet.mt = mtData ∨ packet.payload.length ≤ 255 := by
      by_cases hdata : packet.mt = mtData
      · exact Or.inl hdata
      · exact Or.inr (Nat.le_of_not_lt fun hlong => hshort ⟨hdata,hlong⟩)
    rw [packet_serialize_eq, if_pos ⟨hlimit,hkind,Nat.add_le_add_left hlimit headerSize⟩]
    exact ⟨_,rfl⟩

theorem keeps_kind_of_sent {wire : Packet} (hlimit : packet.payload.length ≤ maxPayload)
    (h : packet.SentAs wire) : packet.KeepsKind := by
  intro hmasked
  by_contra hwide
  rw [not_or] at hwide
  rcases h with ⟨bytes,fragments,hsent,hparse,hsome,-⟩
  have hnone : packetParse bytes = none := by
    by_cases hlong : packet.payload.length > 255
    · rcases send_fragments_starts (packet.payload.length+1) 0 (Nat.lt_succ_self _) with
        ⟨bytes',hfragments,hstarts⟩
      rw [sendToClient, if_pos ⟨hwide.1,hlong⟩, hfragments] at hsent
      cases hsent
      rcases hstarts (by omega) with ⟨more,rfl⟩
      have hlength : (fragment packet 0).payload.length = 255 := by
        rw [fragment_long (by omega), List.length_take, List.length_drop]
        omega
      have hfragment : (fragment packet 0).payload ≠ [] :=
        List.ne_nil_of_length_pos (by omega)
      have hwide' : (fragment packet 0).mt ≠ mtData := hwide.1
      exact misread (show (fragment packet 0).mt &&& 0x03 = mtData from hmasked) hwide' hfragment
        (by omega) (Or.inr hlength)
    · rw [sendToClient, if_neg fun h => hlong h.2, packet_serialize_eq,
        if_pos ⟨hlimit,Or.inr (Nat.le_of_not_lt hlong),Nat.add_le_add_left hlimit headerSize⟩]
        at hsent
      cases hsent
      have hread := misread hmasked hwide.1 hwide.2 (Nat.le_of_not_lt hlong)
        (Or.inl (rfl : ([] : List UInt8) = []))
      rwa [List.append_nil] at hread
  cases bytes with
  | nil =>
    cases hparse
    exact hsome rfl
  | cons b bytes =>
    rw [parseStream, List.length_cons, parsePackets, hnone] at hparse
    cases hparse

end

/-- Of every packet of legal length: sending succeeds; the stream parses into fragments that
carry the packet cut to its header's fields, unless a wide type reads as data there; and they
carry the packet itself exactly when its type, group and opcode fit the fields. -/
theorem segments_iff (packet : Packet) (hlimit : packet.payload.length ≤ maxPayload) :
    (∃ bytes, sendToClient packet = some bytes) ∧
      (packet.SentAs packet.masked ↔ packet.KeepsKind) ∧
      (packet.Segments ↔ packet.HeaderFits) := by
  refine ⟨sending_succeeds hlimit,?_,?_⟩
  · exact ⟨keeps_kind_of_sent hlimit,fun h => sent_masked h hlimit⟩
  · exact ⟨fits_of_segments,fun h => segments_of_fits h hlimit⟩

/-- A response of a wide group in three segments, which carry a narrower one. -/
theorem three_segments :
    let packet : Packet := ⟨mtResponse,pbfComplete,0x12,coreGetCapsInfo,List.replicate 511 7⟩
    packet.SentAs packet.masked ∧ packet.masked.gid = 0x02 ∧ ¬ packet.Segments := by
  intro packet
  have hlimit : packet.payload.length ≤ maxPayload := by
    rw [List.length_replicate]
    decide
  rcases segments_iff packet hlimit with ⟨-,hmasked,hself⟩
  have hgid : packet.masked.gid = 0x02 := by decide
  exact ⟨hmasked.mpr (by decide),hgid,fun h => absurd (hself.mp h) (by decide)⟩

/-- A group that does not fit its four bits is sent as another one. -/
theorem wide_group_lost :
    sendToClient ⟨mtNotification,pbfComplete,0x12,0,[]⟩ =
      sendToClient ⟨mtNotification,pbfComplete,0x02,0,[]⟩ ∧
    ¬ Packet.Segments ⟨mtNotification,pbfComplete,0x12,0,[]⟩ :=
  ⟨by decide,fun h => absurd (fits_of_segments h) (by decide)⟩

end UciSim
