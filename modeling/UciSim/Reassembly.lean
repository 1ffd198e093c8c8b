import UciSim.SameSubmissions

/-!
# Reassembly of the chardev

The reads a stream arrives in do not show in the packets submitted. After a
call that succeeds the accumulator holds the start of one packet, and it never
outgrows its buffer.
-/

set_option autoImplicit false

namespace UciSim

open Framing

namespace Chardev

/-- What waits is the start of one packet that is still incomplete. -/
def HoldsPart {σ : Type} (dev : Chardev σ) : Prop :=
  dev.stream.length < headerSize+255 ∧
    ∃ missing, missing ≠ [] ∧ Frame chardevCutter (dev.stream ++ missing)

/-- A header whose unknown bytes are zero states a length the chardev accepts. -/
theorem padded_header {s : List UInt8} (h : s.length < headerSize) :
    headerLength (s ++ List.replicate (headerSize-s.length) 0) ≤ 255 := by
  have hbyte : ∀ mt b : UInt8, payloadLengthFromHeader mt b 0 ≤ 255 := by
    intro mt b
    have hb := b.toNat_lt
    unfold payloadLengthFromHeader
    split
    · rw [show (0 : UInt8).toUInt16 <<< 8 = 0 from rfl, UInt16.or_zero, UInt8.toNat_toUInt16]
      omega
    · decide
  match s, h with
  | [], _ => exact hbyte _ _
  | [_], _ => exact hbyte _ _
  | [_,_], _ => exact hbyte _ _
  | [_,_,_], _ => exact hbyte _ _
  | _::_::_::_::_, h =>
    simp only [List.length_cons, headerSize] at h
    omega

theorem frame_of_header {s : List UInt8} (hheader : headerSize ≤ s.length)
    (hlimit : headerLength s ≤ 255) (hshort : s.length ≤ headerSize+headerLength s) :
    Frame chardevCutter (s ++ List.replicate (headerSize+headerLength s-s.length) 0) := by
  refine wire_frame.mpr ?_
  rw [header_length_append _ hheader, List.length_append, List.length_replicate]
  omega

theorem short_part {s : List UInt8} (h : wireFront 255 s = .short) :
    s.length < headerSize+255 ∧ ∃ missing, missing ≠ [] ∧ Frame chardevCutter (s ++ missing) := by
  by_cases hheader : s.length < headerSize
  · have hpadded : (s ++ List.replicate (headerSize-s.length) 0).length = headerSize := by
      rw [List.length_append, List.length_replicate]
      omega
    have hframe := frame_of_header hpadded.ge (padded_header hheader) (by omega)
    rw [List.append_assoc] at hframe
    refine ⟨by omega,_,?_,hframe⟩
    intro hnil
    have hlength := congrArg List.length (List.append_eq_nil_iff.mp hnil).1
    rw [List.length_replicate, List.length_nil] at hlength
    omega
  · unfold wireFront at h
    rw [if_neg hheader] at h
    split at h
    · cases h
    rename_i hlimit
    split at h
    · rename_i hbody
      refine ⟨by omega,_,?_,frame_of_header (by omega) (by omega) (by omega)⟩
      intro hnil
      have hlength := congrArg List.length hnil
      rw [List.length_replicate, List.length_nil] at hlength
      omega
    · cases h

variable {σ : Type} {submit : σ → Packet → Rc × σ} {dev : Chardev σ}

theorem rest_short (h : wireFront 255 dev.rest ≠ .invalid) : wireFront 255 dev.rest = .short := by
  have huncut : Uncut chardevCutter dev.rest := cut_rest dev.stream
  cases hfront : wireFront 255 dev.rest with
  | short => rfl
  | invalid => exact absurd hfront h
  | complete n => exact absurd hfront (huncut n)

theorem receive_part {bytes : List UInt8} (h : (dev.receive submit bytes).1 = .ok) :
    (dev.receive submit bytes).2.HoldsPart := by
  have hfeed : dev.receive submit bytes = (dev.append bytes).streamFeedToEngine submit := rfl
  rw [hfeed, stream_feed_eq] at h ⊢
  split at h
  · rename_i hcommits
    rw [if_pos hcommits]
    exact short_part (rest_short hcommits.2)
  · cases h

theorem append_bounded (h : dev.stream.length ≤ maxPacket) (bytes : List UInt8) :
    (dev.append bytes).stream.length ≤ maxPacket := by
  show (dev.stream ++ bytes.take _).length ≤ maxPacket
  rw [List.length_append, List.length_take]
  split <;> omega

theorem rest_bounded : dev.rest.length ≤ dev.stream.length := by
  have hjoin := congrArg List.length (cut_join (c := chardevCutter) dev.stream)
  rw [List.length_append] at hjoin
  change _+dev.rest.length = _ at hjoin
  omega

theorem step_bounded (bytes : List UInt8) (h : dev.stream.length ≤ maxPacket) :
    (dev.step submit bytes).stream.length ≤ maxPacket := by
  have happend := append_bounded h bytes
  rw [step_eq]
  split
  · exact rest_bounded.trans happend
  · exact happend

theorem run_bounded (chunks : List (List UInt8)) (h : dev.stream.length ≤ maxPacket) :
    (dev.run submit chunks).stream.length ≤ maxPacket :=
  Runs.invariant_of_all_steps (I := fun dev : Chardev σ => dev.stream.length ≤ maxPacket)
    (fun _ bytes => step_bounded bytes) dev chunks h

variable {engine : σ} {packets chunks : List (List UInt8)} {received : List UInt8}

theorem arrived_packets (hpackets : ∀ f ∈ packets, Frame chardevCutter f) {more : List UInt8}
    (h : received ++ more = packets.flatten) :
    ∃ gs, packets = (cut chardevCutter received).1 ++ gs := by
  by_cases hmore : more = []
  · rw [hmore, List.append_nil] at h
    refine ⟨[],?_⟩
    rw [h, cut_flatten hpackets, List.append_nil]
  · rcases cut_part hpackets h hmore with ⟨gs,-,hgs⟩
    exact ⟨gs,hgs⟩

theorem arrived_accepted (hpackets : ∀ f ∈ packets, Frame chardevCutter f) {more : List UInt8}
    (h : received ++ more = packets.flatten)
    (haccepted : (offer submit engine (packetsFrom 0 packets)).1 = .ok) :
    (offer submit engine (packetsFrom 0 (cut chardevCutter received).1)).1 = .ok := by
  rcases arrived_packets hpackets h with ⟨gs,hgs⟩
  rw [hgs, packets_from_append, offer_append] at haccepted
  by_contra hrefused
  rw [if_neg hrefused] at haccepted
  exact hrefused haccepted

theorem current_accepted (hpackets : ∀ f ∈ packets, Frame chardevCutter f)
    (haccepted : (offer submit engine (packetsFrom 0 packets)).1 = .ok)
    (h : Current submit engine received dev) (hjoin : received ++ chunks.flatten = packets.flatten)
    (hfits : Runs.Along (step submit) Fits dev chunks) :
    Current submit engine packets.flatten (dev.run submit chunks) := by
  induction chunks generalizing dev received with
  | nil =>
    rw [List.flatten_nil, List.append_nil] at hjoin
    rw [← hjoin]
    exact h
  | cons bytes chunks ih =>
    have hjoin' : (received ++ bytes) ++ chunks.flatten = packets.flatten := by
      rw [← hjoin, List.flatten_cons, List.append_assoc]
    have hok := arrived_accepted hpackets hjoin' haccepted
    rw [h.received_offer hfits.1] at hok
    have hvalid := cut_part_valid (by decide) hpackets hjoin'
    rw [h.received_cut hfits.1] at hvalid
    exact ih (h.step hfits.1 ⟨hok,hvalid⟩) hjoin' hfits.2

theorem packets_from_packets (base : ℕ) (frames : List (List UInt8)) :
    (packetsFrom base frames).map Prod.snd = frames.map packetOf := by
  induction frames generalizing base with
  | nil => rfl
  | cons f frames ih => rw [packets_from_cons, List.map_cons, List.map_cons, ih]

end Chardev

open Chardev in
/-- Packets the chardev accepts and the engine does not refuse are submitted in order, however
they are split into reads that fit. Whatever the reads, the accumulator stays in its buffer, and
a call that succeeds leaves the start of one packet. -/
theorem reassembled {σ : Type} (submit : σ → Packet → Rc × σ) (engine : σ) :
    (∀ packets chunks : List (List UInt8),
      (∀ f ∈ packets, WirePacket f ∧ f.length ≤ headerSize+255) →
      (offer submit engine (packetsFrom 0 packets)).1 = .ok →
      chunks.flatten = packets.flatten →
      Runs.Along (step submit) Fits (.start engine) chunks →
        (run submit (.start engine) chunks).submitted.map Prod.snd = packets.map packetOf ∧
          (run submit (.start engine) chunks).stream = []) ∧
    ∀ chunks : List (List UInt8),
      (run submit (.start engine) chunks).stream.length ≤ maxPacket ∧
        ∀ bytes, ((run submit (.start engine) chunks).receive submit bytes).1 = .ok →
          ((run submit (.start engine) chunks).receive submit bytes).2.HoldsPart := by
  constructor
  · intro packets chunks hpackets haccepted hjoin hfits
    have hframes : ∀ f ∈ packets, Frame chardevCutter f :=
      fun f hf => (short_frame (hpackets f hf).1).mp (hpackets f hf).2
    have hstart : Current submit engine [] (.start engine) := ⟨rfl,rfl,rfl⟩
    have hcurrent : Current submit engine packets.flatten (run submit (.start engine) chunks) :=
      current_accepted hframes haccepted hstart hjoin hfits
    rw [hcurrent.submitted_eq, hcurrent.stream, cut_flatten hframes, packets_from_packets]
    exact ⟨rfl,rfl⟩
  · intro chunks
    exact ⟨run_bounded chunks (Nat.zero_le _),fun bytes => receive_part⟩

/-- The bytes of two commands that open session 1 and start it. -/
def openingPackets : List (List UInt8) :=
  [[0x21,0x00,0x00,0x05,1,0,0,0,0],[0x22,0x00,0x00,0x04,1,0,0,0]]

open Chardev in
/-- The engine is handed both, the second one behind a read that ends within its header. -/
theorem opening_reassembled :
    let dev := run Engine.submit (.start (Engine.initWithProfile defaultProfile .default))
      [[0x21,0x00],[0x00,0x05,1,0,0,0,0,0x22,0x00],[0x00,0x04,1,0,0,0]]
    dev.submitted.map Prod.snd = openingPackets.map packetOf ∧ dev.stream = [] :=
  (reassembled Engine.submit (Engine.initWithProfile defaultProfile .default)).1 openingPackets
    [[0x21,0x00],[0x00,0x05,1,0,0,0,0,0x22,0x00],[0x00,0x04,1,0,0,0]] (by decide +kernel)
    (by decide +kernel) (by decide) (by decide +kernel)

end UciSim
