import UciSim.Wire
import UciSim.General.Runs

/-!
# The chardev transport

Bytes from the host wait in an accumulator until their packets are complete.
Whatever answers the packets is a parameter: the engine, or any sequence of
results. `base` counts the bytes consumed so far and `submitted` keeps every
submission with the place of its packet in the byte stream.
-/

set_option autoImplicit false

namespace UciSim

open Framing

structure Chardev (σ : Type) where
  engine : σ
  stream : List UInt8
  base : ℕ
  submitted : List (ℕ × Packet)

namespace Chardev

variable {σ : Type} (submit : σ → Packet → Rc × σ)

def start (engine : σ) : Chardev σ := ⟨engine,[],0,[]⟩

/-- The tail of the accumulator moves to its front. -/
def compact (dev : Chardev σ) (consumed : ℕ) : Chardev σ :=
  { dev with stream := dev.stream.drop consumed, base := dev.base+consumed }

def submitAt (dev : Chardev σ) (consumed : ℕ) (packet : Packet) : Rc × Chardev σ :=
  let (rc,engine) := submit dev.engine packet
  (rc,{ dev with engine := engine, submitted := dev.submitted ++ [(dev.base+consumed,packet)] })

/-- The payload length as the chardev reads it from the header at a place of the accumulator. -/
def payloadLenAt (stream : List UInt8) (consumed : ℕ) : UInt16 :=
  let mt := (byteAt stream consumed >>> 5) &&& 0x03
  if mt = mtData then
    (byteAt stream (consumed+2)).toUInt16 ||| ((byteAt stream (consumed+3)).toUInt16 <<< 8)
  else (byteAt stream (consumed+3)).toUInt16

def feedLoop : ℕ → ℕ → Chardev σ → Rc × Chardev σ
  | 0, _, dev => (.err,dev)
  | turns+1, consumed, dev =>
    if consumed > dev.stream.length then (.err,dev)
    else
      let avail := dev.stream.length-consumed
      if avail < headerSize then (.ok,dev.compact consumed)
      else
        let plen := payloadLenAt dev.stream consumed
        if plen > 255 then (.err,dev)
        else
          let pktTotal := headerSize+plen.toNat
          if avail < pktTotal then (.ok,dev.compact consumed)
          else match packetParse ((dev.stream.drop consumed).take pktTotal) with
            | none => (.err,dev)
            | some packet =>
              match dev.submitAt submit consumed packet with
              | (.err,dev) => (.err,dev)
              | (.ok,dev) => feedLoop turns (consumed+pktTotal) dev

def streamFeedToEngine (dev : Chardev σ) : Rc × Chardev σ :=
  feedLoop submit (dev.stream.length+1) 0 dev

/-- The bytes that do not fit the accumulator are dropped. -/
def append (dev : Chardev σ) (bytes : List UInt8) : Chardev σ :=
  let copyLen :=
    if dev.stream.length+bytes.length > maxPacket then maxPacket-dev.stream.length
    else bytes.length
  { dev with stream := dev.stream ++ bytes.take copyLen }

def receive (dev : Chardev σ) (bytes : List UInt8) : Rc × Chardev σ :=
  (dev.append bytes).streamFeedToEngine submit

end Chardev

abbrev chardevCutter : Cutter UInt8 := wireCutter 255

/-- The packets of the frames, each with its place in the stream. -/
def packetsFrom (base : ℕ) (frames : List (List UInt8)) : List (ℕ × Packet) :=
  (located base frames).map fun f => (f.1,packetOf f.2)

/-- The packets are submitted in turn until one is refused. -/
def offer {σ : Type} (submit : σ → Packet → Rc × σ) :
    σ → List (ℕ × Packet) → Rc × σ × List (ℕ × Packet)
  | engine, [] => (.ok,engine,[])
  | engine, p::ps =>
    match submit engine p.2 with
    | (.err,engine) => (.err,engine,[p])
    | (.ok,engine) => ((offer submit engine ps).1,(offer submit engine ps).2.1,
        p::(offer submit engine ps).2.2)

section

variable {σ : Type} {submit : σ → Packet → Rc × σ}

theorem offer_cons (engine : σ) (p : ℕ × Packet) (ps : List (ℕ × Packet)) :
    offer submit engine (p::ps) =
      match submit engine p.2 with
      | (.err,engine) => (.err,engine,[p])
      | (.ok,engine) => ((offer submit engine ps).1,(offer submit engine ps).2.1,
          p::(offer submit engine ps).2.2) := rfl

theorem packets_from_cons (base : ℕ) (f : List UInt8) (fs : List (List UInt8)) :
    packetsFrom base (f::fs) = (base,packetOf f) :: packetsFrom (base+f.length) fs := rfl

end

namespace Chardev

variable {σ : Type} (submit : σ → Packet → Rc × σ)

def frames (dev : Chardev σ) : List (List UInt8) := (cut chardevCutter dev.stream).1

def rest (dev : Chardev σ) : List UInt8 := (cut chardevCutter dev.stream).2

/-- The complete packets of the accumulator. -/
def batch (dev : Chardev σ) : List (ℕ × Packet) := packetsFrom dev.base dev.frames

def offered (dev : Chardev σ) : Rc × σ × List (ℕ × Packet) := offer submit dev.engine dev.batch

/-- The call consumes what it submits. -/
def Commits (dev : Chardev σ) : Prop :=
  (dev.offered submit).1 = .ok ∧ wireFront 255 dev.rest ≠ .invalid

instance (dev : Chardev σ) : Decidable (dev.Commits submit) :=
  inferInstanceAs (Decidable (_ ∧ _))

variable {submit}

theorem byte_at_drop (bytes : List UInt8) (n i : ℕ) :
    byteAt (bytes.drop n) i = byteAt bytes (n+i) := by
  simp [byteAt, List.getD_eq_getElem?_getD]

theorem payload_len_at (stream : List UInt8) (consumed : ℕ) :
    (payloadLenAt stream consumed).toNat = headerLength (stream.drop consumed) := by
  unfold payloadLenAt headerLength payloadLengthFromHeader
  rw [byte_at_drop, byte_at_drop, byte_at_drop]
  by_cases hmt : (byteAt stream consumed >>> 5) &&& 0x03 = mtData
  · simp only [Nat.add_zero, hmt, if_true]
  · simp only [Nat.add_zero, hmt, if_false]
    exact UInt8.toNat_toUInt16 _

theorem plen_exceeds {plen : UInt16} : plen > 255 ↔ plen.toNat > 255 := UInt16.lt_iff_toNat_lt

theorem feed_loop_front (turns consumed : ℕ) (dev : Chardev σ) (h : consumed ≤ dev.stream.length) :
    feedLoop submit (turns+1) consumed dev =
      match wireFront 255 (dev.stream.drop consumed) with
      | .short => (.ok,dev.compact consumed)
      | .invalid => (.err,dev)
      | .complete n =>
        match dev.submitAt submit consumed (packetOf ((dev.stream.drop consumed).take n)) with
        | (.err,dev) => (.err,dev)
        | (.ok,dev) => feedLoop submit turns (consumed+n) dev := by
  have hlength : (dev.stream.drop consumed).length = dev.stream.length-consumed :=
    List.length_drop
  have hplen := payload_len_at dev.stream consumed
  rw [feedLoop, if_neg (by omega), wireFront, hlength]
  by_cases havail : dev.stream.length-consumed < headerSize
  · rw [if_pos havail, if_pos havail]
  rw [if_neg havail, if_neg havail]
  by_cases hlimit : headerLength (dev.stream.drop consumed) > 255
  · rw [if_pos hlimit, if_pos (plen_exceeds.mpr (hplen ▸ hlimit))]
  rw [if_neg hlimit, if_neg (fun h => hlimit (hplen ▸ plen_exceeds.mp h)), hplen]
  by_cases hbody : dev.stream.length-consumed < headerSize+headerLength (dev.stream.drop consumed)
  · rw [if_pos hbody, if_pos hbody]
  rw [if_neg hbody, if_neg hbody]
  have hfront : chardevCutter.front (dev.stream.drop consumed) =
      .complete (headerSize+headerLength (dev.stream.drop consumed)) :=
    wire_front_complete.mpr ⟨by omega,by omega,by omega,rfl⟩
  have hframe : Frame chardevCutter ((dev.stream.drop consumed).take
      (headerSize+headerLength (dev.stream.drop consumed))) := front_frame hfront
  rw [frame_parse (by decide) hframe]

theorem feed_loop_eq (turns consumed : ℕ) (dev : Chardev σ) (h : consumed ≤ dev.stream.length)
    (hturns : dev.stream.length-consumed < turns) :
    feedLoop submit turns consumed dev =
      let cutting := cut chardevCutter (dev.stream.drop consumed)
      let offered := offer submit dev.engine (packetsFrom (dev.base+consumed) cutting.1)
      if offered.1 = .ok ∧ wireFront 255 cutting.2 ≠ .invalid then
        (.ok,⟨offered.2.1,cutting.2,dev.base+consumed+cutting.1.flatten.length,
          dev.submitted ++ offered.2.2⟩)
      else (.err,⟨offered.2.1,dev.stream,dev.base,dev.submitted ++ offered.2.2⟩) := by
  induction turns generalizing consumed dev with
  | zero => omega
  | succ turns ih =>
    rw [feed_loop_front turns consumed dev h]
    split
    · rename_i hshort
      have huncut : Uncut chardevCutter (dev.stream.drop consumed) := by
        intro n hn
        exact absurd (hshort.symm.trans hn) (by simp)
      rw [cut_uncut huncut]
      simp [packetsFrom, located, offer, hshort, compact]
    · rename_i hinvalid
      have huncut : Uncut chardevCutter (dev.stream.drop consumed) := by
        intro n hn
        exact absurd (hinvalid.symm.trans hn) (by simp)
      rw [cut_uncut huncut]
      simp [packetsFrom, located, offer, hinvalid]
    · rename_i n hn
      have hfits := chardevCutter.fits _ n hn
      have htake : ((dev.stream.drop consumed).take n).length = n := by
        rw [List.length_take]
        omega
      rw [List.length_drop] at hfits
      rw [cut_complete hn]
      simp only [packets_from_cons, offer_cons, List.flatten_cons, List.length_append, htake,
        List.drop_drop, submitAt]
      rcases submit dev.engine (packetOf ((dev.stream.drop consumed).take n)) with ⟨rc,engine⟩
      cases rc with
      | err => simp
      | ok =>
        simp only
        rw [ih (consumed+n) _ (by simp only; omega) (by simp only; omega)]
        simp only [List.append_assoc, List.singleton_append, Nat.add_assoc]

theorem stream_feed_eq (dev : Chardev σ) :
    dev.streamFeedToEngine submit =
      if dev.Commits submit then
        (.ok,⟨(dev.offered submit).2.1,dev.rest,dev.base+dev.frames.flatten.length,
          dev.submitted ++ (dev.offered submit).2.2⟩)
      else (.err,⟨(dev.offered submit).2.1,dev.stream,dev.base,
        dev.submitted ++ (dev.offered submit).2.2⟩) :=
  feed_loop_eq (dev.stream.length+1) 0 dev (Nat.zero_le _) (by omega)

end Chardev

end UciSim
