import UciSim.Spec
import Mathlib.Tactic.IntervalCases
import Mathlib.Order.Basic

/-!
# Packets and their wire form

A packet carries its payload as the list of its `payload_len` bytes. Control
packets state their length in one byte, data packets in two.
-/

set_option autoImplicit false

namespace UciSim

structure Packet where
  mt : UInt8
  pbf : UInt8
  gid : UInt8
  oid : UInt8
  payload : List UInt8
  deriving DecidableEq, Repr

def byteAt (bytes : List UInt8) (i : ℕ) : UInt8 := bytes.getD i 0

def readU16Le (bytes : List UInt8) (i : ℕ) : UInt16 :=
  (byteAt bytes i).toUInt16 ||| ((byteAt bytes (i+1)).toUInt16 <<< 8)

def readU32Le (bytes : List UInt8) (i : ℕ) : UInt32 :=
  (byteAt bytes i).toUInt32 ||| ((byteAt bytes (i+1)).toUInt32 <<< 8) |||
    ((byteAt bytes (i+2)).toUInt32 <<< 16) ||| ((byteAt bytes (i+3)).toUInt32 <<< 24)

def writeU16Le (value : UInt16) : List UInt8 :=
  [(value &&& 0xFF).toUInt8, ((value >>> 8) &&& 0xFF).toUInt8]

def writeU32Le (value : UInt32) : List UInt8 :=
  [(value &&& 0xFF).toUInt8, ((value >>> 8) &&& 0xFF).toUInt8,
    ((value >>> 16) &&& 0xFF).toUInt8, ((value >>> 24) &&& 0xFF).toUInt8]

def writeU64Le (value : UInt64) : List UInt8 :=
  [(value &&& 0xFF).toUInt8, ((value >>> 8) &&& 0xFF).toUInt8,
    ((value >>> 16) &&& 0xFF).toUInt8, ((value >>> 24) &&& 0xFF).toUInt8,
    ((value >>> 32) &&& 0xFF).toUInt8, ((value >>> 40) &&& 0xFF).toUInt8,
    ((value >>> 48) &&& 0xFF).toUInt8, ((value >>> 56) &&& 0xFF).toUInt8]

@[simp] theorem write_u32_le_length (value : UInt32) : (writeU32Le value).length = 4 := rfl

theorem byte_masked (n : ℕ) : n % 256 &&& 255 = n % 256 := by
  have h := Nat.and_two_pow_sub_one_eq_mod (n % 256) 8
  simpa using h

theorem bytes_joined (n : ℕ) (h : n < 2^32) :
    n % 256 ||| (n >>> 8 % 256) <<< 8 ||| (n >>> 16 % 256) <<< 16 |||
      (n >>> 24 % 256) <<< 24 = n := by
  apply Nat.eq_of_testBit_eq
  intro i
  have h8 : (256 : ℕ) = 2^8 := rfl
  simp only [h8, Nat.testBit_or, Nat.testBit_shiftLeft, Nat.testBit_mod_two_pow,
    Nat.testBit_shiftRight]
  by_cases hi : i < 32
  · interval_cases i <;> simp
  · have hn : n.testBit i = false :=
      Nat.testBit_lt_two_pow (lt_of_lt_of_le h (Nat.pow_le_pow_right (by decide) (by omega)))
    simp only [hn]
    simp
    omega

/-- A little-endian word reads back whatever bytes follow it. -/
theorem read_write_u32_le (value : UInt32) (rest : List UInt8) :
    readU32Le (writeU32Le value ++ rest) 0 = value := by
  have fits : ∀ m k : ℕ, k ≤ 24 → (m % 256) <<< k % 4294967296 = (m % 256) <<< k := by
    intro m k hk
    apply Nat.mod_eq_of_lt
    rw [Nat.shiftLeft_eq]
    calc
      m % 256 * 2^k ≤ m % 256 * 2^24 := Nat.mul_le_mul_left _ (Nat.pow_le_pow_right (by decide) hk)
      _ < 4294967296 := by omega
  apply UInt32.toNat_inj.mp
  simp [readU32Le, writeU32Le, byteAt, byte_masked, fits]
  exact bytes_joined value.toNat (UInt32.toNat_lt value)

def payloadLengthFromHeader (mt third fourth : UInt8) : ℕ :=
  if mt = mtData then (third.toUInt16 ||| (fourth.toUInt16 <<< 8)).toNat else fourth.toNat

/-- `buffer` is the `buffer_len` bytes handed to the parser. -/
def packetParse (buffer : List UInt8) : Option Packet :=
  match buffer with
  | b0::b1::b2::b3::body =>
    let mt := (b0 >>> 5) &&& 0x03
    let len := payloadLengthFromHeader mt b2 b3
    if len > maxPayload then none
    else if body.length < len then none
    else some {
      mt := mt
      pbf := (b0 >>> 4) &&& 0x01
      gid := b0 &&& 0x0F
      oid := b1 &&& 0x3F
      payload := body.take len }
  | _ => none

def packetSerialize (packet : Packet) (capacity : ℕ) : Option (List UInt8) :=
  let len := packet.payload.length
  if len > maxPayload then none
  else if packet.mt ≠ mtData ∧ len > 255 then none
  else if capacity < headerSize+len then none
  else
    let b0 := ((packet.mt &&& 0x03) <<< 5) ||| ((packet.pbf &&& 0x01) <<< 4) |||
      (packet.gid &&& 0x0F)
    let b1 := packet.oid &&& 0x3F
    let lengthBytes : List UInt8 :=
      if packet.mt = mtData then [UInt8.ofNat (len % 256), UInt8.ofNat (len / 256 % 256)]
      else [0, UInt8.ofNat (len % 256)]
    some ([b0, b1] ++ lengthBytes ++ packet.payload)

end UciSim
