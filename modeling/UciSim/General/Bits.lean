import Mathlib.Data.Nat.Bitwise
import Mathlib.Order.Interval.Set.Basic

/-!
# Byte strings and masks as numbers

A byte string encodes an integer, least byte first. A mask stands for the set of
its bit positions, or for the set of the numbers made of its bits only.
-/

set_option autoImplicit false

namespace Bits

/-- The integer of a byte string, least byte first. -/
def littleEndian : List UInt8 → ℕ
  | [] => 0
  | b::bytes => b.toNat+256*littleEndian bytes

/-- The positions of the bits of a mask. -/
def positions (mask : ℕ) : Set ℕ := {n | mask.testBit n = true}

def submasks (mask : ℕ) : Set ℕ := {n | ∀ k, n.testBit k = true → mask.testBit k = true}

theorem little_endian_one (b : UInt8) : littleEndian [b] = b.toNat := by
  simp [littleEndian]

theorem little_endian_two (b0 b1 : UInt8) :
    littleEndian [b0,b1] = b0.toNat+256*b1.toNat := by
  simp [littleEndian]

theorem shifted_test {mask k : ℕ} : mask &&& 1 <<< k = 0 ↔ mask.testBit k = false := by
  rw [Nat.one_shiftLeft, Nat.and_two_pow]
  cases mask.testBit k <;> simp

theorem mem_positions_u8 (mask value : UInt8) :
    value < 8 ∧ mask &&& (1 <<< value) ≠ 0 ↔ value.toNat ∈ positions mask.toNat := by
  have hmask := UInt8.toNat_lt mask
  by_cases hv : value < 8
  · have hlt : value.toNat < 8 := hv
    have hpow : 2^value.toNat < 256 :=
      Nat.lt_of_lt_of_le (Nat.pow_lt_pow_right (by decide) hlt) (by decide)
    have hshift : (mask &&& (1 <<< value)).toNat = mask.toNat &&& 1 <<< value.toNat := by
      rw [UInt8.toNat_and, UInt8.toNat_shiftLeft, Nat.mod_eq_of_lt hlt]
      simp [Nat.one_shiftLeft, Nat.mod_eq_of_lt hpow]
    rw [and_iff_right hv, Ne, ← UInt8.toNat_inj, hshift]
    simp [positions, shifted_test]
  · have hle : 8 ≤ value.toNat := Nat.le_of_not_lt hv
    refine iff_of_false (fun h => hv h.1) ?_
    have hfar : mask.toNat.testBit value.toNat = false :=
      Nat.testBit_lt_two_pow (Nat.lt_of_lt_of_le hmask
        (Nat.pow_le_pow_right (by decide) hle))
    simp [positions, hfar]

theorem mem_positions_u16 (mask : UInt16) (value : UInt8) :
    value < 16 ∧ mask &&& (1 <<< value.toUInt16) ≠ 0 ↔
      value.toNat ∈ positions mask.toNat := by
  have hmask := UInt16.toNat_lt mask
  by_cases hv : value < 16
  · have hlt : value.toNat < 16 := hv
    have hpow : 2^value.toNat < 65536 :=
      Nat.lt_of_lt_of_le (Nat.pow_lt_pow_right (by decide) hlt) (by decide)
    have hshift : (mask &&& (1 <<< value.toUInt16)).toNat =
        mask.toNat &&& 1 <<< value.toNat := by
      rw [UInt16.toNat_and, UInt16.toNat_shiftLeft, UInt8.toNat_toUInt16, Nat.mod_eq_of_lt hlt]
      simp [Nat.one_shiftLeft, Nat.mod_eq_of_lt hpow]
    rw [and_iff_right hv, Ne, ← UInt16.toNat_inj, hshift]
    simp [positions, shifted_test]
  · have hle : 16 ≤ value.toNat := Nat.le_of_not_lt hv
    refine iff_of_false (fun h => hv h.1) ?_
    have hfar : mask.toNat.testBit value.toNat = false :=
      Nat.testBit_lt_two_pow (Nat.lt_of_lt_of_le hmask
        (Nat.pow_le_pow_right (by decide) hle))
    simp [positions, hfar]

theorem mem_submasks_u8 (mask value : UInt8) :
    value &&& ~~~mask = 0 ↔ value.toNat ∈ submasks mask.toNat := by
  have hv := UInt8.toNat_lt value
  have hcomplement : ∀ k, (value &&& ~~~mask).toNat.testBit k =
      (value.toNat.testBit k && !mask.toNat.testBit k) := by
    intro k
    rw [UInt8.toNat_and, UInt8.toNat_not, Nat.testBit_and,
      show UInt8.size-1-mask.toNat = 2^8-(mask.toNat+1) by
        rw [show UInt8.size = 2^8 from rfl]
        omega, Nat.testBit_two_pow_sub_succ (UInt8.toNat_lt mask)]
    by_cases hk : k < 8
    · simp [hk]
    · have hfar : value.toNat.testBit k = false :=
        Nat.testBit_lt_two_pow (Nat.lt_of_lt_of_le hv
          (Nat.pow_le_pow_right (by decide) (Nat.le_of_not_lt hk)))
      simp [hfar]
  rw [← UInt8.toNat_inj]
  constructor
  · intro h k hk
    have hzero := hcomplement k
    rw [h] at hzero
    simpa [hk] using hzero
  · intro h
    apply Nat.eq_of_testBit_eq
    intro k
    rw [hcomplement]
    by_cases hk : value.toNat.testBit k = true
    · simp [hk, h k hk]
    · simp [hk]

end Bits
