import Mathlib.Data.Nat.Bitwise

/-!
# Bits of bytes and words

A mask of low bits leaves a remainder, and a flag is a bit of the number. The registers of
the video processor, the words of its tables and the opcodes are all read in this way.
-/
namespace FantasyConsole

section Words

variable (a : UInt16) {k : Nat}

theorem toNat_and_mask {mask : UInt16} (h : mask.toNat = 2 ^ k - 1) :
    (a &&& mask).toNat = a.toNat % 2 ^ k := by
  rw [UInt16.toNat_and, h, Nat.and_two_pow_sub_one_eq_mod]

theorem and_bit_ne_zero {bit : UInt16} (h : bit.toNat = 2 ^ k) :
    (a &&& bit != 0) = a.toNat.testBit k := by
  have hn : (a &&& bit).toNat = (a.toNat.testBit k).toNat * 2 ^ k := by
    rw [UInt16.toNat_and, h, Nat.and_two_pow]
  rw [Bool.eq_iff_iff, bne_iff_ne, ne_eq, ← UInt16.toNat_inj, hn]
  cases a.toNat.testBit k <;> simp

end Words

section Bytes

variable (b : UInt8) {k : Nat}

theorem byte_toNat_and_mask {mask : UInt8} (h : mask.toNat = 2 ^ k - 1) :
    (b &&& mask).toNat = b.toNat % 2 ^ k := by
  rw [UInt8.toNat_and, h, Nat.and_two_pow_sub_one_eq_mod]

theorem byte_and_bit_ne_zero {bit : UInt8} (h : bit.toNat = 2 ^ k) :
    (b &&& bit != 0) = b.toNat.testBit k := by
  have hn : (b &&& bit).toNat = (b.toNat.testBit k).toNat * 2 ^ k := by
    rw [UInt8.toNat_and, h, Nat.and_two_pow]
  rw [Bool.eq_iff_iff, bne_iff_ne, ne_eq, ← UInt8.toNat_inj, hn]
  cases b.toNat.testBit k <;> simp

theorem and_highBit_ne_zero : (b &&& 0x80 != 0) = decide (128 ≤ b) := by
  have hb := b.toNat_lt
  have h128 : (128 : UInt8).toNat = 128 := rfl
  rw [byte_and_bit_ne_zero b (k := 7) h128, Nat.testBit_eq_decide_div_mod_eq, decide_eq_decide,
    UInt8.le_iff_toNat_le, h128]
  omega

theorem shiftRight_and_one_ne_zero (place : UInt8) (h : place.toNat < 8) :
    (b >>> place &&& 1 != 0) = b.toNat.testBit place.toNat := by
  have h1 : (b >>> place &&& 1).toNat = (b.toNat >>> place.toNat) &&& 1 := by
    rw [UInt8.toNat_and, UInt8.toNat_shiftRight, Nat.mod_eq_of_lt h]
    rfl
  rw [Nat.testBit, Nat.and_comm, ← h1, Bool.eq_iff_iff, bne_iff_ne, bne_iff_ne]
  exact not_congr UInt8.toNat_inj.symm

end Bytes

end FantasyConsole
