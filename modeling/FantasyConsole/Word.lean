/-!
# Bytes and words

A word is two bytes, high byte first. Displacements are signed bytes, and all
arithmetic on addresses wraps at the width of its operands. As text, bytes and words
are written in lower case hexadecimal with a fixed number of digits.
-/
namespace FantasyConsole

/-- The word with the given high and low bytes. -/
@[inline] def word (high low : UInt8) : UInt16 := high.toUInt16 <<< 8 ||| low.toUInt16

@[inline] def highByte (w : UInt16) : UInt8 := (w >>> 8).toUInt8

@[inline] def lowByte (w : UInt16) : UInt8 := w.toUInt8

/-- The address `displacement` bytes after `base`, reading the displacement as a signed byte. -/
@[inline] def displace (base : UInt16) (displacement : UInt8) : UInt16 :=
  if displacement < 128 then base + displacement.toUInt16
  else base + (displacement.toUInt16 ||| 0xFF00)

theorem ofNat_succ_ne_zero {i : Nat} (h : i + 1 < 256) : UInt8.ofNat (i + 1) ≠ 0 := by
  intro hz
  have hn := congrArg UInt8.toNat hz
  rw [UInt8.toNat_ofNat_of_lt' h] at hn
  exact Nat.succ_ne_zero i hn

/-- A byte that goes up comes nearer to any other byte, whether it wraps on the way or not. -/
theorem toNat_sub_of_ne {i stop : UInt8} (h : i ≠ stop) :
    (stop - i).toNat = (stop - (i + 1)).toNat + 1 := by
  have hne : i.toNat ≠ stop.toNat := fun hn => h (UInt8.toNat_inj.mp hn)
  have hi := i.toNat_lt
  have hs := stop.toNat_lt
  have hone : (1 : UInt8).toNat = 1 := by decide
  rw [UInt8.toNat_sub, UInt8.toNat_sub, UInt8.toNat_add, hone]
  omega

theorem toNat_highByte (w : UInt16) : (highByte w).toNat = w.toNat / 256 := by
  have h := w.toNat_lt
  simp only [highByte, UInt16.toNat_toUInt8, UInt16.toNat_shiftRight]
  have he : (8 : UInt16).toNat % 16 = 8 := by decide
  rw [he, Nat.shiftRight_eq_div_pow]
  omega

theorem toNat_lowByte (w : UInt16) : (lowByte w).toNat = w.toNat % 256 := by
  simp [lowByte]

theorem toNat_word (high low : UInt8) : (word high low).toNat = high.toNat * 256 + low.toNat := by
  have hh := high.toNat_lt
  have hl := low.toNat_lt
  have he : (8 : UInt16).toNat % 16 = 8 := by decide
  have hs : (high.toUInt16 <<< 8 : UInt16).toNat = high.toNat * 256 := by
    rw [UInt16.toNat_shiftLeft, he, UInt8.toNat_toUInt16, Nat.shiftLeft_eq]
    omega
  rw [word, UInt16.toNat_or, hs, UInt8.toNat_toUInt16]
  have hp : high.toNat * 256 = 2 ^ 8 * high.toNat := by omega
  rw [hp, ← Nat.two_pow_add_eq_or_of_lt (by omega)]

@[simp] theorem highByte_word (high low : UInt8) : highByte (word high low) = high := by
  apply UInt8.toNat_inj.mp
  have hl := low.toNat_lt
  rw [toNat_highByte, toNat_word]
  omega

@[simp] theorem lowByte_word (high low : UInt8) : lowByte (word high low) = low := by
  apply UInt8.toNat_inj.mp
  have hl := low.toNat_lt
  rw [toNat_lowByte, toNat_word]
  omega

@[simp] theorem word_highByte_lowByte (w : UInt16) : word (highByte w) (lowByte w) = w := by
  apply UInt16.toNat_inj.mp
  rw [toNat_word, toNat_highByte, toNat_lowByte]
  omega

/-! ## Hexadecimal text -/

def hexDigit (n : Nat) : Char := Char.ofNat (if n < 10 then 48 + n else 87 + n)

def hexChars (b : UInt8) : List Char := [hexDigit (b.toNat / 16), hexDigit (b.toNat % 16)]

def hexByte (b : UInt8) : String := String.ofList (hexChars b)

def hexWord (w : UInt16) : String := String.ofList (hexChars (highByte w) ++ hexChars (lowByte w))

end FantasyConsole
