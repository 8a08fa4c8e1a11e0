import FantasyConsole.Video.Plane
import FantasyConsole.Proofs.Bits

/-!
# Tiles in numbers

Video memory is read as 2048 tiles of eight by eight pixels, four bits a pixel, row
by row. Sprite entries and map cells name a tile in the low bits of a word whose high
bits say how its picture is mirrored, its palette row and its priority.
-/
namespace FantasyConsole

/-- The pixel in column `u` and row `v` of a tile. Even columns are in the high halves of bytes. -/
def Memory.tilePixel (m : Memory) (tile u v : Nat) : Nat :=
  let b := (m.read (UInt16.ofNat (tile * 32 + v * 4 + u / 2))).toNat
  if u % 2 = 0 then b / 16 else b % 16

/-- A place among `size` of them, counted from the other end on a condition. -/
def mirroredIf (b : Bool) (size i : Nat) : Nat := if b then size - 1 - i else i

/-- What pixel `n` of a picture is on its layer, from the number of the word that describes the
picture. -/
def LayerPixel.ofWord (w n : Nat) : LayerPixel :=
  ⟨UInt8.ofNat (w / 8192 % 4 * 16 + n), w.testBit 15⟩

theorem Memory.tilePixel_lt (m : Memory) (tile u v : Nat) : m.tilePixel tile u v < 16 := by
  have hb := (m.read (UInt16.ofNat (tile * 32 + v * 4 + u / 2))).toNat_lt
  unfold tilePixel
  dsimp only
  split <;> omega

theorem mirroredIf_lt {size i : Nat} (b : Bool) (h : i < size) : mirroredIf b size i < size := by
  cases b
  · exact h
  · simp only [mirroredIf, if_true]
    omega

theorem mirroredIf_not {size i j : Nat} (b : Bool) (h : i + j + 1 = size) :
    mirroredIf (!b) size i = mirroredIf b size j := by
  cases b <;> simp [mirroredIf] <;> omega

/-! ## Words as numbers -/

theorem xor_bit (a : UInt16) {bit : UInt16} {k : Nat} (h : bit.toNat = 2 ^ k) (hk : 11 ≤ k) :
    (a ^^^ bit).toNat % 2048 = a.toNat % 2048 ∧
      ∀ i, (a ^^^ bit).toNat.testBit i = (a.toNat.testBit i ^^ decide (k = i)) := by
  constructor
  · have hlow : 2 ^ k % 2 ^ 11 = 0 := Nat.mod_eq_zero_of_dvd (Nat.pow_dvd_pow 2 hk)
    rw [UInt16.toNat_xor, h]
    exact (Nat.xor_mod_two_pow (n := 11)).trans (by rw [hlow, Nat.xor_zero])
  · intro i
    rw [UInt16.toNat_xor, Nat.testBit_xor, h, Nat.testBit_two_pow]

theorem toNat_shiftRight_three (a : UInt16) : (a >>> 3).toNat = a.toNat / 8 := by
  have h3 : (3 : UInt16).toNat % 16 = 3 := by decide
  rw [UInt16.toNat_shiftRight, h3, Nat.shiftRight_eq_div_pow]

theorem toNat_paletteRow (a : UInt16) :
    ((a >>> 9) &&& 0x30).toUInt8.toNat = a.toNat / 8192 % 4 * 16 := by
  have h9 : (9 : UInt16).toNat % 16 = 9 := by decide
  have h30 : (0x30 : UInt16).toNat = 48 := by decide
  have hhigh : (a.toNat / 2 ^ 9 &&& 48) / 2 ^ 4 = a.toNat / 2 ^ 9 / 2 ^ 4 % 2 ^ 2 := by
    rw [Nat.and_div_two_pow]
    exact Nat.and_two_pow_sub_one_eq_mod _ 2
  have hlow : (a.toNat / 2 ^ 9 &&& 48) % 2 ^ 4 = 0 := by
    rw [Nat.and_mod_two_pow]
    exact Nat.and_zero _
  rw [UInt16.toNat_toUInt8, UInt16.toNat_and, UInt16.toNat_shiftRight, h9, h30,
    Nat.shiftRight_eq_div_pow]
  omega

theorem toNat_or_paletteRow {n row : UInt8} {k : Nat} (hn : n.toNat < 16)
    (hrow : row.toNat = k * 16) :
    (n ||| row).toNat = k * 16 + n.toNat := by
  have h := Nat.two_pow_add_eq_or_of_lt (i := 4) hn k
  rw [UInt8.toNat_or, Nat.or_comm, hrow, Nat.mul_comm k 16, ← h]

/-! ## Sampling -/

namespace Vdp

variable {v : Vdp}

theorem toNat_nibble (v : Vdp) (a column : UInt16) : (v.nibble a column).toNat =
    if column.toNat % 2 = 0 then (v.memory.read a).toNat / 16
    else (v.memory.read a).toNat % 16 := by
  have hodd : column &&& 1 = 0 ↔ column.toNat % 2 = 0 := by
    rw [← UInt16.toNat_inj, toNat_and_mask column (k := 1) (by decide)]
    rfl
  have h4 : (4 : UInt8).toNat % 8 = 4 := by decide
  have h15 : (0x0F : UInt8).toNat = 2 ^ 4 - 1 := by decide
  unfold nibble
  dsimp only
  by_cases h : column.toNat % 2 = 0
  · rw [if_pos h, if_pos (hodd.2 h), UInt8.toNat_shiftRight, h4, Nat.shiftRight_eq_div_pow]
  · rw [if_neg h, if_neg (mt hodd.1 h), UInt8.toNat_and, h15, Nat.and_two_pow_sub_one_eq_mod]

/-- Of the tiles that a word can count the lowest 2048 are in memory, and the others are these
again. -/
theorem toNat_nibble_tile (v : Vdp) (tile : UInt16) {row column c : UInt16} (hrow : row.toNat < 8)
    (hcolumn : column.toNat < 8) (hc : c.toNat % 2 = column.toNat % 2) :
    (v.nibble ((tile <<< 5) + (row <<< 2) + (column >>> 1)) c).toNat =
      v.memory.tilePixel (tile.toNat % 2048) column.toNat row.toNat := by
  have h5 : (5 : UInt16).toNat % 16 = 5 := by decide
  have h2 : (2 : UInt16).toNat % 16 = 2 := by decide
  have h1 : (1 : UInt16).toNat % 16 = 1 := by decide
  have ha : ((tile <<< 5) + (row <<< 2) + (column >>> 1)).toNat =
      tile.toNat % 2048 * 32 + row.toNat * 4 + column.toNat / 2 := by
    rw [UInt16.toNat_add, UInt16.toNat_add, UInt16.toNat_shiftLeft, UInt16.toNat_shiftLeft,
      UInt16.toNat_shiftRight, h5, h2, h1, Nat.shiftLeft_eq, Nat.shiftLeft_eq,
      Nat.shiftRight_eq_div_pow]
    omega
  rw [toNat_nibble, hc, Memory.tilePixel, ← ha, UInt16.ofNat_toNat]

theorem toNat_mirrored (b : Bool) (last : UInt16) {l : UInt16} (h : l.toNat ≤ last.toNat) :
    (if b then last - l else l).toNat = mirroredIf b (last.toNat + 1) l.toNat := by
  cases b
  · rfl
  · simp only [if_true, mirroredIf]
    rw [UInt16.toNat_sub_of_le _ _ (UInt16.le_iff_toNat_le.2 h), Nat.add_sub_cancel]

end Vdp

theorem LayerPixel.ofWord_eq {a : UInt16} {n : UInt8} (hn : n.toNat < 16) :
    (⟨n ||| ((a >>> 9) &&& 0x30).toUInt8, a &&& 0x8000 != 0⟩ : LayerPixel) =
      .ofWord a.toNat n.toNat := by
  have hcolor := toNat_or_paletteRow hn (toNat_paletteRow a)
  rw [LayerPixel.ofWord, ← hcolor, UInt8.ofNat_toNat, and_bit_ne_zero a (k := 15) (by decide)]

end FantasyConsole
