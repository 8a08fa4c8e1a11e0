import FantasyConsole.Proofs.Tiles

/-!
# Pictures of sprites

The picture of an entry is up to four cells wide and up to four cells high, and its
tiles follow each other down the columns. It lies in a box of a torus of 512 by 256
pixels, of which the screen is a part, and flips mirror it as a whole.
-/
namespace FantasyConsole

namespace SpriteEntry

def cellsAcross (s : SpriteEntry) : Nat := s.size.toNat / 256 % 4 + 1

def cellsDown (s : SpriteEntry) : Nat := s.size.toNat / 1024 % 4 + 1

/-- The column of the box, counted from its left edge, that lies at column `x`. -/
def boxColumn (s : SpriteEntry) (x : Nat) : Nat := (((x : Int) - s.x.toNat) % 512).toNat

/-- The row of the box, counted from its upper edge, that lies at row `y`. -/
def boxRow (s : SpriteEntry) (y : Nat) : Nat := (((y : Int) - s.y.toNat) % 256).toNat

/-- The pixel in column `u` and row `v` of the picture as it is in memory. -/
def picturePixel (s : SpriteEntry) (m : Memory) (u v : Nat) : Nat :=
  m.tilePixel ((s.attributes.toNat % 2048 + u / 8 * s.cellsDown + v / 8) % 2048) (u % 8) (v % 8)

/-- The pixel in column `u` and row `v` of the box, where the picture is mirrored as the entry
asks. -/
def boxPixel (s : SpriteEntry) (m : Memory) (u v : Nat) : Nat :=
  s.picturePixel m (mirroredIf (s.attributes.toNat.testBit 11) (8 * s.cellsAcross) u)
    (mirroredIf (s.attributes.toNat.testBit 12) (8 * s.cellsDown) v)

def turnedAcross (s : SpriteEntry) : SpriteEntry := { s with attributes := s.attributes ^^^ 0x0800 }

def turnedDown (s : SpriteEntry) : SpriteEntry := { s with attributes := s.attributes ^^^ 0x1000 }

variable (s : SpriteEntry)

theorem toNat_cells (a : UInt16) {place : UInt16} (h : place.toNat < 16) :
    (((a >>> place &&& 3) + 1) * 8).toNat = 8 * (a.toNat / 2 ^ place.toNat % 4 + 1) := by
  have h1 : (1 : UInt16).toNat = 1 := by decide
  have h8 : (8 : UInt16).toNat = 8 := by decide
  have hbits : (a >>> place &&& 3).toNat = a.toNat / 2 ^ place.toNat % 4 := by
    rw [toNat_and_mask _ (k := 2) (by decide), UInt16.toNat_shiftRight, Nat.mod_eq_of_lt h,
      Nat.shiftRight_eq_div_pow]
    rfl
  rw [UInt16.toNat_mul, UInt16.toNat_add, hbits, h1, h8]
  omega

theorem toNat_width : s.width.toNat = 8 * s.cellsAcross := toNat_cells s.size (by decide)

theorem toNat_height : s.height.toNat = 8 * s.cellsDown := toNat_cells s.size (by decide)

theorem cellsAcross_le : s.cellsAcross ≤ 4 := by
  unfold cellsAcross
  omega

theorem cellsDown_le : s.cellsDown ≤ 4 := by
  unfold cellsDown
  omega

theorem toNat_column (x : UInt16) : ((x - s.x) &&& 511).toNat = s.boxColumn x.toNat := by
  have hs := s.x.toNat_lt
  rw [toNat_and_mask _ (k := 9) (by decide), UInt16.toNat_sub, boxColumn]
  omega

theorem toNat_row (y : UInt16) : ((y - s.y) &&& 255).toNat = s.boxRow y.toNat := by
  have hs := s.y.toNat_lt
  rw [toNat_and_mask _ (k := 8) (by decide), UInt16.toNat_sub, boxRow]
  omega

/-- Columns of the box lie side by side from the entry's position on, and past the last of the torus
from its first on. -/
theorem boxColumn_of_add {x u : Nat} (hu : u < 8 * s.cellsAcross)
    (h : x = s.x.toNat + u ∨ x + 512 = s.x.toNat + u) :
    s.boxColumn x = u := by
  have hle := s.cellsAcross_le
  unfold boxColumn
  omega

theorem boxRow_of_add {y t : Nat} (ht : t < 8 * s.cellsDown)
    (h : y = s.y.toNat + t ∨ y + 256 = s.y.toNat + t) :
    s.boxRow y = t := by
  have hle := s.cellsDown_le
  unfold boxRow
  omega

theorem boxPixel_turnedAcross (m : Memory) {u u' : Nat}
    (h : u + u' + 1 = 8 * s.cellsAcross) (t : Nat) :
    s.turnedAcross.boxPixel m u t = s.boxPixel m u' t := by
  obtain ⟨hpattern, hbit⟩ :=
    xor_bit s.attributes (show (0x0800 : UInt16).toNat = 2 ^ 11 by decide) (by decide)
  have hacross : (s.attributes ^^^ 0x0800).toNat.testBit 11 = !s.attributes.toNat.testBit 11 := by
    rw [hbit]
    simp
  have hdown : (s.attributes ^^^ 0x0800).toNat.testBit 12 = s.attributes.toNat.testBit 12 := by
    rw [hbit]
    simp
  have hcells : s.turnedAcross.cellsAcross = s.cellsAcross ∧
      s.turnedAcross.cellsDown = s.cellsDown := ⟨rfl, rfl⟩
  rw [boxPixel, boxPixel, picturePixel, picturePixel, hcells.1, hcells.2, turnedAcross, hpattern,
    hacross, hdown, mirroredIf_not _ h]

theorem boxPixel_turnedDown (m : Memory) {t t' : Nat} (h : t + t' + 1 = 8 * s.cellsDown) (u : Nat) :
    s.turnedDown.boxPixel m u t = s.boxPixel m u t' := by
  obtain ⟨hpattern, hbit⟩ :=
    xor_bit s.attributes (show (0x1000 : UInt16).toNat = 2 ^ 12 by decide) (by decide)
  have hacross : (s.attributes ^^^ 0x1000).toNat.testBit 11 = s.attributes.toNat.testBit 11 := by
    rw [hbit]
    simp
  have hdown : (s.attributes ^^^ 0x1000).toNat.testBit 12 = !s.attributes.toNat.testBit 12 := by
    rw [hbit]
    simp
  have hcells : s.turnedDown.cellsAcross = s.cellsAcross ∧
      s.turnedDown.cellsDown = s.cellsDown := ⟨rfl, rfl⟩
  rw [boxPixel, boxPixel, picturePixel, picturePixel, hcells.1, hcells.2, turnedDown, hpattern,
    hacross, hdown, mirroredIf_not _ h]

end SpriteEntry

namespace Vdp

open SpriteEntry

variable {v w : Vdp} {s : SpriteEntry} {x y : UInt16}

theorem toNat_pictureTile (s : SpriteEntry) {u t : UInt16} (hu : u.toNat < 32) (ht : t.toNat < 32) :
    (s.pattern + (u >>> 3) * (s.height >>> 3) + (t >>> 3)).toNat =
      s.attributes.toNat % 2048 + u.toNat / 8 * s.cellsDown + t.toNat / 8 := by
  have hpattern : s.pattern.toNat = s.attributes.toNat % 2048 :=
    toNat_and_mask _ (k := 11) (by decide)
  have hcells : u.toNat / 8 * s.cellsDown ≤ 3 * 4 := Nat.mul_le_mul (by omega) s.cellsDown_le
  rw [UInt16.toNat_add, UInt16.toNat_add, UInt16.toNat_mul, toNat_shiftRight_three,
    toNat_shiftRight_three, toNat_shiftRight_three, hpattern, toNat_height,
    Nat.mul_div_cancel_left _ (by decide)]
  omega

theorem toNat_nibble_picture (v : Vdp) (s : SpriteEntry) {u t : UInt16} (hu : u.toNat < 32)
    (ht : t.toNat < 32) :
    (v.nibble (((s.pattern + (u >>> 3) * (s.height >>> 3) + (t >>> 3)) <<< 5) + ((t &&& 7) <<< 2) +
      ((u &&& 7) >>> 1)) u).toNat = s.picturePixel v.memory u.toNat t.toNat := by
  have hmod (a : UInt16) : (a &&& 7).toNat = a.toNat % 8 := toNat_and_mask a (k := 3) (by decide)
  rw [toNat_nibble_tile, toNat_pictureTile s hu ht, hmod, hmod, picturePixel]
  · rw [hmod]
    exact Nat.mod_lt _ (by decide)
  · rw [hmod]
    exact Nat.mod_lt _ (by decide)
  · rw [hmod]
    omega

theorem toNat_flipped (b : Bool) (size : UInt16) {l : UInt16} (h : l.toNat < size.toNat) :
    (if b then size - 1 - l else l).toNat = mirroredIf b size.toNat l.toNat := by
  have h1 : (1 : UInt16).toNat = 1 := by decide
  have hlast : (size - 1).toNat + 1 = size.toNat := by
    rw [UInt16.toNat_sub_of_le _ _ (UInt16.le_iff_toNat_le.2 (by omega)), h1]
    omega
  rw [toNat_mirrored b _ (by omega), hlast]

/-- An entry is sampled at the pixels of its box, and the sample is the pixel of the box. -/
theorem toNat_spriteNibble (v : Vdp) (s : SpriteEntry) (x y : UInt16) :
    (v.spriteNibble s x y).map UInt8.toNat =
      if s.boxColumn x.toNat < 8 * s.cellsAcross ∧ s.boxRow y.toNat < 8 * s.cellsDown then
        some (s.boxPixel v.memory (s.boxColumn x.toNat) (s.boxRow y.toNat))
      else none := by
  have hx := s.toNat_column x
  have hy := s.toNat_row y
  have hw := s.toNat_width
  have hh := s.toNat_height
  unfold spriteNibble
  dsimp only
  generalize (x - s.x) &&& 511 = column at hx ⊢
  generalize (y - s.y) &&& 255 = row at hy ⊢
  have hoff : (s.width ≤ column || s.height ≤ row) = true ↔
      ¬ (s.boxColumn x.toNat < 8 * s.cellsAcross ∧ s.boxRow y.toNat < 8 * s.cellsDown) := by
    rw [Bool.or_eq_true, decide_eq_true_iff, decide_eq_true_iff, UInt16.le_iff_toNat_le,
      UInt16.le_iff_toNat_le]
    omega
  by_cases hbox : s.boxColumn x.toNat < 8 * s.cellsAcross ∧ s.boxRow y.toNat < 8 * s.cellsDown
  · have hacross := s.cellsAcross_le
    have hdown := s.cellsDown_le
    have hu := toNat_flipped s.flipsAcross s.width (l := column) (by omega)
    have ht := toNat_flipped s.flipsDown s.height (l := row) (by omega)
    rw [hw, hx] at hu
    rw [hh, hy] at ht
    have hu32 := mirroredIf_lt s.flipsAcross hbox.1
    have ht32 := mirroredIf_lt s.flipsDown hbox.2
    rw [if_pos hbox, if_neg (mt hoff.1 (not_not_intro hbox)), Option.map_some,
      toNat_nibble_picture v s (by omega) (by omega), hu, ht, boxPixel, flipsAcross, flipsDown,
      and_bit_ne_zero _ (k := 11) (by decide), and_bit_ne_zero _ (k := 12) (by decide)]
  · rw [if_neg hbox, if_pos (hoff.2 hbox), Option.map_none]

theorem spriteNibble_eq_of_boxPixel {t : SpriteEntry} {x' y' : UInt16}
    (hin : (s.boxColumn x.toNat < 8 * s.cellsAcross ∧ s.boxRow y.toNat < 8 * s.cellsDown) ↔
      (t.boxColumn x'.toNat < 8 * t.cellsAcross ∧ t.boxRow y'.toNat < 8 * t.cellsDown))
    (h : s.boxPixel v.memory (s.boxColumn x.toNat) (s.boxRow y.toNat) =
      t.boxPixel v.memory (t.boxColumn x'.toNat) (t.boxRow y'.toNat)) :
    v.spriteNibble s x y = v.spriteNibble t x' y' := by
  apply Option.map_injective (fun a b => UInt8.toNat_inj.1)
  rw [toNat_spriteNibble, toNat_spriteNibble, h]
  simp only [hin]

/-- The geometry of sprites. An entry is sampled at the pixels of its box, which lies on a torus of
512 columns and 256 rows: what is past the last column or row comes at the first. The sample is the
pixel of its picture, and with a flip the other way it is the pixel as far from the other edge of
the box. -/
theorem spriteNibble_picture (v : Vdp) (s : SpriteEntry) :
    (∀ x y : UInt16, (v.spriteNibble s x y).map UInt8.toNat =
      if s.boxColumn x.toNat < 8 * s.cellsAcross ∧ s.boxRow y.toNat < 8 * s.cellsDown then
        some (s.boxPixel v.memory (s.boxColumn x.toNat) (s.boxRow y.toNat))
      else none) ∧
    (∀ x x' y : UInt16, s.boxColumn x.toNat + s.boxColumn x'.toNat + 1 = 8 * s.cellsAcross →
      v.spriteNibble s.turnedAcross x y = v.spriteNibble s x' y) ∧
    (∀ x y y' : UInt16, s.boxRow y.toNat + s.boxRow y'.toNat + 1 = 8 * s.cellsDown →
      v.spriteNibble s.turnedDown x y = v.spriteNibble s x y') ∧
    ∀ u t, u < 8 * s.cellsAcross → t < 8 * s.cellsDown → ∀ x y : UInt16,
      (x.toNat = s.x.toNat + u ∨ x.toNat + 512 = s.x.toNat + u) →
      (y.toNat = s.y.toNat + t ∨ y.toNat + 256 = s.y.toNat + t) →
      (v.spriteNibble s x y).map UInt8.toNat = some (s.boxPixel v.memory u t) := by
  refine ⟨v.toNat_spriteNibble s, ?_, ?_, ?_⟩
  · intro x x' y h
    apply spriteNibble_eq_of_boxPixel
    · change s.boxColumn x.toNat < 8 * s.cellsAcross ∧ _ ↔ _
      exact and_congr_left fun _ => by omega
    · exact s.boxPixel_turnedAcross v.memory h _
  · intro x y y' h
    apply spriteNibble_eq_of_boxPixel
    · change _ ∧ s.boxRow y.toNat < 8 * s.cellsDown ↔ _
      exact and_congr_right fun _ => by omega
    · exact s.boxPixel_turnedDown v.memory h _
  · intro u t hu ht x y hx hy
    rw [toNat_spriteNibble, s.boxColumn_of_add hu hx, s.boxRow_of_add ht hy, if_pos ⟨hu, ht⟩]

/-- An entry of two by two cells that lies over the last column and the last row and starts with the
last tile. -/
def straddling : SpriteEntry := ⟨2047, 0x0500, 508, 250⟩

/-- One pixel of the third tile. -/
def speckled : Vdp := { Vdp.zero with memory := Memory.zero.write 68 0xA0 }

/-- The lower right cell is the third tile, and comes at the first columns and rows; turned over,
its pixel comes one column to the left, at the end of the cell beside it. -/
theorem spriteNibble_picture_straddling :
    speckled.spriteNibble straddling 4 3 = some 10 ∧
      speckled.spriteNibble straddling.turnedAcross 3 3 = some 10 := by
  obtain ⟨-, hacross, -, hplace⟩ := spriteNibble_picture speckled straddling
  have hpixel : straddling.boxPixel speckled.memory 8 9 = 10 := by decide +kernel
  have h : speckled.spriteNibble straddling 4 3 = some 10 := by
    apply Option.map_injective (fun a b => UInt8.toNat_inj.1)
    rw [hplace 8 9 (by decide) (by decide) 4 3 (.inr (by decide)) (.inr (by decide)), hpixel]
    rfl
  exact ⟨h, (hacross 3 4 3 (by decide)).trans h⟩

end Vdp

end FantasyConsole
