import FantasyConsole.Proofs.Marks
import FantasyConsole.Proofs.Bits

/-!
# The picture without caches

A pixel is composed from registers, memory, font, a list of sprites and a table of
shades for the palette indexes. With the shades and the sprites that the caches
hold, this is what the video processor shows; it does not depend on anything else.
-/
namespace FantasyConsole

/-- A color, bitwise inverted on a condition. -/
def invertedIf (b : Bool) (c : UInt32) : UInt32 := if b then ~~~c else c

theorem mod_64_lt (i : UInt8) : i.toNat % 64 < 64 := Nat.mod_lt _ (by decide)

def shadeOf (shades : Vector UInt32 64) (i : UInt8) : UInt32 :=
  getElem shades (i.toNat % 64) (mod_64_lt i)

/-- The index of the first priority layer, failing that of the first layer that is not transparent,
failing that of the background. -/
def topmost (layers : List (Option LayerPixel)) (background : UInt8) : UInt8 :=
  let shown := layers.filterMap id
  (((shown.find? (·.priority)).or shown.head?).map (·.color)).getD background

namespace Vdp

def shades (v : Vdp) : Vector UInt32 64 := v.palette.map expandColor

/-- The character of the text cell at a screen position. -/
def characterAt (v : Vdp) (x y : Nat) : UInt8 :=
  v.memory.read (UInt16.ofNat ((v.register Register.text).toNat + x / 8 + 40 * (y / 8)))

/-- Whether the glyph of a character has ink at a screen position. -/
def inkAt (v : Vdp) (character : UInt8) (x y : Nat) : Bool :=
  (getElem v.font (character.toNat % 128 * 8 + y % 8) (by omega)).toNat.testBit (7 - x % 8)

/-- The sprites listed for row `y`, none when the sprite layer is off. -/
def listed (v : Vdp) (y : Nat) : List SpriteEntry :=
  if v.has Mode.sprites then v.spritesOnRow (UInt16.ofNat y) else []

/-- What the layers show at a screen position, topmost first, with the given sprites on the row. -/
def layers (v : Vdp) (sprites : List SpriteEntry) (x y : Nat) : List (Option LayerPixel) :=
  [if v.has Mode.sprites then v.scanSprites (UInt16.ofNat x)
    (UInt16.ofNat y) none sprites else none,
   if v.has Mode.planeA then v.planePixel .a (UInt16.ofNat x) (UInt16.ofNat y) else none,
   if v.has Mode.planeB then v.planePixel .b (UInt16.ofNat x) (UInt16.ofNat y) else none]

def hasText (v : Vdp) (x y : Nat) : Bool := v.has Mode.text && v.characterAt x y != 0

/-- The palette index that decides a pixel: the background's below a character, else the topmost
layer's. -/
def indexAt (v : Vdp) (sprites : List SpriteEntry) (x y : Nat) : UInt8 :=
  if v.hasText x y then Mode.background v.mode
  else topmost (v.layers sprites x y) (Mode.background v.mode)

/-- The pixel at a screen position: the shade of its index, under a character inverted once for an
inverse character and once more for ink. -/
def composed (v : Vdp) (shades : Vector UInt32 64) (sprites : List SpriteEntry)
    (x y : Nat) : UInt32 :=
  let c := shadeOf shades (v.indexAt sprites x y)
  if v.hasText x y then
    let character := v.characterAt x y
    invertedIf (v.inkAt character x y) (invertedIf (128 ≤ character) c)
  else c

/-! ## What the video processor shows -/

variable {x y : Nat}

theorem textCell_eq_characterAt (v : Vdp) (hx : x < 320) (hy : y < 224) :
    v.textCell (UInt16.ofNat x) (UInt16.ofNat y) = v.characterAt x y := by
  rw [textCell, characterAt]
  congr 1
  apply UInt16.toNat_inj.1
  have h3 : (3 : UInt16).toNat % 16 = 3 := by decide
  have h40 : (40 : UInt16).toNat = 40 := by decide
  simp only [UInt16.toNat_add, UInt16.toNat_mul, UInt16.toNat_shiftRight,
    UInt16.toNat_ofNat', h3, h40, Nat.shiftRight_eq_div_pow]
  omega

theorem glyphBit_eq_inkAt (v : Vdp) (character : UInt8) (hx : x < 320) (hy : y < 224) :
    v.glyphBit character (UInt16.ofNat x) (UInt16.ofNat y) = v.inkAt character x y := by
  have h127 : (character &&& 0x7F).toNat = character.toNat % 128 :=
    byte_toNat_and_mask character (k := 7) (by decide)
  have h7 (n : Nat) (hn : n < 320) : (UInt16.ofNat n &&& 7).toNat = n % 8 := by
    rw [toNat_and_mask _ (k := 3) (by decide), UInt16.toNat_ofNat_of_lt' (show n < 65536 by omega)]
    rfl
  have hk : (7 - (UInt16.ofNat x &&& 7)).toUInt8.toNat = 7 - x % 8 := by
    have h := h7 x hx
    have hle : UInt16.ofNat x &&& 7 ≤ 7 := UInt16.and_le_right
    have hs : (7 : UInt16).toNat = 7 := by decide
    rw [UInt16.toNat_toUInt8, UInt16.toNat_sub_of_le _ _ hle, h, hs]
    omega
  unfold glyphBit inkAt
  dsimp only
  rw [shiftRight_and_one_ne_zero _ _ (by rw [hk]; omega), hk]
  simp only [h127, h7 y (by omega)]

theorem find?_priority (layers : List (Option LayerPixel)) :
    (layers.find? fun p => p.any (·.priority)) =
      ((layers.filterMap id).find? (·.priority)).map some := by
  induction layers with
  | nil => rfl
  | cons p rest ih =>
    cases p with
    | none => rw [List.find?_cons_of_neg (by simp), List.filterMap_cons_none rfl, ih]
    | some p =>
      rw [List.filterMap_cons_some (f := id) (b := p) rfl, List.find?_cons, List.find?_cons,
        Option.any_some]
      cases p.priority with
      | false => exact ih
      | true => rfl

theorem find?_isSome (layers : List (Option LayerPixel)) :
    layers.find? (·.isSome) = (layers.filterMap id).head?.map some := by
  induction layers with
  | nil => rfl
  | cons p rest ih =>
    cases p with
    | none => rw [List.find?_cons_of_neg (by simp), List.filterMap_cons_none rfl, ih]
    | some p => rfl

theorem resolve_eq_topmost (layers : List (Option LayerPixel)) (background : UInt8) :
    resolve layers background = topmost layers background := by
  unfold resolve topmost
  rw [find?_priority, find?_isSome]
  dsimp only
  cases (layers.filterMap id).find? (·.priority) with
  | some p => rfl
  | none =>
    cases (layers.filterMap id).head? with
    | some p => rfl
    | none => rfl

/-- What is shown is composed of the cached shades and sprites. -/
theorem pixel_eq_composed (v : Vdp) (hx : x < 320) (hy : y < 224) :
    v.pixel (UInt16.ofNat x) (UInt16.ofNat y) = v.composed v.colors v.rowSprites x y := by
  have hl : v.layerIndex (UInt16.ofNat x) (UInt16.ofNat y) =
      topmost (v.layers v.rowSprites x y) (Mode.background v.mode) := resolve_eq_topmost _ _
  rw [pixel, textPixel, composed, indexAt, hasText]
  rw [textCell_eq_characterAt v hx hy, hl]
  by_cases ht : v.has Mode.text = true
  · by_cases hc : v.characterAt x y = 0
    · simp [ht, hc, color, shadeOf]
    · simp [ht, hc, color, shadeOf, invertedIf, glyphBit_eq_inkAt v _ hx hy, and_highBit_ne_zero]
  · simp [ht, color, shadeOf]

/-! ## What a pixel depends on -/

variable {v w : Vdp}

theorem scanSprites_congr (h : v.memory = w.memory) (x y : UInt16) (found : Option LayerPixel)
    (sprites : List SpriteEntry) :
    v.scanSprites x y found sprites = w.scanSprites x y found sprites := by
  have hn (s : SpriteEntry) : v.spriteNibble s x y = w.spriteNibble s x y := by
    simp only [spriteNibble, nibble, h]
  induction sprites generalizing found with
  | nil => rfl
  | cons s rest ih => simp only [scanSprites, hn, ih]

theorem Agrees.planePixel (h : v.Agrees w) (plane : Plane) (x y : UInt16) :
    v.planePixel plane x y = w.planePixel plane x y := by
  have hx : v.register plane.scrollX = w.register plane.scrollX := by
    cases plane <;> exact h.registers _ (by decide) (by decide)
  have hy : v.register plane.scrollY = w.register plane.scrollY := by
    cases plane <;> exact h.registers _ (by decide) (by decide)
  have hb : v.register plane.base = w.register plane.base := by
    cases plane <;> exact h.registers _ (by decide) (by decide)
  unfold Vdp.planePixel cellPixel nibble
  rw [hx, hy, hb, h.memory]

theorem Agrees.characterAt (h : v.Agrees w) (x y : Nat) :
    v.characterAt x y = w.characterAt x y := by
  rw [Vdp.characterAt, Vdp.characterAt, h.memory, h.registers Register.text (by decide) (by decide)]

theorem Agrees.background (h : v.Agrees w) : Mode.background v.mode = Mode.background w.mode := by
  rw [Mode.background, Mode.background, h.and_mode (by decide)]

theorem Agrees.hasText (h : v.Agrees w) (x y : Nat) : v.hasText x y = w.hasText x y := by
  rw [Vdp.hasText, Vdp.hasText, h.has (by decide), h.characterAt]

theorem Agrees.indexAt (h : v.Agrees w) (sprites : List SpriteEntry) (x y : Nat) :
    v.indexAt sprites x y = w.indexAt sprites x y := by
  have hl : v.layers sprites x y = w.layers sprites x y := by
    rw [layers, layers, h.has (by decide), h.has (by decide), h.has (by decide),
      scanSprites_congr h.memory, h.planePixel, h.planePixel]
  rw [Vdp.indexAt, Vdp.indexAt, h.hasText, h.background, hl]

theorem Agrees.composed (h : v.Agrees w) (shades : Vector UInt32 64) (sprites : List SpriteEntry)
    (x y : Nat) : v.composed shades sprites x y = w.composed shades sprites x y := by
  have hi (c : UInt8) : v.inkAt c x y = w.inkAt c x y := by
    simp only [inkAt, h.font]
  simp only [Vdp.composed, h.indexAt, h.hasText, h.characterAt, hi]

theorem Agrees.listed (h : v.Agrees w) (y : Nat) : v.listed y = w.listed y := by
  have hs (address : UInt16) : v.spriteAt address = w.spriteAt address := by
    rw [spriteAt, spriteAt, h.memory]
  have hw (base : UInt16) (limit room : Nat) (address : UInt16) :
      v.examinedFrom base (UInt16.ofNat y) limit room address =
        w.examinedFrom base (UInt16.ofNat y) limit room address := by
    induction limit generalizing room address with
    | zero => rfl
    | succ limit ih => simp only [examinedFrom, hs, ih]
  rw [Vdp.listed, Vdp.listed, spritesOnRow, spritesOnRow, examined, examined, h.has (by decide),
    h.registers Register.sprites (by decide) (by decide), hw, funext hs]

theorem Agrees.shades (h : v.Agrees w) : v.shades = w.shades := by
  rw [Vdp.shades, Vdp.shades, h.palette]

theorem composed_eq_iff (v : Vdp) (shades shades' : Vector UInt32 64)
    (sprites : List SpriteEntry) (x y : Nat) :
    v.composed shades sprites x y = v.composed shades' sprites x y ↔
      shadeOf shades (v.indexAt sprites x y) = shadeOf shades' (v.indexAt sprites x y) := by
  have hi (b : Bool) (c d : UInt32) : invertedIf b c = invertedIf b d ↔ c = d := by
    cases b with
    | false => exact Iff.rfl
    | true => exact UInt32.not_inj
  unfold composed
  split
  · rw [hi, hi]
  · rfl

end Vdp

end FantasyConsole
