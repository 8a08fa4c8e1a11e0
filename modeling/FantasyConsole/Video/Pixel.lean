import FantasyConsole.Video.Plane

/-!
# Pixels

The text layer, where it has a character, hides everything. Elsewhere the first
priority layer among sprites, plane A and plane B is shown, failing that the
first of them that is not transparent, failing that the background.
-/
namespace FantasyConsole.Vdp

/-- The character shown in the text cell of a screen position; zero is an empty cell. -/
def textCell (v : Vdp) (x y : UInt16) : UInt8 :=
  v.memory.read (v.register Register.text + (x >>> 3) + (40 : UInt16) * (y >>> 3))

/-- A row of a glyph is one of the font's bytes: 128 glyphs of eight rows. -/
theorem glyphRow_lt (character : UInt8) (y : UInt16) :
    (character &&& 0x7F).toNat * 8 + (y &&& 7).toNat < 1024 := by
  have h1 : (character &&& 0x7F).toNat ≤ 127 := by
    rw [UInt8.toNat_and]; exact Nat.and_le_right
  have h2 : (y &&& 7).toNat ≤ 7 := by
    rw [UInt16.toNat_and]; exact Nat.and_le_right
  omega

/-- Whether a character has ink at a column and row of its cell. -/
def glyphBit (v : Vdp) (character : UInt8) (x y : UInt16) : Bool :=
  let row := getElem v.font ((character &&& 0x7F).toNat * 8 + (y &&& 7).toNat)
    (glyphRow_lt character y)
  (row >>> (7 - (x &&& 7)).toUInt8) &&& 1 != 0

/-- The text layer: the background color, inverted for an inverse character and once more for
ink. -/
def textPixel (v : Vdp) (x y : UInt16) : Option UInt32 :=
  let character := v.textCell x y
  if character = 0 then none
  else
    let color := v.color (Mode.background v.mode)
    let color := if character &&& 0x80 != 0 then ~~~color else color
    some (if v.glyphBit character x y then ~~~color else color)

/-- The palette index that the layers, topmost first, leave visible over `background`. -/
def resolve (layers : List (Option LayerPixel)) (background : UInt8) : UInt8 :=
  match layers.find? fun p => p.any (·.priority) with
  | some (some p) => p.color
  | _ =>
    match layers.find? (·.isSome) with
    | some (some p) => p.color
    | _ => background

/-- The palette index shown below the text layer. -/
def layerIndex (v : Vdp) (x y : UInt16) : UInt8 :=
  resolve
    [if v.has Mode.sprites then v.spritePixel x y else none,
     if v.has Mode.planeA then v.planePixel .a x y else none,
     if v.has Mode.planeB then v.planePixel .b x y else none]
    (Mode.background v.mode)

def pixel (v : Vdp) (x y : UInt16) : UInt32 :=
  match if v.has Mode.text then v.textPixel x y else none with
  | some c => c
  | none => v.color (v.layerIndex x y)

end FantasyConsole.Vdp
