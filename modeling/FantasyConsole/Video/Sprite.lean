import FantasyConsole.Video.Basic

/-!
# Sprites

The sprite list is walked from its base through the links until an entry links
to itself, at most 320 entries long. A row shows the first 32 entries of the walk
that cover it, and when it has these the walk ends. At a pixel the first opaque
entry with priority wins, failing that the first opaque entry.
-/
namespace FantasyConsole

/-- What a layer shows at a pixel: a palette index that is not transparent, and its priority. -/
@[ext] structure LayerPixel where
  color : UInt8
  priority : Bool
  deriving DecidableEq, Repr

namespace Screen

def width : Nat := 320
def height : Nat := 224

def size : Nat := width * height

end Screen

/-- Whether an entry shows something on row `y`: it is not empty, not wholly off screen, and its
rows, wrapping at 256, include `y`. -/
def SpriteEntry.covers (s : SpriteEntry) (y : UInt16) : Bool :=
  s.pattern != 0 && !(320 ≤ s.x && s.x < 512 - s.width) && (y - s.y).toUInt8.toUInt16 < s.height

namespace Vdp

/-- The most entries of the list that are looked at. -/
def walkLimit : Nat := 320

/-- The most sprites of one row. -/
def rowLimit : Nat := 32

def spriteAt (v : Vdp) (address : UInt16) : SpriteEntry where
  attributes := v.memory.readWord address
  size := v.memory.readWord (address + 2)
  x := v.memory.readWord (address + 4) &&& 511
  y := v.memory.readWord (address + 6) &&& 255

/-- The address an entry links to, in the list based at `base`. -/
def linked (base : UInt16) (s : SpriteEntry) : UInt16 := base + s.link <<< 3

/-- The addresses looked at from `address` on while there is room for more sprites of row `y`. -/
def examinedFrom (v : Vdp) (base y : UInt16) : (limit room : Nat) → (address : UInt16) → List UInt16
  | 0, _, _ => []
  | limit + 1, room, address =>
    let s := v.spriteAt address
    let room := if s.covers y then room - 1 else room
    let next := linked base s
    address :: if room = 0 ∨ next = address then [] else v.examinedFrom base y limit room next

/-- The addresses looked at for row `y`, in the order of the sprite list and up to the entry that
takes the last place on the row. -/
def examined (v : Vdp) (y : UInt16) : List UInt16 :=
  v.examinedFrom (v.register Register.sprites) y walkLimit rowLimit (v.register Register.sprites)

/-- The sprites that row `y` shows, in list order. -/
def spritesOnRow (v : Vdp) (y : UInt16) : List SpriteEntry :=
  ((v.examined y).map v.spriteAt).filter (·.covers y)

def collectRow (v : Vdp) (y : UInt16) : Vdp := { v with rowSprites := v.spritesOnRow y }

/-- The four-bit pixel in a pattern byte; even columns are in the high half. -/
@[inline] def nibble (v : Vdp) (address column : UInt16) : UInt8 :=
  let b := v.memory.read address
  if column &&& 1 = 0 then b >>> 4 else b &&& 0x0F

/-- The four-bit pixel of an entry at a screen position, none outside its box. Cells of a picture
follow each other down its columns. -/
def spriteNibble (v : Vdp) (s : SpriteEntry) (x y : UInt16) : Option UInt8 :=
  let lx := (x - s.x) &&& 511
  let ly := (y - s.y) &&& 255
  let w := s.width
  let h := s.height
  if w ≤ lx || h ≤ ly then none
  else
    let lx := if s.flipsAcross then w - 1 - lx else lx
    let ly := if s.flipsDown then h - 1 - ly else ly
    let tile := s.pattern + (lx >>> 3) * (h >>> 3) + (ly >>> 3)
    let address := (tile <<< 5) + ((ly &&& 7) <<< 2) + ((lx &&& 7) >>> 1)
    some (v.nibble address lx)

/-- Scan entries in order: a priority entry ends the scan, and once something is found other entries
are passed over. -/
def scanSprites (v : Vdp) (x y : UInt16) (found : Option LayerPixel) :
    List SpriteEntry → Option LayerPixel
  | [] => found
  | s :: rest =>
    if found.isSome && !s.priority then v.scanSprites x y found rest
    else
      match v.spriteNibble s x y with
      | none => v.scanSprites x y found rest
      | some n =>
        if n = 0 then v.scanSprites x y found rest
        else if s.priority then some ⟨n ||| s.paletteRow, true⟩
        else v.scanSprites x y (some ⟨n ||| s.paletteRow, false⟩) rest

def spritePixel (v : Vdp) (x y : UInt16) : Option LayerPixel := v.scanSprites x y none v.rowSprites

end Vdp

end FantasyConsole
