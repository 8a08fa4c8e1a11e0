/-!
# Sprite entries

An entry of the sprite list is four words: attributes, size and link, and the
position. Its picture is made of 8x8 cells.
-/
namespace FantasyConsole

@[ext] structure SpriteEntry where
  attributes : UInt16
  size : UInt16
  x : UInt16
  y : UInt16
  deriving DecidableEq, Repr

namespace SpriteEntry

/-- The first tile of the picture; zero marks an empty slot. -/
def pattern (s : SpriteEntry) : UInt16 := s.attributes &&& 0x07FF

def flipsAcross (s : SpriteEntry) : Bool := s.attributes &&& 0x0800 != 0

def flipsDown (s : SpriteEntry) : Bool := s.attributes &&& 0x1000 != 0

/-- The palette row, in the place it has in a palette index. -/
def paletteRow (s : SpriteEntry) : UInt8 := ((s.attributes >>> 9) &&& 0x30).toUInt8

def priority (s : SpriteEntry) : Bool := s.attributes &&& 0x8000 != 0

/-- Width in pixels: one to four cells. -/
def width (s : SpriteEntry) : UInt16 := (((s.size >>> 8) &&& 3) + 1) * 8

/-- Height in pixels: one to four cells. -/
def height (s : SpriteEntry) : UInt16 := (((s.size >>> 10) &&& 3) + 1) * 8

/-- The place of the next entry in the list. -/
def link (s : SpriteEntry) : UInt16 := s.size &&& 0x7F

end SpriteEntry

end FantasyConsole
