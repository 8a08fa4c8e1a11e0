import FantasyConsole.Image.Picture

/-!
# Bmp files

Two headers say where red, green, blue and alpha are in the four bytes of a pixel.
The rows follow from the lowest up.
-/
namespace FantasyConsole.Bmp
open ByteOrder

def pixelBytes (c : Rgba) : Array UInt8 := #[c.blue, c.green, c.red, c.alpha]

/-- The rows of a picture, the last one first. -/
def rows (p : Picture) : Array UInt8 :=
  (Array.range p.height).flatMap fun y =>
    (Array.range p.width).flatMap fun x => pixelBytes (p.pixel ((p.height - 1 - y) * p.width + x))

/-- The bytes before the rows. -/
def headerSize : Nat := 122

/-- The header with the sides, the places of the colours and a standard colour space. -/
def info (p : Picture) (size : Nat) : Array UInt8 :=
  little32 (headerSize - 14) ++ little32 p.width ++ little32 p.height ++ little16 1 ++
    little16 32 ++ little32 3
    ++ little32 size ++ Array.replicate 16 0
    ++ little32 0xFF0000 ++ little32 0xFF00 ++ little32 0xFF ++ little32 0xFF000000
    ++ little32 0x73524742 ++ Array.replicate 48 0

def encode (p : Picture) : Array UInt8 :=
  let data := rows p
  "BM".toUTF8.data ++ little32 (headerSize + data.size) ++ little32 0 ++ little32 headerSize ++
  info p data.size ++ data

end FantasyConsole.Bmp
