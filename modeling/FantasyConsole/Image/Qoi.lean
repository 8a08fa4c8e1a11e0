import FantasyConsole.Image.Picture

/-!
# Qoi files

A pixel is written in full or counted into a run of the pixel before it. A run is
at most 62 pixels long. The first pixel may repeat an opaque black one.
-/
namespace FantasyConsole.Qoi
open ByteOrder

/-- The chunks so far, the pixel before, and the length of the open run. -/
structure Writer where
  bytes : Array UInt8
  previous : Rgba
  run : Nat

namespace Writer

def start : Writer := ⟨#[], ⟨0, 0, 0, 255⟩, 0⟩

/-- End the open run. -/
def flush (w : Writer) : Writer :=
  let ⟨bytes, previous, run⟩ := w
  if run = 0 then ⟨bytes, previous, 0⟩ else ⟨bytes.push (UInt8.ofNat (0xC0 + run - 1)), previous, 0⟩

/-- Write a pixel in full. -/
def full (w : Writer) (c : Rgba) : Writer :=
  let ⟨bytes, _, run⟩ := w
  ⟨((((bytes.push 0xFF).push c.red).push c.green).push c.blue).push c.alpha, c, run⟩

def put (w : Writer) (c : Rgba) : Writer :=
  if c = w.previous then
    let w := { w with run := w.run + 1 }
    if w.run = 62 then w.flush else w
  else w.flush.full c

end Writer

def encode (p : Picture) : Array UInt8 :=
  "qoif".toUTF8.data ++ big32 p.width ++ big32 p.height ++ #[4, 0]
    ++ (p.pixels.foldl Writer.put Writer.start).flush.bytes ++ #[0, 0, 0, 0, 0, 0, 0, 1]

end FantasyConsole.Qoi
