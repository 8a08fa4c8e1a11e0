import FantasyConsole.Image.Picture

/-!
# Tga files

The pixels are written in packets of at most 128: a run of one pixel, or pixels
that differ. A packet ends where pixels begin or cease to be equal.
-/
namespace FantasyConsole.Tga
open ByteOrder

/-- The packets so far, the pixels of the open one, and whether it lists them one by one. -/
structure Writer where
  bytes : Array UInt8
  held : Array Rgba
  listed : Bool
  previous : Option Rgba

namespace Writer

def start : Writer := ⟨#[], #[], false, none⟩

def pixelBytes (c : Rgba) : Array UInt8 := #[c.blue, c.green, c.red, c.alpha]

def packet (w : Writer) : Array UInt8 :=
  match w.held.back? with
  | none => #[]
  | some c =>
    if w.listed then #[UInt8.ofNat (w.held.size - 1)] ++ w.held.flatMap pixelBytes
    else #[UInt8.ofNat (0x80 + w.held.size - 1)] ++ pixelBytes c

/-- End the open packet and begin one of a kind. -/
def flush (w : Writer) (listed : Bool) : Writer :=
  let packet := w.packet
  let ⟨bytes, _, _, previous⟩ := w
  ⟨bytes ++ packet, #[], listed, previous⟩

/-- Append a pixel to the open packet. -/
def hold (w : Writer) (c : Rgba) : Writer :=
  let ⟨bytes, held, listed, _⟩ := w
  ⟨bytes, held.push c, listed, some c⟩

/-- Append a pixel. A run and a list give way to each other where equal pixels begin or end. -/
def put (w : Writer) (c : Rgba) : Writer :=
  let w :=
    if w.previous = some c then (if w.listed then w.flush false else w)
    else if w.listed || w.held.isEmpty then w
    else w.flush true
  let w := w.hold c
  if w.held.size = 128 then w.flush false else w

end Writer

/-- Colours of 24 bits with eight bits of alpha, in packets, the rows from the highest down. -/
def header (p : Picture) : Array UInt8 :=
  #[0, 0, 10] ++ Array.replicate 9 0 ++ little16 p.width ++ little16 p.height ++ #[32, 0x28]

def encode (p : Picture) : Array UInt8 :=
  header p ++ ((p.pixels.foldl Writer.put Writer.start).flush false).bytes

end FantasyConsole.Tga
