import FantasyConsole.Image.Picture

/-!
# Tiff files

A directory of numbered entries describes one strip of pixels without compression.
-/
namespace FantasyConsole.Tiff
open ByteOrder

def short (tag value : Nat) : Array UInt8 :=
  little16 tag ++ little16 3 ++ little32 1 ++ little32 value

def long (tag value : Nat) : Array UInt8 :=
  little16 tag ++ little16 4 ++ little32 1 ++ little32 value

/-- Where the numbers of bits of the four samples are. -/
def sampleBitsOffset : Nat := 134

/-- Where the strip is, behind the numbers of bits. -/
def stripOffset : Nat := sampleBitsOffset + 8

/-- Sides, samples, no compression, colours by red, green and blue, the strip, and alpha as the
extra sample. -/
def directory (p : Picture) : Array UInt8 :=
  little16 10 ++ long 256 p.width ++ long 257 p.height
    ++ (little16 258 ++ little16 3 ++ little32 4 ++ little32 sampleBitsOffset)
    ++ short 259 1 ++ short 262 2 ++ long 273 stripOffset ++ short 277 4 ++ long 278 p.height
    ++ long 279 p.rgba.size ++ short 338 2 ++ little32 0

def encode (p : Picture) : Array UInt8 :=
  "II".toUTF8.data ++ little16 42 ++ little32 8 ++ directory p ++
    (little16 8 ++ little16 8 ++ little16 8 ++ little16 8)
    ++ p.rgba

end FantasyConsole.Tiff
