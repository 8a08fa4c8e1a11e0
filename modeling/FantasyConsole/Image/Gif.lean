import FantasyConsole.Image.BitStream
import FantasyConsole.Image.Palette

/-!
# Gif files

The pixels are numbers of colours in a palette of 256. The code table is cleared
before it grows out of nine bits.
-/
namespace FantasyConsole.Gif
open ByteOrder

/-- A colour without alpha. -/
def colorBytes (c : Rgba) : Array UInt8 := #[c.red, c.green, c.blue]

/-- Codes of nine bits: the numbers, a clear code before each 250 of them, and the end code. -/
def codes (numbers : Array Nat) : Array UInt8 :=
  let pieces := (Array.range ((numbers.size + 249) / 250)).flatMap fun i =>
    #[256] ++ numbers.extract (i * 250) ((i + 1) * 250)
  ((BitStream.empty.putAll 9 pieces).put 9 257).close

/-- Data in blocks of at most 255 bytes, each after its size, and an empty block. -/
def blocks (data : Array UInt8) : Array UInt8 :=
  ((Array.range ((data.size + 254) / 255)).flatMap fun i =>
    let block := data.extract (i * 255) ((i + 1) * 255)
    #[UInt8.ofNat block.size] ++ block) ++ #[0]

def stored (p : Picture) : Picture :=
  let (palette, numbers) := Palette.indexed p
  { p with rgba := numbers.flatMap fun n =>
      let c := palette.getD n ⟨0, 0, 0, 0⟩
      #[c.red, c.green, c.blue, 0xFF] }

def encode (p : Picture) : Array UInt8 :=
  let (palette, numbers) := Palette.indexed p
  "GIF89a".toUTF8.data ++ little16 p.width ++ little16 p.height ++ #[0xF7, 0, 0]
    ++ palette.flatMap colorBytes ++ Array.replicate (3 * (256 - palette.size)) 0
    ++ #[0x2C, 0, 0, 0, 0] ++ little16 p.width ++ little16 p.height ++ #[0]
    ++ #[8] ++ blocks (codes numbers) ++ #[0x3B]

end FantasyConsole.Gif
