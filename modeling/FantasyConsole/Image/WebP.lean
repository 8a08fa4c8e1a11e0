import FantasyConsole.Image.BitStream
import FantasyConsole.Image.Picture

/-!
# WebP files

A lossless picture without transforms. The codes of all four colours have eight
bits, so that the code of a byte is the byte itself with its bits in reverse.
-/
namespace FantasyConsole.WebP
open ByteOrder

/-- The bits of a byte from the high end to the low one. -/
def reversed (b : UInt8) : Nat := Nat.fold 8 (fun i _ n => n * 2 + b.toNat / Nat.pow 2 i % 2) 0

/-- The lengths of a code: eight bits for each byte and none for `rest` more symbols. A length is
itself coded in one bit, so the lengths of the first five kinds of length are given before: only
zero and eight are used. -/
def byteCode (s : BitStream) (rest : Nat) : BitStream :=
  let s := (s.put 1 0).put 4 8
  let s := s.putAll 3 #[0, 0, 1, 0, 0, 0, 0, 0, 0, 0, 0, 1]
  ((s.put 1 0).putAll 1 (Array.replicate 256 1)).putAll 1 (Array.replicate rest 0)

/-- A code with the one symbol zero, which takes no bits. -/
def zeroCode (s : BitStream) : BitStream := s.putAll 1 #[1, 0, 0, 0]

/-- Sides, alpha, no transforms, no colour cache, the five codes and the pixels. -/
def bits (p : Picture) : BitStream :=
  let s := ((BitStream.empty.put 14 (p.width - 1)).put 14 (p.height - 1)).put 1 1
  let s := (s.put 3 0).putAll 1 #[0, 0, 0]
  let s := zeroCode (byteCode (byteCode (byteCode (byteCode s 24) 0) 0) 0)
  p.pixels.foldl (fun s c => s.putAll 8 #[reversed c.green, reversed c.red, reversed c.blue,
    reversed c.alpha]) s

def encode (p : Picture) : Array UInt8 :=
  let data := #[0x2F] ++ (bits p).close
  let padding : Array UInt8 := Array.replicate (data.size % 2) 0
  let chunk := "VP8L".toUTF8.data ++ little32 data.size ++ data ++ padding
  "RIFF".toUTF8.data ++ little32 (chunk.size + 4) ++ "WEBP".toUTF8.data ++ chunk

end FantasyConsole.WebP
