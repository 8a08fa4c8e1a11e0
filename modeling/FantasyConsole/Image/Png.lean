import FantasyConsole.Image.Picture

/-!
# Png files

A picture is written as a header chunk, one data chunk and an end chunk. The data
is stored without compression, in blocks of at most 65535 bytes.
-/
namespace FantasyConsole.Png
open ByteOrder

/-- Eight steps of the cyclic redundancy check. -/
def crcByte (c : UInt32) (b : UInt8) : UInt32 :=
  Nat.fold 8 (fun _ _ c => if c &&& 1 != 0 then (c >>> 1) ^^^ 0xEDB88320 else c >>> 1)
    (c ^^^ b.toUInt32)

def crc (bytes : Array UInt8) : UInt32 := ~~~(bytes.foldl crcByte 0xFFFFFFFF)

/-- The checksum of a data stream: two sums modulo 65521. -/
def adler (bytes : Array UInt8) : Nat :=
  let (a, b) :=
    bytes.foldl (fun (a, b) x => let a := (a + x.toNat) % 65521; (a, (b + a) % 65521)) (1, 0)
  b * 65536 + a

def chunk (kind : String) (data : Array UInt8) : Array UInt8 :=
  let body := kind.toUTF8.data ++ data
  big32 data.size ++ body ++ big32 (crc body).toNat

def block (last : Bool) (data : Array UInt8) : Array UInt8 :=
  #[if last then 1 else 0] ++ little16 data.size ++ little16 (65535 - data.size) ++ data

/-- Stored blocks of a byte string, from `start` on. -/
def blocksFrom (data : Array UInt8) (start : Nat) : Array UInt8 :=
  if start + 65535 < data.size then
    block false (data.extract start (start + 65535)) ++ blocksFrom data (start + 65535)
  else block true (data.extract start data.size)
termination_by data.size - start
decreasing_by omega

def stored (data : Array UInt8) : Array UInt8 :=
  #[0x78, 0x01] ++ blocksFrom data 0 ++ big32 (adler data)

/-- The rows of a picture, each after a byte that says it is not filtered. -/
def rows (p : Picture) : Array UInt8 :=
  (Array.range p.height).flatMap fun y => #[0] ++
    p.rgba.extract (y * p.width * 4) ((y + 1) * p.width * 4)

def encode (p : Picture) : Array UInt8 :=
  #[0x89, 0x50, 0x4E, 0x47, 0x0D, 0x0A, 0x1A, 0x0A]
    ++ chunk "IHDR" (big32 p.width ++ big32 p.height ++ #[8, 6, 0, 0, 0])
    ++ chunk "IDAT" (stored (rows p))
    ++ chunk "IEND" #[]

end FantasyConsole.Png
