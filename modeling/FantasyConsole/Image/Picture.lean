import FantasyConsole.Files
import FantasyConsole.Image.Format
import FantasyConsole.Text.Hidden
import FantasyConsole.Video.Sprite

/-!
# Pictures

A frame becomes a picture of red, green, blue and alpha bytes with full alpha.
-/
namespace FantasyConsole

/-- The bytes of a pixel `0x00RRGGBB`, opaque. -/
def rgbaBytes (p : UInt32) : Array UInt8 :=
  #[(p >>> 16).toUInt8, (p >>> 8).toUInt8, p.toUInt8, 0xFF]

/-- Write pixels over `out`, as many as both hold; bytes beyond stay. -/
def toRgba (frame : Array UInt32) (out : Array UInt8) : Array UInt8 :=
  let n := min frame.size (out.size / 4)
  (frame.extract 0 n).flatMap rgbaBytes ++ out.extract (4 * n) out.size

structure Picture where
  width : Nat
  height : Nat
  rgba : Array UInt8
  deriving DecidableEq

structure Rgba where
  red : UInt8
  green : UInt8
  blue : UInt8
  alpha : UInt8
  deriving DecidableEq, Repr, Hashable

inductive PictureError where
  | frameSize (got : Nat)
  | noExtension
  | unknownExtension (extension : String)
  /-- A format that cannot be written. -/
  | unsupported (format : PictureFormat)
  /-- A format without pixels of four bytes. -/
  | noRgba (format : PictureFormat)
  /-- An icon with a side that is too short or too long. -/
  | iconSide (side : String) (got : Nat)
  | file (e : FileError)
  deriving DecidableEq, Repr

namespace PictureError

def message : PictureError → String
  | .frameSize got =>
    "frame buffer holds " ++ toString got ++ " pixels, expected " ++ toString Screen.size
  | .noExtension => "screenshot error: The image format could not be determined"
  | .unknownExtension extension =>
    "screenshot error: The file extension `." ++ Text.quoted extension ++
      "` was not recognized as an image format"
  | .unsupported format =>
    "screenshot error: The image format `" ++ format.name ++ "` is not supported"
  | .noRgba format =>
    "screenshot error: The encoder or decoder for " ++ format.name ++
      " does not support the color type `Rgba8`"
  | .iconSide side got =>
    "screenshot error: The parameter is malformed: the image " ++ side ++
      " must be `1..=256`, instead " ++ side ++ " "
      ++ toString got ++ " was provided"
  | .file e => "screenshot error: " ++ e.message

end PictureError

namespace Picture

def ofFrame (frame : Array UInt32) : Except PictureError Picture :=
  if frame.size = Screen.size then
    .ok ⟨Screen.width, Screen.height, toRgba frame (Array.replicate (Screen.size * 4) 0)⟩
  else .error (.frameSize frame.size)

/-- The pixel with number `i`, counted along the rows. -/
def pixel (p : Picture) (i : Nat) : Rgba :=
  ⟨p.rgba.getD (4 * i) 0, p.rgba.getD (4 * i + 1) 0, p.rgba.getD (4 * i + 2) 0,
    p.rgba.getD (4 * i + 3) 0⟩

def pixels (p : Picture) : Array Rgba := (Array.range (p.width * p.height)).map p.pixel

end Picture

def PictureFormat.ofPath (path : String) : Except PictureError PictureFormat :=
  match Path.extension? path with
  | none => .error .noExtension
  | some extension =>
    (PictureFormat.ofExtension? extension).elim (.error (.unknownExtension extension)) .ok

/-! ## Numbers in files

Numbers are stored in two or four bytes, in either order. Higher digits are lost. -/

namespace ByteOrder

def big16 (n : Nat) : Array UInt8 := #[UInt8.ofNat (n / 256), UInt8.ofNat n]

def big32 (n : Nat) : Array UInt8 := big16 (n / 65536) ++ big16 n

def little16 (n : Nat) : Array UInt8 := #[UInt8.ofNat n, UInt8.ofNat (n / 256)]

def little32 (n : Nat) : Array UInt8 := little16 n ++ little16 (n / 65536)

end ByteOrder

end FantasyConsole
