import FantasyConsole.Image.Bmp
import FantasyConsole.Image.Gif
import FantasyConsole.Image.Png
import FantasyConsole.Image.Qoi
import FantasyConsole.Image.Tga
import FantasyConsole.Image.Tiff
import FantasyConsole.Image.WebP

/-!
# Encoding pictures

Each format either takes a picture or says why it does not. A file whose format
does not take the picture is left empty.
-/
namespace FantasyConsole

/-! ## Pnm files

A header in words, then the pixels. Of this family only the form with a tuple type
has alpha, so every picture is written in it. -/

namespace Pnm

def header (p : Picture) : String :=
  "P7\nWIDTH " ++ toString p.width ++ "\nHEIGHT " ++ toString p.height
    ++ "\nDEPTH 4\nMAXVAL 255\nTUPLTYPE RGB_ALPHA\nENDHDR\n"

def encode (p : Picture) : Array UInt8 := (header p).toUTF8.data ++ p.rgba

end Pnm

/-! ## Ico files

A directory with one entry and the picture in Png form. A side has at most 256
pixels, and 256 is written as zero. -/

namespace Ico
open ByteOrder

def check (p : Picture) : Except PictureError Unit :=
  if p.width < 1 || 256 < p.width then .error (.iconSide "width" p.width)
  else if p.height < 1 || 256 < p.height then .error (.iconSide "height" p.height)
  else .ok ()

def encode (p : Picture) : Array UInt8 :=
  let data := Png.encode p
  little16 0 ++ little16 1 ++ little16 1 ++ #[UInt8.ofNat p.width, UInt8.ofNat p.height, 0, 0]
    ++ little16 0 ++ little16 32 ++ little32 data.size ++ little32 22 ++ data

end Ico

/-! ## All formats -/

namespace PictureFormat

def check (format : PictureFormat) (p : Picture) : Except PictureError Unit :=
  match format with
  | .jpeg | .hdr | .openExr | .farbfeld => .error (.noRgba format)
  | .avif | .dds => .error (.unsupported format)
  | .ico => Ico.check p
  | .png | .gif | .webP | .tiff | .tga | .bmp | .pnm | .qoi => .ok ()

def encode (format : PictureFormat) (p : Picture) : Array UInt8 :=
  match format with
  | .png => Png.encode p
  | .gif => Gif.encode p
  | .webP => WebP.encode p
  | .tiff => Tiff.encode p
  | .tga => Tga.encode p
  | .bmp => Bmp.encode p
  | .ico => Ico.encode p
  | .pnm => Pnm.encode p
  | .qoi => Qoi.encode p
  | .avif | .jpeg | .dds | .hdr | .openExr | .farbfeld => #[]

/-- The picture that a file holds. Only a palette may change it. -/
def stored (format : PictureFormat) (p : Picture) : Picture :=
  if format = .gif then Gif.stored p else p

end PictureFormat

end FantasyConsole
