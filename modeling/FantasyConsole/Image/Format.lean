/-!
# Picture formats

A picture file's format is told by the extension of its name, in capitals or not.
-/
namespace FantasyConsole

inductive PictureFormat where
  | avif | jpeg | png | gif | webP | tiff | tga | dds | bmp | ico | hdr | openExr | pnm
  | farbfeld | qoi
  deriving DecidableEq, Repr

namespace PictureFormat

def name : PictureFormat → String
  | .avif => "Avif"
  | .jpeg => "Jpeg"
  | .png => "Png"
  | .gif => "Gif"
  | .webP => "WebP"
  | .tiff => "Tiff"
  | .tga => "Tga"
  | .dds => "Dds"
  | .bmp => "Bmp"
  | .ico => "Ico"
  | .hdr => "Hdr"
  | .openExr => "OpenExr"
  | .pnm => "Pnm"
  | .farbfeld => "Farbfeld"
  | .qoi => "Qoi"

def extensions : List (String × PictureFormat) :=
  [("avif", .avif), ("jpg", .jpeg), ("jpeg", .jpeg), ("jfif", .jpeg), ("png", .png),
    ("apng", .png), ("gif", .gif), ("webp", .webP), ("tif", .tiff), ("tiff", .tiff), ("tga", .tga),
    ("dds", .dds), ("bmp", .bmp), ("ico", .ico), ("hdr", .hdr), ("exr", .openExr), ("pbm", .pnm),
    ("pam", .pnm), ("ppm", .pnm), ("pgm", .pnm), ("pnm", .pnm), ("ff", .farbfeld), ("qoi", .qoi)]

def ofExtension? (extension : String) : Option PictureFormat := extensions.lookup extension.toLower

end PictureFormat

end FantasyConsole
