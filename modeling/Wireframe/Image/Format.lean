/-!
Image formats, the file extensions that stand for them and the
encodings that can be written.
-/

namespace Wireframe

inductive ImageFormat where
  | png
  | gif
  | bmp
  | pnm
  | jpeg
  | webP
  | tiff
  | tga
  | dds
  | ico
  | hdr
  | openExr
  | farbfeld
  | qoi
  | avif
  deriving DecidableEq

inductive Encoding where
  | png
  | gif
  | bmp
  | pnm
  deriving DecidableEq

namespace ImageFormat

def name : ImageFormat → String
  | png => "Png"
  | gif => "Gif"
  | bmp => "Bmp"
  | pnm => "Pnm"
  | jpeg => "Jpeg"
  | webP => "WebP"
  | tiff => "Tiff"
  | tga => "Tga"
  | dds => "Dds"
  | ico => "Ico"
  | hdr => "Hdr"
  | openExr => "OpenExr"
  | farbfeld => "Farbfeld"
  | qoi => "Qoi"
  | avif => "Avif"

def extensions : ImageFormat → List String
  | png => ["png", "apng"]
  | gif => ["gif"]
  | bmp => ["bmp"]
  | pnm => ["pnm", "pbm", "pgm", "ppm", "pam"]
  | jpeg => ["jpg", "jpeg", "jfif"]
  | webP => ["webp"]
  | tiff => ["tif", "tiff"]
  | tga => ["tga"]
  | dds => ["dds"]
  | ico => ["ico"]
  | hdr => ["hdr"]
  | openExr => ["exr"]
  | farbfeld => ["ff"]
  | qoi => ["qoi"]
  | avif => ["avif"]

def all : List ImageFormat :=
  [png, gif, bmp, pnm, jpeg, webP, tiff, tga, dds, ico, hdr, openExr, farbfeld, qoi, avif]

/-- The case of an extension does not matter. -/
def ofExtension? (ext : String) : Option ImageFormat :=
  let lower := String.ofList (ext.toList.map Char.toLower)
  all.find? fun format => format.extensions.contains lower

def encoding? : ImageFormat → Option Encoding
  | png => some .png
  | gif => some .gif
  | bmp => some .bmp
  | pnm => some .pnm
  | _ => none

end ImageFormat

end Wireframe
