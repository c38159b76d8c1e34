import Wireframe.Image.Bytes

/-!
The pixmap and the bitmap: formats that hold the pixels as they are.
-/

namespace Wireframe

def Image.pixmap (image : Image) : Bytes :=
  Bytes.ofText s!"P6\n{image.width} {image.height}\n255\n" ++ image.bytes

namespace Bitmap

def padding (width : Nat) : Bytes :=
  Array.replicate ((4 - 3 * width % 4) % 4) 0

def row (width : Nat) (pixels : Array Rgb) : Bytes :=
  pixels.flatMap (fun p => #[p.blue, p.green, p.red]) ++ padding width

def header (width height size : Nat) : Bytes :=
  Bytes.littleEndian 4 40 ++ Bytes.littleEndian 4 width ++ Bytes.littleEndian 4 height ++
    Bytes.littleEndian 2 1 ++ Bytes.littleEndian 2 24 ++ Bytes.littleEndian 4 0 ++
    Bytes.littleEndian 4 size ++ Array.replicate 16 0

end Bitmap

/-- A bitmap, whose rows stand from the bottom up. -/
def Image.bitmap (image : Image) : Bytes :=
  let data := image.rows.reverse.flatMap (Bitmap.row image.width)
  Bytes.ofText "BM" ++ Bytes.littleEndian 4 (54 + data.size) ++ Bytes.littleEndian 4 0 ++
    Bytes.littleEndian 4 54 ++ Bitmap.header image.width image.height data.size ++ data

end Wireframe
