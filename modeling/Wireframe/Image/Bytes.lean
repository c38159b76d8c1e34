import Wireframe.Image

/-!
Numbers as bytes, and the rows of an image as image files store them.
-/

namespace Wireframe

abbrev Bytes := Array UInt8

namespace Bytes

def littleEndian (count n : Nat) : Bytes :=
  (Array.range count).map fun i => (n >>> (8 * i)).toUInt8

def bigEndian (count n : Nat) : Bytes :=
  (littleEndian count n).reverse

def ofText (text : String) : Bytes :=
  text.toUTF8.data

/-- Cuts data into pieces of `size` bytes, the last of which may be shorter. -/
def pieces {α : Type} (size : Nat) (data : Array α) : Array (Array α) :=
  (Array.range ((data.size + size - 1) / size)).map fun i =>
    data.extract (i * size) ((i + 1) * size)

end Bytes

def Image.rows (image : Image) : Array (Array Rgb) :=
  Bytes.pieces image.width image.pixels.toArray

end Wireframe
