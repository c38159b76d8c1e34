import Wireframe.Image.Bytes

/-!
PNG files, with the pixels in stored blocks.
-/

namespace Wireframe

namespace Png

def crcStep (crc : UInt32) : UInt32 :=
  if crc &&& 1 = 1 then (crc >>> 1) ^^^ 0xEDB88320 else crc >>> 1

def crcByte (crc : UInt32) (byte : UInt8) : UInt32 :=
  Nat.repeat crcStep 8 (crc ^^^ byte.toUInt32)

def crc (bytes : Bytes) : UInt32 :=
  bytes.foldl crcByte 0xFFFFFFFF ^^^ 0xFFFFFFFF

def adlerByte (sums : Nat × Nat) (byte : UInt8) : Nat × Nat :=
  let low := (sums.1 + byte.toNat) % 65521
  (low, (sums.2 + low) % 65521)

def adler (bytes : Bytes) : Nat :=
  let (low, high) := bytes.foldl adlerByte (1, 0)
  high * 65536 + low

def chunk (kind : String) (data : Bytes) : Bytes :=
  let body := Bytes.ofText kind ++ data
  Bytes.bigEndian 4 data.size ++ body ++ Bytes.bigEndian 4 (crc body).toNat

def blockSize : Nat := 65535

def block (last : Bool) (data : Bytes) : Bytes :=
  #[if last then 1 else 0] ++ Bytes.littleEndian 2 data.size ++
    Bytes.littleEndian 2 (blockSize - data.size) ++ data

/-- Full blocks, and a last one that may be empty. -/
def compressed (data : Bytes) : Bytes :=
  #[0x78, 0x01] ++ (Bytes.pieces blockSize data).flatMap (block false) ++
    block true #[] ++ Bytes.bigEndian 4 (adler data)

/-- Each row is preceded by a byte that leaves it unfiltered. -/
def scanline (pixels : Array Rgb) : Bytes :=
  #[0] ++ pixels.flatMap Rgb.bytes

def signature : Bytes := #[0x89, 0x50, 0x4E, 0x47, 0x0D, 0x0A, 0x1A, 0x0A]

def header (width height : Nat) : Bytes :=
  Bytes.bigEndian 4 width ++ Bytes.bigEndian 4 height ++ #[8, 2, 0, 0, 0]

end Png

def Image.png (image : Image) : Bytes :=
  Png.signature ++ Png.chunk "IHDR" (Png.header image.width image.height) ++
    Png.chunk "IDAT" (Png.compressed (image.rows.flatMap Png.scanline)) ++
    Png.chunk "IEND" #[]

end Wireframe
