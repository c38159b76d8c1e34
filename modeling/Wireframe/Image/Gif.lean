import Wireframe.Image.Bytes
import Wireframe.Image.Palette

/-!
GIF files: an image as places in the palette of its values.
-/

namespace Wireframe

namespace Gif

/-- Codes of nine bits below this one stand for a place in the palette. -/
def clearCode : Nat := 256

def endCode : Nat := 257

/-- So few codes follow a fresh start that they keep their nine bits. -/
def codesPerRun : Nat := 250

def codes (places : Array Nat) : Array Nat :=
  (Bytes.pieces codesPerRun places).flatMap (#[clearCode] ++ ·) ++ #[endCode]

structure Packing where
  bytes : Bytes
  held : Nat
  bits : Nat

namespace Packing

def empty : Packing := ⟨#[], 0, 0⟩

/-- A code of nine bits fills a byte, and a second one if eight bits are left. -/
def add (p : Packing) (code : Nat) : Packing :=
  let held := p.held + (code <<< p.bits)
  if p.bits = 7 then
    ⟨(p.bytes.push held.toUInt8).push (held / 256).toUInt8, 0, 0⟩
  else
    ⟨p.bytes.push held.toUInt8, held / 256, p.bits + 1⟩

def finish (p : Packing) : Bytes :=
  if p.bits = 0 then p.bytes else p.bytes.push p.held.toUInt8

end Packing

def pack (codes : Array Nat) : Bytes :=
  (codes.foldl Packing.add .empty).finish

/-- Blocks of up to 255 bytes, each after its length, and an empty one at the end. -/
def blocks (data : Bytes) : Bytes :=
  (Bytes.pieces 255 data).flatMap (fun piece => #[piece.size.toUInt8] ++ piece) ++ #[0]

def paletteBytes (values : Array Rgb) : Bytes :=
  values.flatMap Rgb.bytes ++ Array.replicate (3 * (Palette.size - values.size)) 0

def size (image : Image) : Bytes :=
  Bytes.littleEndian 2 image.width ++ Bytes.littleEndian 2 image.height

end Gif

def Image.gif (image : Image) : Bytes :=
  let pixels := image.reduced.pixels.toArray
  let palette := Palette.distinct pixels
  let places := pixels.map palette.idxOf
  Bytes.ofText "GIF89a" ++ Gif.size image ++ #[0xF7, 0, 0] ++ Gif.paletteBytes palette ++
    #[0x2C, 0, 0, 0, 0] ++ Gif.size image ++ #[0, 8] ++
    Gif.blocks (Gif.pack (Gif.codes places)) ++ #[0x3B]

end Wireframe
