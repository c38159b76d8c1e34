import Wireframe.Image.Palette.Network

/-!
Images of at most 256 values. An image of more values takes on those of a
palette learned from it.
-/

namespace Wireframe

structure PaletteEntry where
  value : Rgb
  opacity : UInt8
  deriving DecidableEq

namespace Palette

def size : Nat := 256

/-- The different values of some pixels; the search ends once there are
too many for a palette. -/
def distinct (pixels : Array Rgb) : Array Rgb :=
  pixels.foldl
    (fun found p =>
      if found.size > size || found.contains p then found else found.push p)
    #[]

def leastGreen (entries : Array PaletteEntry) (i : Nat) : Nat :=
  let green (k : Nat) := (entries[k]?.map fun e => e.value.green.toNat).getD 256
  (List.range' i (entries.size - i)).foldl
    (fun best k => if green k < green best then k else best) i

/-- Sorts by green; an entry goes where the one that takes its place was. -/
def sort (entries : Array PaletteEntry) : Array PaletteEntry :=
  (List.range entries.size).foldl
    (fun entries i => entries.swapIfInBounds i (leastGreen entries i)) entries

def learned (pixels : Array Rgb) : Array PaletteEntry :=
  sort ((Network.ofPixels pixels).map fun n => ⟨n.toRgb, n.opacity.round.toUInt8⟩)

def guess (entries : Array PaletteEntry) (green : UInt8) : Nat :=
  let last := entries.size - 1
  let below := entries.countP fun e => e.value.green < green
  let upTo := entries.countP fun e => e.value.green ≤ green
  (min below last + min upTo last) / 2

/-- Takes from two lists in turn, and what is left of one once the other is used up. -/
def alternate {α : Type} : List α → List α → List α
  | [], others => others
  | a :: rest, [] => a :: rest
  | a :: rest, b :: others => a :: b :: alternate rest others

/-- The entries around a place, upwards and downwards in turn. The first entry is
not reached from above. -/
def around (entries : Array PaletteEntry) (place : Nat) : List PaletteEntry :=
  alternate (entries.extract place entries.size).toList
    (entries.extract 1 place).toList.reverse

def squareGap (a b : UInt8) : Nat :=
  (a.toNat - b.toNat) * (a.toNat - b.toNat) + (b.toNat - a.toNat) * (b.toNat - a.toNat)

def gap (p : Rgb) (e : PaletteEntry) : Nat :=
  squareGap e.value.green p.green + squareGap e.value.blue p.blue +
    squareGap e.value.red p.red + squareGap e.opacity 255

/-- The nearest entry up to the first whose green alone is as far away
as the nearest so far. -/
def nearest (p : Rgb) : Rgb → Nat → List PaletteEntry → Rgb
  | best, _, [] => best
  | best, distance, e :: entries =>
      if distance ≤ squareGap e.value.green p.green then best
      else if gap p e < distance then nearest p e.value (gap p e) entries
      else nearest p best distance entries

def reduce (entries : Array PaletteEntry) (p : Rgb) : Rgb :=
  nearest p ((entries[0]?.map PaletteEntry.value).getD p) (1 <<< 30)
    (around entries (guess entries p.green))

end Palette

/-- The image in the values of its palette: itself, unless its values are too many. -/
def Image.reduced (image : Image) : Image :=
  if (Palette.distinct image.pixels.toArray).size ≤ Palette.size then image
  else
    let entries := Palette.learned image.pixels.toArray
    { image with pixels := image.pixels.map (Palette.reduce entries) }

end Wireframe
