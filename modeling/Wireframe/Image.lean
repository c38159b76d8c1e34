import Wireframe.Raster.Segment

/-!
Images of red, green and blue bytes. The origin is the lower left corner, while the rows
are stored from the top down.
-/

namespace Wireframe

structure Rgb where
  red : UInt8
  green : UInt8
  blue : UInt8
  deriving DecidableEq

def Rgb.bytes (value : Rgb) : Array UInt8 := #[value.red, value.green, value.blue]

structure Image where
  width : Nat
  height : Nat
  pixels : Vector Rgb (width * height)
  deriving DecidableEq

namespace Image

def filled (width height : Nat) (value : Rgb) : Image :=
  ⟨width, height, Vector.replicate (width * height) value⟩

structure Contains (image : Image) (p : Point Int) : Prop where
  x_nonneg : 0 ≤ p.x
  x_lt : p.x < image.width
  y_nonneg : 0 ≤ p.y
  y_lt : p.y < image.height

instance (image : Image) (p : Point Int) : Decidable (image.Contains p) :=
  decidable_of_iff (0 ≤ p.x ∧ p.x < image.width ∧ 0 ≤ p.y ∧ p.y < image.height)
    ⟨fun ⟨h₁, h₂, h₃, h₄⟩ => ⟨h₁, h₂, h₃, h₄⟩, fun ⟨h₁, h₂, h₃, h₄⟩ => ⟨h₁, h₂, h₃, h₄⟩⟩

/-- The place of a pixel in storage order. -/
def index (image : Image) (p : Point Int) : Nat :=
  (image.height - 1 - p.y.toNat) * image.width + p.x.toNat

theorem index_lt {image : Image} {p : Point Int} (h : image.Contains p) :
    image.index p < image.width * image.height := by
  have hx : p.x.toNat < image.width := by
    have := h.x_nonneg
    have := h.x_lt
    omega
  have hy : image.height - 1 - p.y.toNat + 1 ≤ image.height := by
    have := h.y_nonneg
    have := h.y_lt
    omega
  calc
    image.index p < (image.height - 1 - p.y.toNat) * image.width + image.width := by
      unfold index
      omega
    _ = (image.height - 1 - p.y.toNat + 1) * image.width := by
      rw [Nat.succ_mul]
    _ ≤ image.height * image.width := Nat.mul_le_mul_right _ hy
    _ = image.width * image.height := Nat.mul_comm _ _

def pixel? (image : Image) (p : Point Int) : Option Rgb :=
  if h : image.Contains p then
    some (image.pixels.get ⟨image.index p, index_lt h⟩)
  else
    none

/-- A point outside the image leaves it alone. -/
def plot (image : Image) (p : Point Int) (value : Rgb) : Image :=
  if h : image.Contains p then
    { image with pixels := image.pixels.set (image.index p) value (index_lt h) }
  else
    image

def plotAll (image : Image) (points : List (Point Int)) (value : Rgb) : Image :=
  points.foldl (fun image p => image.plot p value) image

def fill (image : Image) (value : Rgb) : Image :=
  filled image.width image.height value

/--
The image as sides of 32 bits describe it: of longer sides only the low bits are left, and
of the pixels as many as these sides ask for.
-/
def inWords (image : Image) : Image :=
  if image.width < 4294967296 ∧ image.height < 4294967296 then image
  else
    ⟨image.width % 4294967296, image.height % 4294967296,
      (image.pixels.take (image.width % 4294967296 * (image.height % 4294967296))).cast
        (Nat.min_eq_left (Nat.mul_le_mul (Nat.mod_le ..) (Nat.mod_le ..)))⟩

theorem inWords_of_lt {image : Image} (hwidth : image.width < 4294967296)
    (hheight : image.height < 4294967296) : image.inWords = image :=
  if_pos ⟨hwidth, hheight⟩

def bytes (image : Image) : Array UInt8 :=
  image.pixels.toArray.flatMap Rgb.bytes

@[simp] theorem width_plot (image : Image) (p : Point Int) (value : Rgb) :
    (image.plot p value).width = image.width := by
  unfold plot
  split <;> rfl

@[simp] theorem height_plot (image : Image) (p : Point Int) (value : Rgb) :
    (image.plot p value).height = image.height := by
  unfold plot
  split <;> rfl

end Image

end Wireframe
