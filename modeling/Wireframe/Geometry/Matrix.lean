import Wireframe.Binary.Arithmetic
import Wireframe.Binary.Trigonometry
import Wireframe.Geometry.Axis

/-!
Transformations of space as four by four matrices. A point is a row `[x, y, z, 1]`
and is transformed by multiplication from the right, so a displacement stands in
the last row of its matrix.
-/

namespace Wireframe

abbrev Row (α : Type) := Vector α 4

abbrev Matrix (α : Type) := Vector (Row α) 4

structure Triple where
  x : Single
  y : Single
  z : Single
  deriving DecidableEq

def Triple.row (point : Triple) : Row Single := #v[point.x, point.y, point.z, 1]

namespace Row

variable {α : Type}

def x (row : Row α) : α := row[0]

def y (row : Row α) : α := row[1]

def z (row : Row α) : α := row[2]

def w (row : Row α) : α := row[3]

/-- The sum runs from the first term to the last. -/
def times [Add α] [Mul α] (row : Row α) (m : Matrix α) : Row α :=
  Vector.ofFn fun k =>
    row.x * m[0][k] + row.y * m[1][k] + row.z * m[2][k] + row.w * m[3][k]

@[simp] theorem getElem_times [Add α] [Mul α] (row : Row α) (m : Matrix α) (k : Fin 4) :
    (row.times m)[k] =
      row.x * m[0][k] + row.y * m[1][k] + row.z * m[2][k] + row.w * m[3][k] := by
  simp [times]

end Row

namespace Matrix

def ofEntries {α : Type} (entry : Fin 4 → Fin 4 → α) : Matrix α :=
  Vector.ofFn fun i => Vector.ofFn (entry i)

/-- The transformation that applies `first` and then `second`. -/
def andThen {α : Type} [Add α] [Mul α] (first second : Matrix α) : Matrix α :=
  first.map fun row => row.times second

def identity {α : Type} [OfNat α 0] [OfNat α 1] : Matrix α :=
  ofEntries fun i j => if i = j then 1 else 0

def diagonal {α : Type} [OfNat α 0] (entries : Row α) : Matrix α :=
  ofEntries fun i j => if i = j then entries[i] else 0

def dilation (factors : Triple) : Matrix Single :=
  diagonal factors.row

def displacement (offset : Triple) : Matrix Single :=
  ofEntries fun i j => if i = Fin.last 3 then offset.row[j] else if i = j then 1 else 0

def radians (degrees : Single) : Single :=
  degrees * Binary.pi / 180

/-- Turns the first of the other two axes towards the second. -/
def rotation (axis : Axis) (degrees : Single) : Matrix Single :=
  let sin := (radians degrees).sin
  let cos := (radians degrees).cos
  let (a, b) := axis.others
  ofEntries fun i j =>
    if (i = a ∧ j = a) ∨ (i = b ∧ j = b) then cos
    else if i = a ∧ j = b then sin
    else if i = b ∧ j = a then -sin
    else if i = j then 1
    else 0

@[simp] theorem getElem_ofEntries {α : Type} (entry : Fin 4 → Fin 4 → α) (i j : Fin 4) :
    (ofEntries entry)[i][j] = entry i j := by
  simp [ofEntries]

end Matrix

end Wireframe
