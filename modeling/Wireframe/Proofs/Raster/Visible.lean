import Mathlib.Data.Rat.Floor
import Mathlib.Order.Bounds.Basic
import Mathlib.Tactic.FieldSimp
import Mathlib.Tactic.Linarith
import Mathlib.Tactic.Ring
import Wireframe.Raster.Clip

/-!
Segments over the rational numbers and the part of them that lies in a rectangle.
-/

namespace Wireframe

instance : NearestInteger ℚ := ⟨fun q => if q < 0 then ⌈q - 1 / 2⌉ else ⌊q + 1 / 2⌋⟩

def Frame.grid (α : Type) [IntCast α] (width height : Nat) : Frame α :=
  ⟨((width - 1 : Int) : α), ((height - 1 : Int) : α)⟩

structure Frame.Proper (frame : Frame ℚ) : Prop where
  right_nonneg : 0 ≤ frame.right
  top_nonneg : 0 ≤ frame.top

structure Frame.Contains (frame : Frame ℚ) (p : Point ℚ) : Prop where
  x_nonneg : 0 ≤ p.x
  x_le : p.x ≤ frame.right
  y_nonneg : 0 ≤ p.y
  y_le : p.y ≤ frame.top

inductive Border where
  | left
  | right
  | bottom
  | top

/-- How far inside a border a point lies. The margin is negative beyond the border. -/
def Frame.margin (frame : Frame ℚ) : Border → Point ℚ → ℚ
  | .left, p => p.x
  | .right, p => frame.right - p.x
  | .bottom, p => p.y
  | .top, p => frame.top - p.y

namespace Segment

def castTo (α : Type) [IntCast α] (s : Segment Int) : Segment α :=
  s.map (Point.map Int.cast)

/-- The point that is reached at time `t` on the way from the start, at time zero, to
the finish, at time one. -/
def pointAt (s : Segment ℚ) (t : ℚ) : Point ℚ :=
  ⟨s.start.x + t * (s.finish.x - s.start.x), s.start.y + t * (s.finish.y - s.start.y)⟩

def visible (frame : Frame ℚ) (s : Segment ℚ) : Set ℚ :=
  {t | 0 ≤ t ∧ t ≤ 1 ∧ frame.Contains (s.pointAt t)}

theorem visible_eq_empty_iff {frame : Frame ℚ} (s : Segment ℚ) :
    s.visible frame = ∅ ↔ ∀ t, 0 ≤ t → t ≤ 1 → ¬ frame.Contains (s.pointAt t) := by
  rw [Set.eq_empty_iff_forall_notMem]
  simp [visible]

@[simp] theorem pointAt_zero (s : Segment ℚ) : s.pointAt 0 = s.start := by
  simp [pointAt]

@[simp] theorem pointAt_one (s : Segment ℚ) : s.pointAt 1 = s.finish := by
  simp [pointAt]

theorem pointAt_part (s : Segment ℚ) (first last t : ℚ) :
    pointAt ⟨s.pointAt first, s.pointAt last⟩ t =
      s.pointAt (first + t * (last - first)) := by
  simp only [pointAt, Point.mk.injEq]
  constructor <;> ring

theorem atHeight_eq_pointAt (s : Segment ℚ) (h : s.finish.y - s.start.y ≠ 0) (y : ℚ) :
    s.atHeight y = s.pointAt ((y - s.start.y) / (s.finish.y - s.start.y)) := by
  simp only [atHeight, pointAt, Point.mk.injEq]
  constructor
  · ring
  · rw [div_mul_cancel₀ _ h]
    ring

theorem atAbscissa_eq_pointAt (s : Segment ℚ) (h : s.finish.x - s.start.x ≠ 0) (x : ℚ) :
    s.atAbscissa x = s.pointAt ((x - s.start.x) / (s.finish.x - s.start.x)) := by
  simp only [atAbscissa, pointAt, Point.mk.injEq]
  constructor
  · rw [div_mul_cancel₀ _ h]
    ring
  · ring

end Segment

namespace Frame

variable {frame : Frame ℚ} {p q : Point ℚ}

theorem contains_iff_margin_nonneg :
    frame.Contains p ↔ ∀ border, 0 ≤ frame.margin border p := by
  constructor
  · intro h border
    cases border with
    | left => exact h.x_nonneg
    | right => exact sub_nonneg.mpr h.x_le
    | bottom => exact h.y_nonneg
    | top => exact sub_nonneg.mpr h.y_le
  · intro h
    exact ⟨h .left, sub_nonneg.mp (h .right), h .bottom, sub_nonneg.mp (h .top)⟩

theorem margin_pointAt (frame : Frame ℚ) (border : Border) (s : Segment ℚ) (t : ℚ) :
    frame.margin border (s.pointAt t) =
      frame.margin border s.start +
        t * (frame.margin border s.finish - frame.margin border s.start) := by
  cases border <;> simp only [margin, Segment.pointAt] <;> ring

theorem grid_proper {width height : Nat} (hwidth : 0 < width) (hheight : 0 < height) :
    (grid ℚ width height).Proper :=
  ⟨Int.cast_nonneg (by omega), Int.cast_nonneg (by omega)⟩

end Frame

/-! Rounding a point of a rectangle does not leave the rectangle. -/

theorem nearestInteger_of_nonneg {q : ℚ} (hq : 0 ≤ q) :
    NearestInteger.nearestInteger q = ⌊q + 1 / 2⌋ :=
  if_neg (not_lt.mpr hq)

theorem nearestInteger_mem {high : Int} {q : ℚ} (hq : 0 ≤ q) (hhigh : q ≤ high) :
    0 ≤ NearestInteger.nearestInteger q ∧ NearestInteger.nearestInteger q ≤ high := by
  rw [nearestInteger_of_nonneg hq]
  constructor
  · rw [Int.floor_nonneg]
    linarith
  · rw [← Int.lt_add_one_iff, Int.floor_lt]
    push_cast
    linarith

theorem Segment.nearestWithin_of_contains {width height : Nat} {p : Point ℚ}
    (h : (Frame.grid ℚ width height).Contains p) :
    nearestWithin ⟨width - 1, height - 1⟩ p = p.map NearestInteger.nearestInteger := by
  obtain ⟨hx, hx_le⟩ := nearestInteger_mem h.x_nonneg h.x_le
  obtain ⟨hy, hy_le⟩ := nearestInteger_mem h.y_nonneg h.y_le
  simp only [nearestWithin, Point.map, Point.mk.injEq]
  constructor
  · rw [min_eq_right hx_le, max_eq_right hx]
  · rw [min_eq_right hy_le, max_eq_right hy]

end Wireframe
