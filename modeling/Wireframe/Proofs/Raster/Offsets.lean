import Mathlib.Algebra.Order.Floor.Ring
import Mathlib.Data.Rat.Floor
import Mathlib.Tactic.FieldSimp
import Mathlib.Tactic.Linarith
import Mathlib.Tactic.NormNum
import Mathlib.Tactic.Qify
import Mathlib.Tactic.Ring
import Wireframe.Raster.Line

/-!
The steps along the shorter side of a line in closed form. The integer that is carried
from pixel to pixel is always the distance from the steps taken so far to the line, so
that each step is a rounded quotient.
-/

namespace Wireframe.Raster

/-- The height of a line at its pixel `i`, to the nearest integer; a half goes down. -/
def nearestStep (major minor i : Int) : Int :=
  ⌈((2 * i * minor - major : Int) : ℚ) / (2 * major : Int)⌉

variable {major minor : Int}

theorem nearestStep_eq_iff (hmajor : 0 < major) {i k : Int} :
    nearestStep major minor i = k ↔
      2 * major * (k - 1) < 2 * i * minor - major ∧
      2 * i * minor - major ≤ 2 * major * k := by
  have hpos : (0 : ℚ) < (2 * major : Int) := by exact_mod_cast Int.mul_pos two_pos hmajor
  rw [nearestStep, Int.ceil_eq_iff, lt_div_iff₀ hpos, div_le_iff₀ hpos]
  norm_cast
  rw [Int.mul_comm (k - 1), Int.mul_comm k]

theorem nearestStep_bounds (hmajor : 0 < major) (minor i : Int) :
    2 * major * (nearestStep major minor i - 1) < 2 * i * minor - major ∧
      2 * i * minor - major ≤ 2 * major * nearestStep major minor i :=
  (nearestStep_eq_iff hmajor).mp rfl

@[simp] theorem nearestStep_zero_zero (i : Int) : nearestStep 0 0 i = 0 := by
  simp [nearestStep]

/-! Where the steps lie, from the first pixel to the last. A line of
one pixel has no steps. -/

section

variable (hminor : 0 ≤ minor) (hle : minor ≤ major)
include hminor hle

theorem nearestStep_zero : nearestStep major minor 0 = 0 := by
  rcases (hminor.trans hle).eq_or_lt with rfl | hmajor
  · rw [hle.antisymm hminor, nearestStep_zero_zero]
  · rw [nearestStep_eq_iff hmajor]
    constructor <;> linarith

theorem nearestStep_self : nearestStep major minor major = minor := by
  rcases (hminor.trans hle).eq_or_lt with rfl | hmajor
  · rw [hle.antisymm hminor, nearestStep_zero_zero]
  · rw [nearestStep_eq_iff hmajor]
    constructor <;> linarith

theorem nearestStep_nonneg {i : Int} (hi : 0 ≤ i) : 0 ≤ nearestStep major minor i := by
  rcases (hminor.trans hle).eq_or_lt with rfl | hmajor
  · rw [hle.antisymm hminor, nearestStep_zero_zero]
  · obtain ⟨-, hhigh⟩ := nearestStep_bounds hmajor minor i
    have hproduct := Int.mul_nonneg hi hminor
    by_contra hneg
    nlinarith

theorem nearestStep_le {i : Int} (hi : i ≤ major) :
    nearestStep major minor i ≤ minor := by
  rcases (hminor.trans hle).eq_or_lt with rfl | hmajor
  · rw [hle.antisymm hminor, nearestStep_zero_zero]
  · obtain ⟨hlow, -⟩ := nearestStep_bounds hmajor minor i
    have hproduct := Int.mul_le_mul_of_nonneg_right hi hminor
    by_contra hbeyond
    nlinarith

/-- The pixel is at most half a pixel from the line, and at exactly half lies below it. -/
theorem nearestStep_sub_mem (i : Int) :
    -(1 / 2) ≤ (nearestStep major minor i : ℚ) - minor * i / major ∧
      (nearestStep major minor i : ℚ) - minor * i / major < 1 / 2 := by
  rcases (hminor.trans hle).eq_or_lt with rfl | hmajor
  · rw [hle.antisymm hminor, nearestStep_zero_zero]
    norm_num
  · obtain ⟨hlow, hhigh⟩ := nearestStep_bounds hmajor minor i
    have hpos : (0 : ℚ) < major := Int.cast_pos.mpr hmajor
    qify at hlow hhigh
    have hdistance : (nearestStep major minor i : ℚ) - minor * i / major =
        (2 * major * nearestStep major minor i - 2 * i * minor) / (2 * major) := by
      field_simp
    rw [hdistance, le_div_iff₀ (by linarith), div_lt_iff₀ (by linarith)]
    constructor <;> linarith

end

/-- At each pixel the sign of the error tells whether the line has come
nearer to the next step. -/
theorem nearestStep_succ (hmajor : 0 < major) (hminor : 0 ≤ minor) (hle : minor ≤ major)
    (i : Int) :
    nearestStep major minor (i + 1) =
      if 0 < 2 * (i + 1) * minor - major - 2 * major * nearestStep major minor i then
        nearestStep major minor i + 1
      else
        nearestStep major minor i := by
  obtain ⟨hlow, hhigh⟩ := nearestStep_bounds hmajor minor i
  rw [nearestStep_eq_iff hmajor]
  split
  · constructor <;> linarith
  · constructor <;> linarith

theorem abs_nearestStep_succ_sub_le (hmajor : 0 < major) (hminor : 0 ≤ minor)
    (hle : minor ≤ major) (i : Int) :
    |nearestStep major minor (i + 1) - nearestStep major minor i| ≤ 1 := by
  rw [nearestStep_succ hmajor hminor hle]
  split <;> simp

theorem offsets_eq_map (hmajor : 0 < major) (hminor : 0 ≤ minor) (hle : minor ≤ major)
    (count : Nat) (i : Int) :
    offsets major minor count
        (2 * (i + 1) * minor - major - 2 * major * nearestStep major minor i)
        (nearestStep major minor i) =
      (List.range count).map fun j : Nat => nearestStep major minor (i + j) := by
  induction count generalizing i with
  | zero => rfl
  | succ count ih =>
      have hnext := nearestStep_succ hmajor hminor hle i
      have htail : ((List.range count).map Nat.succ).map
            (fun j : Nat => nearestStep major minor (i + j)) =
          (List.range count).map fun j : Nat => nearestStep major minor (i + 1 + j) := by
        rw [List.map_map]
        refine List.map_congr_left fun j _ => ?_
        rw [Function.comp_apply, Nat.cast_succ, add_assoc, add_comm (1 : Int)]
      rw [List.range_succ_eq_map, List.map_cons, htail, ← ih (i + 1), offsets,
        Nat.cast_zero, add_zero]
      congr 1
      split
      · rename_i hstep
        rw [if_pos hstep] at hnext
        rw [hnext]
        congr 1
        ring
      · rename_i hstep
        rw [if_neg hstep] at hnext
        rw [hnext]
        congr 1
        ring

theorem minorSteps_eq_map {major minor : Nat} (hle : minor ≤ major) :
    minorSteps major minor =
      (List.range (major + 1)).map fun i : Nat => nearestStep major minor i := by
  rcases Nat.eq_zero_or_pos major with rfl | hmajor
  · obtain rfl := Nat.le_zero.mp hle
    simp [minorSteps, offsets]
  · have hpos : (0 : Int) < major := Int.natCast_pos.mpr hmajor
    have hsteps :=
      offsets_eq_map hpos (Int.natCast_nonneg minor) (Int.ofNat_le.mpr hle) (major + 1) 0
    rw [nearestStep_zero (Int.natCast_nonneg minor) (Int.ofNat_le.mpr hle)] at hsteps
    simpa [minorSteps] using hsteps

end Wireframe.Raster
