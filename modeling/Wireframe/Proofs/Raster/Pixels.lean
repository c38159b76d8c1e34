import Mathlib.Data.List.Nodup
import Mathlib.Data.List.Range
import Mathlib.Tactic.LinearCombination
import Wireframe.Proofs.Raster.Offsets
import Wireframe.Raster.Clip

/-!
The pixels of a line: one to each column of a line that runs further than it rises, and
one to each row of any other.
-/

namespace Wireframe

/-- Different pixels that touch at a side or a corner. -/
structure Point.Neighbour (p q : Point Int) : Prop where
  ne : p ≠ q
  x_le : |q.x - p.x| ≤ 1
  y_le : |q.y - p.y| ≤ 1

namespace Segment

variable (s : Segment Int)

def run : Int := s.finish.x - s.start.x

def rise : Int := |s.finish.y - s.start.y|

def direction : Int := if s.finish.y < s.start.y then -1 else 1

def steps : Int := max s.run s.rise

/-- The pixel after `i` steps along the longer side, on the nearest row or column; a half
goes to the side of the start. -/
def pixelAt (i : Int) : Point Int :=
  if s.rise ≤ s.run then
    ⟨s.start.x + i, s.start.y + s.direction * Raster.nearestStep s.run s.rise i⟩
  else
    ⟨s.start.x + Raster.nearestStep s.rise s.run i, s.start.y + s.direction * i⟩

def nearestPixels : List (Point Int) :=
  (List.range (s.steps.toNat + 1)).map fun i : Nat => s.pixelAt i

/-- A pixel at most half a pixel from the line through a segment, along the shorter side,
and on the side of the start if it is half a pixel away. -/
def Near (p : Point Int) : Prop :=
  let line : Segment ℚ := s.map (Point.map Int.cast)
  if s.rise ≤ s.run then
    -(1 / 2) ≤ s.direction * (p.y - (line.atAbscissa p.x).y) ∧
      s.direction * (p.y - (line.atAbscissa p.x).y) < 1 / 2
  else
    -(1 / 2) ≤ p.x - (line.atHeight p.y).x ∧ p.x - (line.atHeight p.y).x < 1 / 2

theorem rise_nonneg : 0 ≤ s.rise := abs_nonneg _

theorem steps_nonneg : 0 ≤ s.steps := le_max_of_le_right s.rise_nonneg

theorem direction_mul_rise : s.direction * s.rise = s.finish.y - s.start.y := by
  unfold direction rise
  split
  · rw [abs_of_neg (by omega)]
    omega
  · rw [abs_of_nonneg (by omega)]
    omega

theorem direction_mul_direction : s.direction * s.direction = 1 := by
  unfold direction
  split <;> rfl

theorem ordinate_mem {k : Int} (hk : 0 ≤ k) (hle : k ≤ s.rise) :
    min s.start.y s.finish.y ≤ s.start.y + s.direction * k ∧
      s.start.y + s.direction * k ≤ max s.start.y s.finish.y := by
  have hrise := s.direction_mul_rise
  by_cases hdown : s.finish.y < s.start.y
  · rw [direction, if_pos hdown] at hrise ⊢
    omega
  · rw [direction, if_neg hdown] at hrise ⊢
    omega

theorem abs_direction : |s.direction| = 1 := by
  unfold direction
  split <;> rfl

@[simp] theorem length_nearestPixels : s.nearestPixels.length = s.steps.toNat + 1 := by
  simp [nearestPixels]

theorem mem_nearestPixels_iff {p : Point Int} :
    p ∈ s.nearestPixels ↔ ∃ i, 0 ≤ i ∧ i ≤ s.steps ∧ p = s.pixelAt i := by
  have hsteps := s.steps_nonneg
  rw [nearestPixels, List.mem_map]
  constructor
  · rintro ⟨i, hi, rfl⟩
    have hbound := List.mem_range.mp hi
    exact ⟨i, by omega, by omega, rfl⟩
  · rintro ⟨i, hnonneg, hle, rfl⟩
    refine ⟨i.toNat, List.mem_range.mpr (by omega), ?_⟩
    rw [Int.toNat_of_nonneg hnonneg]

theorem mem_nearestPixels_iff_ceil {p : Point Int} :
    p ∈ s.nearestPixels ↔
      if s.rise ≤ s.run then
        ∃ i, 0 ≤ i ∧ i ≤ s.run ∧
          p = ⟨s.start.x + i, s.start.y + s.direction *
            ⌈((2 * i * s.rise - s.run : Int) : ℚ) / (2 * s.run : Int)⌉⟩
      else
        ∃ i, 0 ≤ i ∧ i ≤ s.rise ∧
          p = ⟨s.start.x + ⌈((2 * i * s.run - s.rise : Int) : ℚ) / (2 * s.rise : Int)⌉,
            s.start.y + s.direction * i⟩ := by
  rw [mem_nearestPixels_iff]
  by_cases hshallow : s.rise ≤ s.run
  · simp only [steps, pixelAt, Raster.nearestStep, if_pos hshallow, max_eq_left hshallow]
  · simp only [steps, pixelAt, Raster.nearestStep, if_neg hshallow,
      max_eq_right (le_of_not_ge hshallow)]

theorem pixelAt_injective : Function.Injective s.pixelAt := by
  intro i j h
  unfold pixelAt at h
  split at h
  · have hx := congrArg Point.x h
    exact add_left_cancel hx
  · have hy := add_left_cancel (congrArg Point.y h)
    have hproduct := congrArg (s.direction * ·) hy
    simpa [← mul_assoc, direction_mul_direction] using hproduct

theorem y_pixelAt_eq_iff (hsteep : s.run < s.rise) {i : Int} :
    (s.pixelAt i).y = s.finish.y ↔ i = s.steps := by
  have hfinish : s.finish.y = s.start.y + s.direction * s.rise := by
    rw [direction_mul_rise]
    omega
  have hdirection : s.direction ≠ 0 := fun hzero => by
    simpa [hzero] using s.direction_mul_direction
  rw [pixelAt, if_neg (not_le_of_gt hsteep), hfinish, steps, max_eq_right hsteep.le,
    add_right_inj, mul_right_inj' hdirection]

theorem nodup_nearestPixels : s.nearestPixels.Nodup := by
  refine List.Nodup.map ?_ List.nodup_range
  exact s.pixelAt_injective.comp Nat.cast_injective

section

variable {s} (hrun : 0 ≤ s.run)
include hrun

theorem pixelAt_zero : s.pixelAt 0 = s.start := by
  unfold pixelAt
  split
  · rename_i hle
    simp [Raster.nearestStep_zero s.rise_nonneg hle]
  · rename_i hlt
    simp [Raster.nearestStep_zero hrun (le_of_not_ge hlt)]

theorem pixelAt_steps : s.pixelAt s.steps = s.finish := by
  have hx : s.start.x + s.run = s.finish.x := by
    unfold run
    omega
  have hy : s.start.y + s.direction * s.rise = s.finish.y := by
    rw [direction_mul_rise]
    omega
  unfold pixelAt steps
  split
  · rename_i hle
    rw [max_eq_left hle, Raster.nearestStep_self s.rise_nonneg hle, hx, hy]
  · rename_i hlt
    have hle := le_of_not_ge hlt
    rw [max_eq_right hle, Raster.nearestStep_self hrun hle, hx, hy]

theorem head?_nearestPixels : s.nearestPixels.head? = some s.start := by
  rw [nearestPixels, List.range_succ_eq_map]
  simp [pixelAt_zero hrun]

theorem getLast?_nearestPixels : s.nearestPixels.getLast? = some s.finish := by
  have hsteps : ((s.steps.toNat : Nat) : Int) = s.steps :=
    Int.toNat_of_nonneg s.steps_nonneg
  rw [nearestPixels, List.range_succ]
  simp [hsteps, pixelAt_steps hrun]

theorem pixelAt_mem {i : Int} (hi : 0 ≤ i) (hle : i ≤ s.steps) :
    s.start.x ≤ (s.pixelAt i).x ∧ (s.pixelAt i).x ≤ s.finish.x ∧
      min s.start.y s.finish.y ≤ (s.pixelAt i).y ∧
      (s.pixelAt i).y ≤ max s.start.y s.finish.y := by
  have hfinish : s.finish.x = s.start.x + s.run := by
    unfold run
    omega
  by_cases hshallow : s.rise ≤ s.run
  · rw [steps, max_eq_left hshallow] at hle
    have hstep := Raster.nearestStep_nonneg s.rise_nonneg hshallow hi
    have hrise := Raster.nearestStep_le s.rise_nonneg hshallow hle
    rw [pixelAt, if_pos hshallow, hfinish]
    exact ⟨by simpa using hi, by simpa using hle, s.ordinate_mem hstep hrise⟩
  · have hsteep := le_of_not_ge hshallow
    rw [steps, max_eq_right hsteep] at hle
    have hstep := Raster.nearestStep_nonneg hrun hsteep hi
    have hrise := Raster.nearestStep_le hrun hsteep hle
    rw [pixelAt, if_neg hshallow, hfinish]
    exact ⟨by simpa using hstep, by simpa using hrise, s.ordinate_mem hi hle⟩

theorem pixelAt_neighbour {i : Int} (hi : 0 ≤ i) (hlt : i < s.steps) :
    (s.pixelAt i).Neighbour (s.pixelAt (i + 1)) := by
  have hne : s.pixelAt i ≠ s.pixelAt (i + 1) := fun heq => by
    have hsame := s.pixelAt_injective heq
    omega
  by_cases hshallow : s.rise ≤ s.run
  · rw [steps, max_eq_left hshallow] at hlt
    have hstep := Raster.abs_nearestStep_succ_sub_le (by omega) s.rise_nonneg hshallow i
    refine ⟨hne, ?_, ?_⟩
    · simp [pixelAt, hshallow]
    · simpa [pixelAt, hshallow, ← mul_sub, abs_mul, abs_direction] using hstep
  · have hsteep := le_of_not_ge hshallow
    rw [steps, max_eq_right hsteep] at hlt
    have hstep := Raster.abs_nearestStep_succ_sub_le (by omega) hrun hsteep i
    refine ⟨hne, ?_, ?_⟩
    · simpa [pixelAt, hshallow] using hstep
    · simp [pixelAt, hshallow, ← mul_sub, abs_direction]

theorem near_pixelAt (i : Int) : s.Near (s.pixelAt i) := by
  have hsquare : (s.direction : ℚ) * s.direction = 1 := by
    exact_mod_cast s.direction_mul_direction
  have hrise : (s.finish.y : ℚ) - s.start.y = s.direction * s.rise := by
    exact_mod_cast s.direction_mul_rise.symm
  have hdx : (s.finish.x : ℚ) - s.start.x = s.run := by simp [run]
  unfold Near
  by_cases hshallow : s.rise ≤ s.run
  · have hdistance : (s.direction : ℚ) * ((s.pixelAt i).y -
        ((s.map (Point.map Int.cast) : Segment ℚ).atAbscissa (s.pixelAt i).x).y) =
          Raster.nearestStep s.run s.rise i - s.rise * i / s.run := by
      simp only [pixelAt, if_pos hshallow, map, Point.map, atAbscissa, hrise, hdx]
      push_cast
      linear_combination (Raster.nearestStep s.run s.rise i - s.rise * i / s.run : ℚ) *
        hsquare
    simp only [if_pos hshallow, hdistance]
    exact Raster.nearestStep_sub_mem s.rise_nonneg hshallow i
  · have hsteep := le_of_not_ge hshallow
    have hdirection : (s.direction : ℚ) ≠ 0 := fun hzero => by simp [hzero] at hsquare
    have hdistance : ((s.pixelAt i).x : ℚ) -
        ((s.map (Point.map Int.cast) : Segment ℚ).atHeight (s.pixelAt i).y).x =
          Raster.nearestStep s.rise s.run i - s.run * i / s.rise := by
      simp only [pixelAt, if_neg hshallow, map, Point.map, atHeight, hrise, hdx]
      push_cast
      rw [add_sub_cancel_left, mul_left_comm, mul_div_mul_left _ _ hdirection]
      ring
    simp only [if_neg hshallow, hdistance]
    exact Raster.nearestStep_sub_mem hrun hsteep i

theorem isChain_nearestPixels : s.nearestPixels.IsChain Point.Neighbour := by
  rw [nearestPixels, List.isChain_map, List.isChain_range_succ]
  intro i hi
  exact pixelAt_neighbour hrun (Int.natCast_nonneg i) (by omega)

end

private theorem mapIdx_map_range {α β : Type} (count : Nat) (f : Nat → α)
    (g : Nat → α → β) :
    ((List.range count).map f).mapIdx g = (List.range count).map fun i => g i (f i) :=
  List.ext_getElem (by simp) fun i _ _ => by simp

theorem rightwardPixels_eq (hrun : 0 ≤ s.run) : s.rightwardPixels = s.nearestPixels := by
  have hx : (s.finish.x - s.start.x).toNat = s.run.toNat := rfl
  have hy : (s.finish.y - s.start.y).natAbs = s.rise.toNat := by
    rw [rise, Int.abs_eq_natAbs, Int.toNat_natCast]
  have hrise := s.rise_nonneg
  by_cases hshallow : s.rise ≤ s.run
  · have hle : s.rise.toNat ≤ s.run.toNat := by omega
    simp only [rightwardPixels, nearestPixels, pixelAt, steps, hx, hy, if_pos hle,
      if_pos hshallow, max_eq_left hshallow, Raster.minorSteps_eq_map hle,
      mapIdx_map_range, Int.toNat_of_nonneg hrun, Int.toNat_of_nonneg hrise]
    rfl
  · have hsteep := le_of_not_ge hshallow
    have hle : s.run.toNat ≤ s.rise.toNat := by omega
    have hnot : ¬ s.rise.toNat ≤ s.run.toNat := by omega
    simp only [rightwardPixels, nearestPixels, pixelAt, steps, hx, hy, if_neg hnot,
      if_neg hshallow, max_eq_right hsteep, Raster.minorSteps_eq_map hle,
      mapIdx_map_range, Int.toNat_of_nonneg hrun, Int.toNat_of_nonneg hrise]
    rfl

/-- The second pixel and the last but one lie half a pixel from the line. -/
example : (Segment.mk (Point.mk 0 0) (Point.mk 4 2)).pixels =
    [⟨0, 0⟩, ⟨1, 0⟩, ⟨2, 1⟩, ⟨3, 1⟩, ⟨4, 2⟩] := by decide

end Segment

end Wireframe
