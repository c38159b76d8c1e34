import Mathlib.Algebra.Order.Floor.Ring
import Mathlib.Data.Rat.Floor
import Wireframe.Proofs.Binary.Value

/-!
Integer parts. A floating-point number is cut off at the point, towards zero, and what
lies beyond the bounds is held at them.
-/

namespace Wireframe.Binary

/-- The integer part, next to the number on the side of zero. -/
def truncate (q : ℚ) : ℤ :=
  if q < 0 then ⌈q⌉ else ⌊q⌋

section

variable {p q : ℚ}

theorem truncate_of_neg (h : q < 0) : truncate q = ⌈q⌉ :=
  if_pos h

theorem truncate_of_nonneg (h : 0 ≤ q) : truncate q = ⌊q⌋ :=
  if_neg h.not_gt

@[simp] theorem truncate_zero : truncate 0 = 0 := by
  rw [truncate_of_nonneg le_rfl, Int.floor_zero]

@[simp] theorem truncate_neg (q : ℚ) : truncate (-q) = -truncate q := by
  rcases lt_trichotomy q 0 with hneg | rfl | hpos
  · rw [truncate_of_neg hneg, truncate_of_nonneg (neg_nonneg.mpr hneg.le), Int.floor_neg]
  · simp
  · rw [truncate_of_nonneg hpos.le, truncate_of_neg (neg_lt_zero.mpr hpos), Int.ceil_neg]

theorem truncate_mono (h : p ≤ q) : truncate p ≤ truncate q := by
  rcases lt_or_ge p 0 with hp | hp
  · rw [truncate_of_neg hp]
    rcases lt_or_ge q 0 with hq | hq
    · rw [truncate_of_neg hq]
      exact Int.ceil_mono h
    · rw [truncate_of_nonneg hq]
      exact (Int.ceil_nonpos.mpr hp.le).trans (Int.floor_nonneg.mpr hq)
  · rw [truncate_of_nonneg hp, truncate_of_nonneg (hp.trans h)]
    exact Int.floor_mono h

theorem truncate_eq_floor_abs (q : ℚ) : truncate q = if q < 0 then -⌊|q|⌋ else ⌊|q|⌋ := by
  split
  · rename_i hneg
    rw [truncate_of_neg hneg, abs_of_neg hneg, Int.floor_neg, Int.neg_neg]
  · rename_i hnonneg
    rw [truncate_of_nonneg (not_lt.mp hnonneg), abs_of_nonneg (not_lt.mp hnonneg)]

theorem truncate_eq_zero_iff : truncate q = 0 ↔ |q| < 1 := by
  have hfloor : ⌊|q|⌋ = 0 ↔ |q| < 1 := by
    rw [Int.floor_eq_zero_iff]
    simp
  rw [truncate_eq_floor_abs, ← hfloor]
  split
  · exact neg_eq_zero
  · rfl

theorem truncate_congr (hparts : ⌊|p|⌋ = ⌊|q|⌋) (hsides : 0 ≤ p * q) :
    truncate p = truncate q := by
  have hmixed : ∀ {a b : ℚ}, a < 0 → 0 ≤ b → 0 ≤ a * b → ⌊|b|⌋ = 0 := by
    intro a b ha hb hab
    have hzero : b = 0 := le_antisymm (nonpos_of_mul_nonneg_right hab ha) hb
    rw [hzero, abs_zero, Int.floor_zero]
  rw [truncate_eq_floor_abs, truncate_eq_floor_abs, hparts]
  split
  · rename_i hp
    split
    · rfl
    · rename_i hq
      rw [hmixed hp (not_lt.mp hq) hsides, neg_zero]
  · rename_i hp
    split
    · rename_i hq
      rw [← hparts, hmixed hq (not_lt.mp hp) (mul_comm p q ▸ hsides), neg_zero]
    · rfl

end

/-! Floating-point numbers. -/

variable {f : Format} {x y : Binary f} {low high : ℤ}

theorem truncate_toRat_finite (negative : Bool) {units : Nat}
    (h : f.Representable units) :
    truncate (finite negative units h).toRat =
      signed negative (units / 2 ^ f.scale : Nat) := by
  have hpositive : truncate ((units : ℚ) / (2 ^ f.scale : Nat)) =
      (units / 2 ^ f.scale : Nat) := by
    rw [truncate_of_nonneg (by positivity), Rat.floor_natCast_div_natCast]
    rfl
  cases negative with
  | false =>
      rw [signed_false, ← hpositive]
      rfl
  | true =>
      have hneg : (finite true units h).toRat = -((units : ℚ) / (2 ^ f.scale : Nat)) := by
        rw [toRat, level, signed_true, Int.cast_neg, Int.cast_natCast, neg_div]
      rw [hneg, truncate_neg, hpositive, signed_true]

theorem truncateWithin_of_isFinite (h : x.IsFinite) :
    x.truncateWithin low high = max low (min high (truncate x.toRat)) := by
  obtain ⟨negative, units, hunits, rfl⟩ := h
  rw [truncate_toRat_finite]
  rfl

theorem truncateWithin_mono (hlow : low ≤ 0) (hhigh : 0 ≤ high) (hx : x ≠ nan)
    (hy : y ≠ nan) (h : ¬ y < x) :
    x.truncateWithin low high ≤ y.truncateWithin low high := by
  -- The infinities go to the bounds, and no other number is beyond them.
  cases x with
  | nan => exact absurd rfl hx
  | infinity a =>
      cases a with
      | true => exact (truncateWithin_mem hlow hhigh y).1
      | false =>
          cases y with
          | nan => exact absurd rfl hy
          | infinity b =>
              cases b with
              | false => exact le_rfl
              | true => exact absurd rfl h
          | finite b v hv => exact absurd rfl h
  | finite a u hu =>
      cases y with
      | nan => exact absurd rfl hy
      | infinity b =>
          cases b with
          | false => exact (truncateWithin_mem hlow hhigh _).2
          | true => exact absurd rfl h
      | finite b v hv =>
          rw [lt_iff_toRat_lt ⟨_, _, _, rfl⟩ ⟨_, _, _, rfl⟩, not_lt] at h
          rw [truncateWithin_of_isFinite ⟨_, _, _, rfl⟩,
            truncateWithin_of_isFinite ⟨_, _, _, rfl⟩]
          exact max_le_max_left low (min_le_min_left high (truncate_mono h))

end Wireframe.Binary
