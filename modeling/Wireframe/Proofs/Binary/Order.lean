import Mathlib.Tactic.Ring
import Wireframe.Binary.Integer
import Wireframe.Proofs.Binary.Rounding

/-!
The order of floating-point numbers, and whole numbers among them. Whole numbers are
converted in their order, and those that a significand has room for are converted exactly.
-/

namespace Wireframe.Binary

variable {f : Format}

/-- Units under their sign, with infinity beyond all finite numbers. -/
def level : Binary f → Int
  | nan => 0
  | infinity negative => signed negative (2 ^ f.width)
  | finite negative units _ => signed negative units

theorem lt_iff_level_lt {x y : Binary f} (hx : x ≠ nan) (hy : y ≠ nan) :
    x < y ↔ x.level < y.level := by
  have hpos : (0 : Int) < 2 ^ f.width := Int.pow_pos (by decide)
  change lt x y = true ↔ _
  cases x with
  | nan => exact absurd rfl hx
  | infinity a =>
      cases y with
      | nan => exact absurd rfl hy
      | infinity b => cases a <;> cases b <;> simp [lt, level, signed, hpos, hpos.le]
      | finite b v hv =>
          have hlt : (v : Int) < 2 ^ f.width := by exact_mod_cast hv.lt
          cases a <;> cases b <;> simp [lt, level, signed] <;> omega
  | finite a u hu =>
      have hlt : (u : Int) < 2 ^ f.width := by exact_mod_cast hu.lt
      cases y with
      | nan => exact absurd rfl hy
      | infinity b => cases a <;> cases b <;> simp [lt, level, signed] <;> omega
      | finite b v hv => simp [lt, level]

theorem level_ofRatio (negative : Bool) (num den : Nat) :
    (ofRatio negative num den : Binary f).level =
      signed negative (min (f.round num den) (2 ^ f.width)) := by
  unfold ofRatio
  split
  · rename_i hlt
    rw [Nat.min_eq_left hlt.le]
    rfl
  · rename_i hge
    rw [Nat.min_eq_right (Nat.le_of_not_lt hge)]
    rfl

theorem ofRatio_ne_nan (negative : Bool) (num den : Nat) :
    (ofRatio negative num den : Binary f) ≠ nan := by
  unfold ofRatio
  split <;> simp

theorem cast_ne_nan (n : Int) : (n : Binary f) ≠ nan :=
  ofRatio_ne_nan _ _ _

theorem level_cast_mono {m n : Int} (h : m ≤ n) :
    (m : Binary f).level ≤ (n : Binary f).level := by
  let magnitude (a : Nat) : Nat := min (f.round (a * 2 ^ f.scale) 1) (2 ^ f.width)
  have hmono : ∀ {a b : Nat}, a ≤ b → (magnitude a : Int) ≤ magnitude b := fun hab =>
    Int.ofNat_le.mpr
      (min_le_min_right _ (Format.round_mono one_pos (Nat.mul_le_mul_right _ hab)))
  have hlevel : ∀ k : Int, (k : Binary f).level = signed (k < 0) (magnitude k.natAbs) :=
    fun k =>
      level_ofRatio _ _ _
  rw [hlevel, hlevel]
  rcases Int.lt_or_le n 0 with hn | hn
  · have hm : m < 0 := h.trans_lt hn
    rw [decide_eq_true hm, decide_eq_true hn, signed_true, signed_true]
    exact Int.neg_le_neg (hmono (by omega))
  · rw [decide_eq_false (not_lt.mpr hn), signed_false]
    rcases Int.lt_or_le m 0 with hm | hm
    · rw [decide_eq_true hm, signed_true]
      exact (Int.neg_nonpos_of_nonneg (Int.natCast_nonneg _)).trans (Int.natCast_nonneg _)
    · rw [decide_eq_false (not_lt.mpr hm), signed_false]
      exact hmono (by omega)

/-! Whole numbers with as many bits as a significand. -/

theorem Format.double_room :
    Format.double.scale + Format.double.precision < Format.double.width := by decide

section

variable (hroom : f.scale + f.precision < f.width)
include hroom

theorem representable_whole {n : Nat} (h : n ≤ 2 ^ f.precision) :
    f.Representable (n * 2 ^ f.scale) := by
  rw [Nat.mul_comm]
  refine Format.representable_shift h ?_
  calc
    2 ^ f.scale * n ≤ 2 ^ f.scale * 2 ^ f.precision := Nat.mul_le_mul_left _ h
    _ = 2 ^ (f.scale + f.precision) := (Nat.pow_add ..).symm
    _ < 2 ^ f.width := Nat.pow_lt_pow_right (by decide) hroom

theorem cast_eq_finite {n : Int} (h : n.natAbs ≤ 2 ^ f.precision) :
    (n : Binary f) = finite (n < 0) (n.natAbs * 2 ^ f.scale)
      (representable_whole hroom h) := by
  have hround := @ofRatio_eq_finite f (n < 0) _ 1 (representable_whole hroom h) one_pos
  rwa [Nat.mul_one] at hround

theorem level_cast {n : Int} (h : n.natAbs ≤ 2 ^ f.precision) :
    (n : Binary f).level = n * (2 ^ f.scale : Nat) := by
  rw [cast_eq_finite hroom h, level]
  rcases Int.lt_or_le n 0 with hn | hn
  · rw [decide_eq_true hn, signed_true, Int.natCast_mul, Int.ofNat_natAbs_of_nonpos hn.le,
      Int.neg_mul, Int.neg_neg]
  · rw [decide_eq_false (not_lt.mpr hn), signed_false, Int.natCast_mul,
      Int.natAbs_of_nonneg hn]

theorem nearestInteger_cast {n : Int} (h : n.natAbs ≤ 2 ^ f.precision) :
    (n : Binary f).nearestInteger = n := by
  have hpos : 0 < 2 ^ f.scale := Nat.two_pow_pos _
  have hquotient : (2 * (n.natAbs * 2 ^ f.scale) + 2 ^ f.scale) / 2 ^ (f.scale + 1) =
      n.natAbs := by
    have hsum : 2 * (n.natAbs * 2 ^ f.scale) + 2 ^ f.scale =
        2 ^ f.scale + n.natAbs * (2 ^ f.scale * 2) := by
      ring
    rw [Nat.pow_succ, hsum, Nat.add_mul_div_right _ _ (by omega),
      Nat.div_eq_of_lt (by omega)]
    exact Nat.zero_add _
  rw [cast_eq_finite hroom h, nearestInteger, hquotient]
  rcases Int.lt_or_le n 0 with hn | hn
  · rw [decide_eq_true hn, signed_true, Int.ofNat_natAbs_of_nonpos hn.le, Int.neg_neg]
  · rw [decide_eq_false (not_lt.mpr hn), signed_false, Int.natAbs_of_nonneg hn]

end

end Wireframe.Binary
