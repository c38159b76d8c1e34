import Mathlib.Data.Rat.Cast.Order
import Mathlib.Tactic.FieldSimp
import Mathlib.Tactic.Linarith
import Mathlib.Tactic.Positivity
import Wireframe.Proofs.Binary.Order

/-!
The rational values of finite floating-point numbers. The result of an operation never
lies beyond a number of the format that the exact result does not lie beyond.
-/

namespace Wireframe.Binary

variable {f : Format}

def IsFinite (x : Binary f) : Prop :=
  ∃ negative units h, x = finite negative units h

instance : (x : Binary f) → Decidable x.IsFinite
  | nan => isFalse nofun
  | infinity _ => isFalse nofun
  | finite negative units h => isTrue ⟨negative, units, h, rfl⟩

def toRat (x : Binary f) : ℚ :=
  x.level / (2 ^ f.scale : Nat)

def Format.Number (f : Format) (q : ℚ) : Prop :=
  ∃ level : Int, f.Representable level.natAbs ∧ q = level / (2 ^ f.scale : Nat)

structure Within (low high : ℚ) (x : Binary f) : Prop where
  finite : x.IsFinite
  low_le : low ≤ x.toRat
  le_high : x.toRat ≤ high

theorem unit_pos (f : Format) : (0 : ℚ) < (2 ^ f.scale : Nat) :=
  Nat.cast_pos.mpr (Nat.two_pow_pos _)

theorem cast_two_pow_succ (k : Nat) : ((2 ^ (k + 1) : Nat) : ℚ) = 2 * (2 ^ k : Nat) := by
  rw [Nat.pow_succ, Nat.mul_comm, Nat.cast_mul, Nat.cast_two]

theorem Within.toRat_eq {q : ℚ} {x : Binary f} (h : x.Within q q) : x.toRat = q :=
  le_antisymm h.le_high h.low_le

theorem IsFinite.neg {x : Binary f} (h : x.IsFinite) : (-x).IsFinite := by
  obtain ⟨negative, units, hunits, rfl⟩ := h
  exact ⟨_, _, hunits, rfl⟩

theorem toRat_neg (x : Binary f) : (-x).toRat = -x.toRat := by
  have hlevel : (-x).level = -x.level := by
    cases x with
    | nan => rfl
    | infinity negative => cases negative <;> simp [level]
    | finite negative units h => cases negative <;> simp [level]
  rw [toRat, toRat, hlevel, Int.cast_neg, neg_div]

theorem toRat_zero (negative : Bool) : (zero negative : Binary f).toRat = 0 := by
  cases negative <;> simp [toRat, level, zero]

theorem lt_iff_toRat_lt {x y : Binary f} (hx : x.IsFinite) (hy : y.IsFinite) :
    x < y ↔ x.toRat < y.toRat := by
  have hfinite : ∀ {z : Binary f}, z.IsFinite → z ≠ nan := by
    rintro _ ⟨negative, units, hunits, rfl⟩ hnan
    cases hnan
  rw [lt_iff_level_lt (hfinite hx) (hfinite hy), toRat, toRat,
    div_lt_div_iff_of_pos_right (unit_pos f), Int.cast_lt]

theorem signed_natAbs (n : Int) : signed (n < 0) n.natAbs = n := by
  rcases Int.lt_or_le n 0 with hn | hn
  · rw [decide_eq_true hn, signed_true]
    omega
  · rw [decide_eq_false (not_lt.mpr hn), signed_false]
    omega

theorem signed_mul (a b : Bool) (u v : Nat) :
    signed (a ^^ b) (u * v) = signed a u * signed b v := by
  cases a <;> cases b <;> simp

theorem Format.Number.neg {q : ℚ} (h : f.Number q) : f.Number (-q) := by
  obtain ⟨level, hlevel, rfl⟩ := h
  refine ⟨-level, (Int.natAbs_neg level).symm ▸ hlevel, ?_⟩
  rw [Int.cast_neg, neg_div]

/-! Numbers of a format. -/

theorem number_of_shift {q : ℚ} {significand : Int} {shift : Nat}
    (hsignificand : significand.natAbs ≤ 2 ^ f.precision)
    (hshift : shift + f.precision < f.width)
    (hq : q * (2 ^ f.scale : Nat) = significand * (2 ^ shift : Nat)) : f.Number q := by
  have hnatAbs : (significand * (2 ^ shift : Nat)).natAbs =
      2 ^ shift * significand.natAbs := by
    rw [Int.natAbs_mul, Int.natAbs_natCast, Nat.mul_comm]
  have hlt : 2 ^ shift * significand.natAbs < 2 ^ f.width := by
    calc
      2 ^ shift * significand.natAbs ≤ 2 ^ shift * 2 ^ f.precision :=
        Nat.mul_le_mul_left _ hsignificand
      _ = 2 ^ (shift + f.precision) := (Nat.pow_add ..).symm
      _ < 2 ^ f.width := Nat.pow_lt_pow_right (by decide) hshift
  refine ⟨significand * (2 ^ shift : Nat), ?_, ?_⟩
  · rw [hnatAbs]
    exact Format.representable_shift hsignificand hlt
  · rw [eq_div_iff (unit_pos f).ne', hq, Int.cast_mul, Int.cast_natCast]

theorem number_dyadic (hroom : f.scale + f.precision < f.width) {m : Int} {places : Nat}
    (hm : m.natAbs ≤ 2 ^ f.precision) (hplaces : places ≤ f.scale) :
    f.Number (m / (2 ^ places : Nat)) := by
  have hpos : (0 : ℚ) < (2 ^ places : Nat) := Nat.cast_pos.mpr (Nat.two_pow_pos _)
  refine @number_of_shift f _ m (f.scale - places) hm (by omega) ?_
  rw [div_mul_eq_mul_div, div_eq_iff hpos.ne', mul_assoc, ← Nat.cast_mul, ← Nat.pow_add,
    Nat.sub_add_cancel hplaces]

theorem number_whole (hroom : f.scale + f.precision < f.width) {m : Int}
    (hm : m.natAbs ≤ 2 ^ f.precision) : f.Number m := by
  have hnumber := number_dyadic hroom hm (Nat.zero_le f.scale)
  rwa [Nat.pow_zero, Nat.cast_one, div_one] at hnumber

theorem number_two_pow {k : Nat} (hk : f.scale + k + f.precision < f.width) :
    f.Number (2 ^ k : Nat) := by
  refine @number_of_shift f _ 1 (f.scale + k) Nat.one_le_two_pow (by omega) ?_
  rw [Int.cast_one, one_mul, ← Nat.cast_mul, ← Nat.pow_add, Nat.add_comm]

/-! Rounding. -/

section

variable {low high : Int} {negative : Bool} {num den : Nat}

theorem ofRatio_eq_finite_of_le {units : Nat} (hunits : f.Representable units)
    (h : num ≤ units * den) :
    ∃ h' : f.Representable (f.round num den),
      ofRatio negative num den = finite negative (f.round num den) h' := by
  have hround : f.round num den ≤ units := Format.round_le_of_le hunits.dvd h
  have hlt : f.round num den < 2 ^ f.width := hround.trans_lt hunits.lt
  exact ⟨Format.representable_round hlt, dif_pos hlt⟩

theorem ofRatio_between (hden : 0 < den) (hlow : f.Representable low.natAbs)
    (hhigh : f.Representable high.natAbs) (hle_low : low * den ≤ signed negative num)
    (hle_high : signed negative num ≤ high * den) :
    ∃ units, ∃ h : f.Representable units, ofRatio negative num den =
      finite negative units h ∧
      low ≤ signed negative units ∧ signed negative units ≤ high := by
  have hpos : (0 : Int) < den := Int.natCast_pos.mpr hden
  cases negative with
  | false =>
      rw [signed_false] at hle_low hle_high
      have hhigh_nonneg : 0 ≤ high :=
        nonneg_of_mul_nonneg_left ((Int.natCast_nonneg num).trans hle_high) hpos
      have hnum : num ≤ high.natAbs * den := by
        zify
        rwa [abs_of_nonneg hhigh_nonneg]
      obtain ⟨hfinite, heq⟩ := @ofRatio_eq_finite_of_le f false _ _ _ hhigh hnum
      have hround := Format.round_le_of_le hhigh.dvd hnum
      refine ⟨_, hfinite, heq, ?_, ?_⟩
      · rw [signed_false]
        rcases Int.lt_or_le low 0 with hneg | hnonneg
        · exact hneg.le.trans (Int.natCast_nonneg _)
        · have hunits : low.natAbs * den ≤ num := by
            zify
            rwa [abs_of_nonneg hnonneg]
          have hle := Format.le_round_of_le hden hlow.dvd hunits
          omega
      · rw [signed_false]
        omega
  | true =>
      rw [signed_true] at hle_low hle_high
      have hlow_nonpos : low ≤ 0 := by
        by_contra hlow_pos
        have hproduct := Int.mul_pos (not_le.mp hlow_pos) hpos
        omega
      have hnum : num ≤ low.natAbs * den := by
        zify
        rw [abs_of_nonpos hlow_nonpos, neg_mul]
        omega
      obtain ⟨hfinite, heq⟩ := @ofRatio_eq_finite_of_le f true _ _ _ hlow hnum
      have hround := Format.round_le_of_le hlow.dvd hnum
      refine ⟨_, hfinite, heq, ?_, ?_⟩
      · rw [signed_true]
        omega
      · rw [signed_true]
        rcases Int.lt_or_le high 0 with hneg | hnonneg
        · have hunits : high.natAbs * den ≤ num := by
            zify
            rw [abs_of_neg hneg, neg_mul]
            omega
          have hle := Format.le_round_of_le hden hhigh.dvd hunits
          omega
        · omega

end

/-! Operations. -/

section

variable {low high : ℚ} {x y : Binary f} (hlow : f.Number low) (hhigh : f.Number high)
include hlow hhigh

theorem within_ofRatio {negative : Bool} {num den : Nat} (hden : 0 < den)
    (hle_low : low ≤ signed negative num / (den * (2 ^ f.scale : Nat)))
    (hle_high : signed negative num / (den * (2 ^ f.scale : Nat)) ≤ high) :
    (ofRatio negative num den : Binary f).Within low high := by
  obtain ⟨low, hlow, rfl⟩ := hlow
  obtain ⟨high, hhigh, rfl⟩ := hhigh
  have hunit := unit_pos f
  have hden_pos : (0 : ℚ) < den := Nat.cast_pos.mpr hden
  rw [← div_div, div_le_div_iff_of_pos_right hunit] at hle_low hle_high
  rw [le_div_iff₀ hden_pos] at hle_low
  rw [div_le_iff₀ hden_pos] at hle_high
  norm_cast at hle_low hle_high
  obtain ⟨units, hunits, heq, hge, hle⟩ :=
    ofRatio_between hden hlow hhigh hle_low hle_high
  refine ⟨⟨_, _, _, heq⟩, ?_, ?_⟩
  · rw [toRat, div_le_div_iff_of_pos_right hunit, heq, Int.cast_le]
    exact hge
  · rw [toRat, div_le_div_iff_of_pos_right hunit, heq, Int.cast_le]
    exact hle

theorem within_cast {n : Int} (hle_low : low ≤ n) (hle_high : n ≤ high) :
    (n : Binary f).Within low high := by
  have hunit := unit_pos f
  have hvalue : (signed (n < 0) (n.natAbs * 2 ^ f.scale) : ℚ) /
      ((1 : Nat) * (2 ^ f.scale : Nat)) = n := by
    have hsigned := signed_mul (n < 0) false n.natAbs (2 ^ f.scale)
    rw [Bool.xor_false, signed_natAbs, signed_false] at hsigned
    rw [hsigned, Int.cast_mul, Int.cast_natCast, Nat.cast_one, one_mul]
    exact mul_div_cancel_right₀ _ hunit.ne'
  exact within_ofRatio hlow hhigh one_pos (hvalue ▸ hle_low) (hvalue ▸ hle_high)

theorem within_add (hx : x.IsFinite) (hy : y.IsFinite) (hle_low : low ≤ x.toRat + y.toRat)
    (hle_high : x.toRat + y.toRat ≤ high) : (x + y).Within low high := by
  obtain ⟨a, u, hu, rfl⟩ := hx
  obtain ⟨b, v, hv, rfl⟩ := hy
  have hsum : (finite a u hu).toRat + (finite b v hv).toRat =
      ((signed a u + signed b v : Int) : ℚ) / (2 ^ f.scale : Nat) := by
    rw [Int.cast_add, add_div]
    rfl
  rw [hsum] at hle_low hle_high
  change (add (finite a u hu) (finite b v hv)).Within low high
  rw [add]
  split
  · rename_i hzero
    rw [hzero, Int.cast_zero, zero_div] at hle_low hle_high
    exact ⟨⟨_, _, _, rfl⟩, (toRat_zero _).symm ▸ hle_low, (toRat_zero _).symm ▸ hle_high⟩
  · rw [← signed_natAbs (signed a u + signed b v)] at hle_low hle_high
    rw [← one_mul ((2 ^ f.scale : Nat) : ℚ), ← Nat.cast_one] at hle_low hle_high
    exact within_ofRatio hlow hhigh one_pos hle_low hle_high

theorem within_sub (hx : x.IsFinite) (hy : y.IsFinite) (hle_low : low ≤ x.toRat - y.toRat)
    (hle_high : x.toRat - y.toRat ≤ high) : (x - y).Within low high := by
  have hsum : x.toRat - y.toRat = x.toRat + (-y).toRat := by
    rw [toRat_neg]
    ring
  rw [hsum] at hle_low hle_high
  exact within_add hlow hhigh hx hy.neg hle_low hle_high

theorem within_mul (hx : x.IsFinite) (hy : y.IsFinite) (hle_low : low ≤ x.toRat * y.toRat)
    (hle_high : x.toRat * y.toRat ≤ high) : (x * y).Within low high := by
  obtain ⟨a, u, hu, rfl⟩ := hx
  obtain ⟨b, v, hv, rfl⟩ := hy
  have hproduct : (finite a u hu).toRat * (finite b v hv).toRat =
      (signed (a ^^ b) (u * v) : ℚ) / ((2 ^ f.scale : Nat) * (2 ^ f.scale : Nat)) := by
    rw [signed_mul, Int.cast_mul, mul_div_mul_comm]
    rfl
  rw [hproduct] at hle_low hle_high
  exact within_ofRatio hlow hhigh (Nat.two_pow_pos _) hle_low hle_high

theorem within_div (hx : x.IsFinite) (hy : y.IsFinite) (hne : y.toRat ≠ 0)
    (hle_low : low ≤ x.toRat / y.toRat) (hle_high : x.toRat / y.toRat ≤ high) :
    (x / y).Within low high := by
  obtain ⟨a, u, hu, rfl⟩ := hx
  obtain ⟨b, v, hv, rfl⟩ := hy
  have hunit := unit_pos f
  have hv_ne : v ≠ 0 := by
    rintro rfl
    exact hne (toRat_zero b)
  have hv_pos : (0 : ℚ) < v := Nat.cast_pos.mpr (Nat.pos_of_ne_zero hv_ne)
  have hquotient : (finite a u hu).toRat / (finite b v hv).toRat =
      (signed (a ^^ b) (u * 2 ^ f.scale) : ℚ) / (v * (2 ^ f.scale : Nat)) := by
    cases a <;> cases b <;> simp [toRat, level] <;> field_simp
  rw [hquotient] at hle_low hle_high
  change (div (finite a u hu) (finite b v hv)).Within low high
  rw [div, if_neg hv_ne]
  exact within_ofRatio hlow hhigh (Nat.pos_of_ne_zero hv_ne) hle_low hle_high

end

end Wireframe.Binary
