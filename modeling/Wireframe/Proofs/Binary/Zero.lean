import Wireframe.Proofs.Binary.Value

/-!
Zeros in sums, products and quotients, whatever their signs.
-/

namespace Wireframe.Binary

variable {f : Format} {x : Binary f}

theorem sub_self_eq_zero (hx : x.IsFinite) : x - x = zero false := by
  obtain ⟨negative, units, hunits, rfl⟩ := hx
  have hsum : signed negative units + signed (!negative) units = 0 := by
    cases negative <;> simp
  change add (finite negative units hunits) (finite (!negative) units hunits) = _
  rw [add, if_pos hsum, Bool.and_not_self]

theorem zero_mul_eq (negative : Bool) (hx : x.IsFinite) :
    ∃ sign, zero negative * x = zero sign := by
  obtain ⟨other, units, hunits, rfl⟩ := hx
  refine ⟨negative ^^ other, ?_⟩
  change ofRatio (negative ^^ other) (0 * units) (2 ^ f.scale) = _
  rw [Nat.zero_mul, ofRatio_zero]

theorem zero_div_eq (negative : Bool) (hx : x.IsFinite) (hne : x.toRat ≠ 0) :
    ∃ sign, zero negative / x = zero sign := by
  obtain ⟨other, units, hunits, rfl⟩ := hx
  have hunits_ne : units ≠ 0 := by
    rintro rfl
    exact hne (toRat_zero other)
  refine ⟨negative ^^ other, ?_⟩
  change div (finite negative 0 f.representable_zero) (finite other units hunits) = _
  rw [div, if_neg hunits_ne, Nat.zero_mul, ofRatio_zero]

theorem add_zero_eq (hx : x.IsFinite) (hzero : x ≠ zero true) (negative : Bool) :
    x + zero negative = x := by
  obtain ⟨other, units, hunits, rfl⟩ := hx
  have hsigned : signed negative 0 = 0 := by
    cases negative <;> rfl
  change add (finite other units hunits) (finite negative 0 f.representable_zero) = _
  rw [add, hsigned, add_zero]
  by_cases hunits_zero : units = 0
  · subst hunits_zero
    cases other with
    | false => exact if_pos rfl
    | true => exact absurd rfl hzero
  · have hsum : signed other units ≠ 0 := by
      cases other <;> simpa
    have hsign : decide (signed other units < 0) = other := by
      cases other with
      | false => exact decide_eq_false (not_lt.mpr (Int.natCast_nonneg units))
      | true =>
          rw [signed_true]
          exact decide_eq_true (by omega)
    have hexact := @ofRatio_eq_finite f other units 1 hunits one_pos
    rw [if_neg hsum, hsign, natAbs_signed]
    rwa [Nat.mul_one] at hexact

theorem interpolate_self {y z : Binary f} (hx : x.IsFinite) (hzero : x ≠ zero true)
    (hy : y.IsFinite) (hz : z.IsFinite) (hne : z.toRat ≠ 0) :
    x + (x - x) * y / z = x := by
  obtain ⟨sign, hproduct⟩ := zero_mul_eq false hy
  obtain ⟨other, hquotient⟩ := zero_div_eq sign hz hne
  rw [sub_self_eq_zero hx, hproduct, hquotient]
  exact add_zero_eq hx hzero other

/-! The zeros and ones of an identity. -/

theorem ofNat_zero : (0 : Binary f) = zero false := by
  change ofRatio false (0 * 2 ^ f.scale) 1 = zero false
  rw [Nat.zero_mul, ofRatio_zero]

theorem zero_add_zero (negative other : Bool) :
    (zero negative + zero other : Binary f) = zero (negative && other) := by
  have hsum : signed negative 0 + signed other 0 = 0 := by
    cases negative <;> cases other <;> rfl
  exact if_pos hsum

theorem mul_zero_cases (x : Binary f) : (∃ sign, x * 0 = zero sign) ∨ x * 0 = nan := by
  rw [ofNat_zero]
  cases x with
  | nan => exact .inr rfl
  | infinity negative => exact .inr rfl
  | finite negative units hunits =>
      refine .inl ⟨negative ^^ false, ?_⟩
      change ofRatio (negative ^^ false) (units * 0) (2 ^ f.scale) = _
      rw [Nat.mul_zero, ofRatio_zero]

section

variable (hroom : f.scale + f.precision < f.width)
include hroom

theorem ofNat_one :
    (1 : Binary f) =
      finite false (1 * 2 ^ f.scale) (representable_whole hroom Nat.one_le_two_pow) :=
  cast_eq_finite hroom (n := 1) Nat.one_le_two_pow

theorem mul_one_eq (x : Binary f) : x * 1 = x := by
  rw [ofNat_one hroom]
  have hpos : 0 < 2 ^ f.scale := Nat.two_pow_pos _
  cases x with
  | nan => rfl
  | infinity negative =>
      change (if 1 * 2 ^ f.scale = 0 then nan else infinity (negative ^^ false)) = _
      rw [if_neg (by omega), Bool.xor_false]
  | finite negative units hunits =>
      change ofRatio (negative ^^ false) (units * (1 * 2 ^ f.scale)) (2 ^ f.scale) = _
      rw [Nat.one_mul, Bool.xor_false, ofRatio_eq_finite hunits hpos]

theorem zero_add_one (negative : Bool) : (zero negative + 1 : Binary f) = 1 := by
  rw [ofNat_one hroom]
  have hpos : 0 < 2 ^ f.scale := Nat.two_pow_pos _
  have hsum : signed negative 0 + signed false (1 * 2 ^ f.scale) =
      (2 ^ f.scale : Nat) := by
    cases negative <;> simp
  have hexact :=
    @ofRatio_eq_finite f false _ 1 (representable_whole hroom Nat.one_le_two_pow) one_pos
  change add (finite negative 0 f.representable_zero)
    (finite false (1 * 2 ^ f.scale) _) = _
  rw [add, hsum, if_neg (by omega), Int.natAbs_natCast, decide_eq_false (by omega)]
  simpa using hexact

end

/-! Differences of whole numbers far away. -/

theorem sub_toRat_ne_zero {y : Binary f} (hx : x.IsFinite) (hy : y.IsFinite)
    (h : x.level ≠ y.level) :
    (x - y).toRat ≠ 0 := by
  obtain ⟨a, u, hu, rfl⟩ := hx
  obtain ⟨b, v, hv, rfl⟩ := hy
  change signed a u ≠ signed b v at h
  have hneg : signed (!b) v = -signed b v := by
    cases b <;> simp
  have hsum : signed a u + signed (!b) v ≠ 0 := by
    omega
  have hround : 1 ≤ f.round (signed a u + signed (!b) v).natAbs 1 := by
    have hspacing : f.spacing 1 = 1 := by
      have hlog : Nat.log2 1 = 0 := by decide
      rw [Format.spacing, hlog, Nat.zero_add, Nat.sub_eq_zero_of_le f.precision_pos,
        Nat.pow_zero]
    exact Format.le_round_of_le one_pos (dvd_of_eq hspacing) (by omega)
  have hlevel : (finite a u hu - finite b v hv).level ≠ 0 := by
    change (add (finite a u hu) (finite (!b) v hv)).level ≠ 0
    rw [add, if_neg hsum, level_ofRatio, ← Int.natAbs_ne_zero, natAbs_signed]
    have hwidth : 0 < 2 ^ f.width := Nat.two_pow_pos _
    omega
  exact div_ne_zero (Int.cast_ne_zero.mpr hlevel) (unit_pos f).ne'

section

variable {reach : Nat} (hreach : f.scale + (reach + 1) + f.precision < f.width)
  {m n : Int}
  (hm : m.natAbs ≤ 2 ^ reach) (hn : n.natAbs ≤ 2 ^ reach)
include hreach hm

theorem cast_within_reach :
    (m : Binary f).Within (-(2 ^ reach : Nat)) (2 ^ reach : Nat) := by
  have hpower : f.Number (2 ^ reach : Nat) := number_two_pow (by omega)
  refine within_cast hpower.neg hpower ?_ ?_
  · have hle : -((2 ^ reach : Nat) : Int) ≤ m := by omega
    exact_mod_cast hle
  · have hle : m ≤ (2 ^ reach : Nat) := by omega
    exact_mod_cast hle

include hn

theorem cast_sub_cast_isFinite : ((m : Binary f) - n).IsFinite := by
  have hx := cast_within_reach hreach hm
  have hy := cast_within_reach hreach hn
  have hpower : f.Number (2 ^ (reach + 1) : Nat) := number_two_pow hreach
  have hdouble := cast_two_pow_succ reach
  refine (within_sub hpower.neg hpower hx.finite hy.finite ?_ ?_).finite
  · linarith [hx.low_le, hy.le_high]
  · linarith [hx.le_high, hy.low_le]

end

theorem level_cast_lt (hroom : f.scale + f.precision < f.width) {m n threshold : Int}
    (hthreshold : threshold.natAbs < 2 ^ f.precision) (hm : m < threshold)
    (hn : threshold ≤ n) :
    (m : Binary f).level < (n : Binary f).level := by
  have hunit : (0 : Int) < (2 ^ f.scale : Nat) := Int.natCast_pos.mpr (Nat.two_pow_pos _)
  calc
    (m : Binary f).level ≤ ((threshold - 1 : Int) : Binary f).level :=
      level_cast_mono (Int.le_sub_one_of_lt hm)
    _ = (threshold - 1) * (2 ^ f.scale : Nat) := level_cast hroom (by omega)
    _ < threshold * (2 ^ f.scale : Nat) :=
      Int.mul_lt_mul_of_pos_right (Int.sub_one_lt_of_le le_rfl) hunit
    _ = (threshold : Binary f).level := (level_cast hroom hthreshold.le).symm
    _ ≤ (n : Binary f).level := level_cast_mono hn

/-! Zeros of either sign next to other numbers. -/

/-- The same number, or NaN twice; two zeros may differ in their signs. -/
inductive SameNumber : Binary f → Binary f → Prop
  | refl (x : Binary f) : SameNumber x x
  | zeros (negative other : Bool) : SameNumber (zero negative) (zero other)

theorem add_swap (x y : Binary f) : x + y = y + x := by
  cases x with
  | nan => exact (add_nan y).symm
  | infinity a =>
      cases y with
      | nan => rfl
      | infinity b =>
          change (if a = b then infinity a else nan) = if b = a then infinity b else nan
          by_cases h : a = b
          · rw [h]
          · rw [if_neg h, if_neg (Ne.symm h)]
      | finite b v hv => rfl
  | finite a u hu =>
      cases y with
      | nan => rfl
      | infinity b => rfl
      | finite b v hv =>
          change add (finite a u hu) (finite b v hv) = add (finite b v hv) (finite a u hu)
          simp only [add, Int.add_comm, Bool.and_comm]

theorem sameNumber_add_zero (x : Binary f) (negative : Bool) :
    SameNumber (x + zero negative) x := by
  cases x with
  | nan => exact .refl nan
  | infinity sign => exact .refl (infinity sign)
  | finite sign units hunits =>
      by_cases hzero : finite sign units hunits = zero true
      · rw [hzero, zero_add_zero]
        exact .zeros _ _
      · rw [add_zero_eq ⟨_, _, _, rfl⟩ hzero negative]
        exact .refl _

theorem SameNumber.add_zero {y : Binary f} (h : SameNumber x y) (negative : Bool) :
    SameNumber (x + zero negative) y := by
  cases h with
  | refl => exact sameNumber_add_zero x negative
  | zeros sign other =>
      rw [zero_add_zero]
      exact .zeros _ _

theorem sameNumber_zero_add (x : Binary f) (negative : Bool) :
    SameNumber (zero negative + x) x := by
  rw [add_swap]
  exact sameNumber_add_zero x negative

theorem mul_zero_of_isFinite (hx : x.IsFinite) (negative : Bool) :
    ∃ sign, x * zero negative = zero sign := by
  obtain ⟨other, units, hunits, rfl⟩ := hx
  refine ⟨other ^^ negative, ?_⟩
  change ofRatio (other ^^ negative) (units * 0) (2 ^ f.scale) = _
  rw [Nat.mul_zero, ofRatio_zero]

theorem mul_zero_of_not_isFinite (hx : ¬ x.IsFinite) (negative : Bool) :
    x * zero negative = nan := by
  cases x with
  | nan => rfl
  | infinity sign =>
      change (if 0 = 0 then nan else infinity (sign ^^ negative)) = nan
      exact if_pos rfl
  | finite sign units hunits => exact absurd ⟨sign, units, hunits, rfl⟩ hx

end Wireframe.Binary
