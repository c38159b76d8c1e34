import Mathlib.Data.Rat.Floor
import Wireframe.Proofs.Binary.Value

/-!
Interpolation between whole numbers. Differences and products are exact while they fit a
significand, and then the two roundings of the quotient and the sum do not carry the
result past the middle between two integers.
-/

namespace Wireframe.Binary

variable {f : Format}

/-- The value at `place` on the way from `first` at `low` to `last` at `high`. -/
def interpolated (first last low high place : Int) : ℚ :=
  first + (last - first) * (place - low) / (high - low)

def interpolate (f : Format) (first last low high place : Int) : Binary f :=
  first + ((last : Binary f) - first) *
    ((place : Binary f) - low) / ((high : Binary f) - low)

theorem nearestInteger_eq_of_toRat {x : Binary f} (hx : x.IsFinite)
    (hnonneg : 0 ≤ x.toRat) {k : Nat} (hlow : k - 1 / 2 ≤ x.toRat)
    (hhigh : x.toRat < k + 1 / 2) : x.nearestInteger = k := by
  obtain ⟨negative, units, hunits, rfl⟩ := hx
  have hunit := unit_pos f
  have hzero : negative = true → units = 0 := by
    rintro rfl
    rw [toRat, le_div_iff₀ hunit, zero_mul, Int.cast_nonneg_iff, level, signed_true]
      at hnonneg
    omega
  have hvalue : (finite negative units hunits).toRat = units / (2 ^ f.scale : Nat) := by
    cases negative with
    | false => rfl
    | true =>
        obtain rfl := hzero rfl
        simp [toRat, level]
  rw [hvalue, le_div_iff₀ hunit] at hlow
  rw [hvalue, div_lt_iff₀ hunit] at hhigh
  have hquotient : (2 * units + 2 ^ f.scale) / 2 ^ (f.scale + 1) = k := by
    rw [Nat.pow_succ]
    refine Nat.div_eq_of_lt_le ?_ ?_
    · have hle : (k * (2 ^ f.scale * 2 : Nat) : ℚ) ≤ 2 * units + (2 ^ f.scale : Nat) := by
        push_cast at hlow ⊢
        linarith
      exact_mod_cast hle
    · have hlt : (2 * units + (2 ^ f.scale : Nat) : ℚ) <
          (k + 1) * (2 ^ f.scale * 2 : Nat) := by
        push_cast at hhigh ⊢
        linarith
      exact_mod_cast hlt
  rw [nearestInteger, hquotient]
  cases negative with
  | false => rfl
  | true =>
      obtain rfl := hzero rfl
      have hk : k = 0 := by
        rw [← hquotient, Nat.mul_zero, Nat.zero_add]
        exact Nat.div_eq_of_lt (Nat.pow_lt_pow_right one_lt_two (Nat.lt_succ_self _))
      rw [hk]
      rfl

section

variable (hroom : f.scale + f.precision < f.width)
include hroom

theorem within_cast_self {n : Int} (hn : n.natAbs ≤ 2 ^ f.precision) :
    (n : Binary f).Within n n :=
  within_cast (number_whole hroom hn) (number_whole hroom hn) le_rfl le_rfl

theorem within_sub_cast {m n : Int} (hm : m.natAbs ≤ 2 ^ f.precision)
    (hn : n.natAbs ≤ 2 ^ f.precision) (h : (m - n).natAbs ≤ 2 ^ f.precision) :
    ((m : Binary f) - n).Within (m - n : Int) (m - n : Int) := by
  have hx := within_cast_self hroom hm
  have hy := within_cast_self hroom hn
  have hnumber : f.Number (m - n : Int) := number_whole hroom h
  have hvalue : (m : Binary f).toRat - (n : Binary f).toRat = (m - n : Int) := by
    rw [hx.toRat_eq, hy.toRat_eq, Int.cast_sub]
  exact within_sub hnumber hnumber hx.finite hy.finite hvalue.ge hvalue.le

end

/-- A significand holds the products of `a` bits with `b`, and their signs and halves. -/
structure Format.RoomFor (f : Format) (a b : Nat) : Prop where
  room : f.scale + f.precision < f.width
  digits : a + b + 3 ≤ f.precision
  places : b + 2 ≤ f.scale

theorem Format.double_roomFor {a b : Nat} (h : a + b ≤ 50) :
    Format.double.RoomFor a b where
  room := double_room
  digits := by
    change a + b + 3 ≤ 53
    omega
  places := by
    change b + 2 ≤ 1074
    omega

/-- Two values of at most `a` bits, at different places of at most `b`. -/
structure FewBits (a b : Nat) (first last low high place : Int) : Prop where
  first_le : first.natAbs ≤ 2 ^ a
  last_le : last.natAbs ≤ 2 ^ a
  low_le : low.natAbs ≤ 2 ^ b
  high_le : high.natAbs ≤ 2 ^ b
  place_le : place.natAbs ≤ 2 ^ b
  high_ne_low : high ≠ low

section

variable {a b : Nat} (hroom : f.RoomFor a b) {first last low high place : Int}
  (hbits : FewBits a b first last low high place)
include hroom hbits

theorem within_interpolate {least most : ℚ} (hleast : f.Number least)
    (hleast_sub : f.Number (least - first)) (hmost : f.Number most)
    (hmost_sub : f.Number (most - first))
    (hle_least : least ≤ interpolated first last low high place)
    (hle_most : interpolated first last low high place ≤ most) :
    (interpolate f first last low high place).Within least most := by
  obtain ⟨hroom, hdigits, -⟩ := hroom
  obtain ⟨hfirst, hlast, hlow, hhigh, hplace, hne⟩ := hbits
  have ha : 2 ^ (a + 1) ≤ 2 ^ f.precision := Nat.pow_le_pow_right two_pos (by omega)
  have hb : 2 ^ (b + 1) ≤ 2 ^ f.precision := Nat.pow_le_pow_right two_pos (by omega)
  rw [Nat.pow_succ] at ha hb
  have hc := within_cast_self hroom (n := first) (by omega)
  have hrun :=
    within_sub_cast hroom (m := last) (n := first) (by omega) (by omega) (by omega)
  have hdistance :=
    within_sub_cast hroom (m := place) (n := low) (by omega) (by omega) (by omega)
  have hlength :=
    within_sub_cast hroom (m := high) (n := low) (by omega) (by omega) (by omega)
  have hproduct_le : ((last - first) * (place - low)).natAbs ≤ 2 ^ f.precision := by
    calc
      ((last - first) * (place - low)).natAbs =
          (last - first).natAbs * (place - low).natAbs :=
        Int.natAbs_mul _ _
      _ ≤ 2 ^ (a + 1) * 2 ^ (b + 1) := Nat.mul_le_mul (by rw [Nat.pow_succ]; omega) (by
        rw [Nat.pow_succ]; omega)
      _ = 2 ^ (a + 1 + (b + 1)) := (Nat.pow_add ..).symm
      _ ≤ 2 ^ f.precision := Nat.pow_le_pow_right two_pos (by omega)
  have hproduct_number : f.Number ((last - first) * (place - low) : Int) :=
    number_whole hroom hproduct_le
  have hproduct_eq :
      (((last : Binary f) - first).toRat * ((place : Binary f) - low).toRat) =
        ((last - first) * (place - low) : Int) := by
    rw [hrun.toRat_eq, hdistance.toRat_eq, Int.cast_mul]
  have hproduct := within_mul hproduct_number hproduct_number hrun.finite hdistance.finite
    hproduct_eq.ge hproduct_eq.le
  have hlength_ne : ((high : Binary f) - low).toRat ≠ 0 := by
    rw [hlength.toRat_eq]
    exact Int.cast_ne_zero.mpr (sub_ne_zero.mpr hne)
  have hquotient_eq : ((((last : Binary f) - first) * ((place : Binary f) - low)).toRat /
      ((high : Binary f) - low).toRat) =
          interpolated first last low high place - first := by
    rw [hproduct.toRat_eq, hlength.toRat_eq, interpolated]
    push_cast
    ring
  have hquotient :=
    within_div hleast_sub hmost_sub hproduct.finite hlength.finite hlength_ne
      (by rw [hquotient_eq]; linarith) (by rw [hquotient_eq]; linarith)
  refine within_add hleast hmost hc.finite hquotient.finite ?_ ?_
  · rw [hc.toRat_eq]
    linarith [hquotient.low_le]
  · rw [hc.toRat_eq]
    linarith [hquotient.le_high]

omit hroom in
theorem interpolated_le_of_lt_half {k : Int}
    (h : interpolated first last low high place < k + 1 / 2) :
    interpolated first last low high place ≤
      ((2 * k + 1) * (2 ^ (b + 1) : Nat) - 1 : Int) / (2 ^ (b + 2) : Nat) := by
  obtain ⟨-, -, hlow, hhigh, -, hne⟩ := hbits
  have hlength : ((high - low : Int) : ℚ) ≠ 0 :=
    Int.cast_ne_zero.mpr (sub_ne_zero.mpr hne)
  -- The distance is a fraction with twice the length as its denominator.
  have hgap : ((2 * k + 1) - 2 * interpolated first last low high place) *
    (high - low : Int) =
      ((2 * k + 1 - 2 * first) * (high - low) - 2 *
          ((last - first) * (place - low)) : Int) := by
    rw [interpolated]
    push_cast at hlength ⊢
    field_simp
    ring
  have hpos : 0 < (2 * k + 1) - 2 * interpolated first last low high place := by
    linarith
  have hone : 1 ≤ ((2 * k + 1) - 2 * interpolated first last low high place) *
      |((high - low : Int) : ℚ)| := by
    rw [← abs_of_pos hpos, ← abs_mul, hgap, ← Int.cast_abs]
    have hnonzero : (2 * k + 1 - 2 * first) * (high - low) - 2 *
        ((last - first) * (place - low)) ≠ 0 := by
      rw [← @Int.cast_ne_zero ℚ, ← hgap]
      exact mul_ne_zero hpos.ne' hlength
    exact_mod_cast Int.one_le_abs hnonzero
  have hlength_le : |((high - low : Int) : ℚ)| ≤ (2 ^ (b + 1) : Nat) := by
    rw [← Int.cast_abs, Int.abs_eq_natAbs]
    have hle : (high - low).natAbs ≤ 2 ^ (b + 1) := by
      rw [Nat.pow_succ]
      omega
    exact_mod_cast hle
  have hunit : (0 : ℚ) < (2 ^ (b + 1) : Nat) := Nat.cast_pos.mpr (Nat.two_pow_pos _)
  have hfar := hone.trans (mul_le_mul_of_nonneg_left hlength_le hpos.le)
  rw [cast_two_pow_succ, le_div_iff₀ (by positivity)]
  push_cast at hfar ⊢
  linarith

/-! Numbers that enclose the result. -/

omit hbits in
theorem number_int_of_bits {n : Int} (hn : n.natAbs ≤ 8 * 2 ^ a) : f.Number n := by
  obtain ⟨hroom, hdigits, -⟩ := hroom
  have hbound : 2 ^ (a + 3) ≤ 2 ^ f.precision := Nat.pow_le_pow_right two_pos (by omega)
  rw [Nat.pow_add] at hbound
  exact number_whole hroom (by omega)

omit hbits in
theorem number_half_of_bits {n : Int} (hn : n.natAbs ≤ 8 * 2 ^ a) : f.Number (n / 2) := by
  obtain ⟨hroom, hdigits, hplaces⟩ := hroom
  have hbound : 2 ^ (a + 3) ≤ 2 ^ f.precision := Nat.pow_le_pow_right two_pos (by omega)
  rw [Nat.pow_add] at hbound
  exact_mod_cast @number_dyadic f hroom n 1 (by omega) (by omega)

omit hbits in
theorem number_below_half_of_bits {n : Int} (hn : n.natAbs < 4 * 2 ^ a) :
    f.Number ((n * (2 ^ (b + 1) : Nat) - 1 : Int) / (2 ^ (b + 2) : Nat)) := by
  obtain ⟨hroom, hdigits, hplaces⟩ := hroom
  refine number_dyadic hroom ?_ hplaces
  calc
    (n * (2 ^ (b + 1) : Nat) - 1).natAbs ≤ n.natAbs * 2 ^ (b + 1) + 1 := by
      rw [← Int.natAbs_natCast (2 ^ (b + 1)), ← Int.natAbs_mul, Int.natAbs_natCast]
      omega
    _ ≤ (n.natAbs + 1) * 2 ^ (b + 1) := by
      rw [Nat.add_mul, Nat.one_mul]
      exact Nat.add_le_add_left Nat.one_le_two_pow _
    _ ≤ 2 ^ (a + 2) * 2 ^ (b + 1) := by
      refine Nat.mul_le_mul_right _ ?_
      rw [Nat.pow_add]
      omega
    _ = 2 ^ (a + 2 + (b + 1)) := (Nat.pow_add ..).symm
    _ ≤ 2 ^ f.precision := Nat.pow_le_pow_right two_pos (by omega)

theorem number_and_sub_of_bits {n : Int} (hn : n.natAbs ≤ 2 ^ a) :
    f.Number n ∧ f.Number (n - first) := by
  have hfirst := hbits.first_le
  have hsub := @number_int_of_bits f a b hroom (n - first) (by omega)
  rw [Int.cast_sub] at hsub
  exact ⟨number_int_of_bits hroom (by omega), hsub⟩

variable {most : Int} (hmost : most < (2 ^ a : Nat))
  (hnonneg : 0 ≤ interpolated first last low high place)
  (hle : interpolated first last low high place ≤ most)
include hmost hnonneg hle

theorem within_interpolate_range :
    (interpolate f first last low high place).Within 0 most := by
  have hmost_nonneg : (0 : Int) ≤ most := by
    exact_mod_cast hnonneg.trans hle
  obtain ⟨hzero, hzero_sub⟩ := number_and_sub_of_bits hroom hbits (n := 0) (Nat.zero_le _)
  obtain ⟨hmost_number, hmost_sub⟩ :=
    number_and_sub_of_bits hroom hbits (n := most) (by omega)
  rw [Int.cast_zero] at hzero hzero_sub
  exact within_interpolate hroom hbits hzero hzero_sub hmost_number hmost_sub hnonneg hle

variable {k : Nat} (hk : k ≤ most)
include hk

omit hnonneg in
theorem sub_half_le_interpolate (h : k - 1 / 2 ≤ interpolated first last low high place) :
    k - 1 / 2 ≤ (interpolate f first last low high place).toRat := by
  have hfirst := hbits.first_le
  have hhalf := number_half_of_bits hroom (n := 2 * k - 1) (by omega)
  have hhalf_sub := number_half_of_bits hroom (n := 2 * k - 1 - 2 * first) (by omega)
  have hvalue : ((2 * k - 1 : Int) : ℚ) / 2 = k - 1 / 2 := by
    push_cast
    ring
  have hvalue_sub : ((2 * k - 1 - 2 * first : Int) : ℚ) / 2 = k - 1 / 2 - first := by
    push_cast
    ring
  rw [hvalue] at hhalf
  rw [hvalue_sub] at hhalf_sub
  obtain ⟨hmost_number, hmost_sub⟩ :=
    number_and_sub_of_bits hroom hbits (n := most) (by omega)
  exact (within_interpolate hroom hbits hhalf hhalf_sub hmost_number hmost_sub h
    hle).low_le

omit hle in
theorem interpolate_lt_add_half (h : interpolated first last low high place < k + 1 / 2) :
    (interpolate f first last low high place).toRat < k + 1 / 2 := by
  have hfirst := hbits.first_le
  have hbelow := number_below_half_of_bits hroom (n := 2 * k + 1) (by omega)
  have hbelow_sub :=
    number_below_half_of_bits hroom (n := 2 * k + 1 - 2 * first) (by omega)
  have hunit : (0 : ℚ) < (2 ^ (b + 1) : Nat) := Nat.cast_pos.mpr (Nat.two_pow_pos _)
  have hdouble := cast_two_pow_succ (b + 1)
  have hvalue_sub : (((2 * k + 1 - 2 * first) * (2 ^ (b + 1) : Nat) - 1 : Int) : ℚ) /
    (2 ^ (b + 2) : Nat) =
      ((2 * k + 1) * (2 ^ (b + 1) : Nat) - 1 : Int) / (2 ^ (b + 2) : Nat) - first := by
    rw [hdouble]
    push_cast
    field_simp
    ring
  rw [hvalue_sub] at hbelow_sub
  obtain ⟨hzero, hzero_sub⟩ := number_and_sub_of_bits hroom hbits (n := 0) (Nat.zero_le _)
  rw [Int.cast_zero] at hzero hzero_sub
  have hgap := interpolated_le_of_lt_half hbits (k := k) (by push_cast; linarith)
  refine (within_interpolate hroom hbits hzero hzero_sub hbelow hbelow_sub hnonneg
    hgap).le_high.trans_lt ?_
  rw [hdouble, div_lt_iff₀ (by positivity)]
  push_cast
  linarith

omit hk in
theorem nearestInteger_interpolate :
    (interpolate f first last low high place).nearestInteger =
      ⌊interpolated first last low high place + 1 / 2⌋ := by
  obtain ⟨hfinite, hnonneg_toRat, -⟩ :=
    within_interpolate_range hroom hbits hmost hnonneg hle
  obtain ⟨k, hk⟩ :=
    Int.eq_ofNat_of_zero_le (Int.floor_nonneg.mpr (add_nonneg hnonneg one_half_pos.le))
  obtain ⟨hk_le, hk_lt⟩ := Int.floor_eq_iff.mp hk
  rw [Int.cast_natCast] at hk_le hk_lt
  have hk_most : (k : Int) ≤ most := by
    have hlt : (k : ℚ) < (most + 1 : Int) := by
      push_cast
      linarith
    exact Int.lt_add_one_iff.mp (by exact_mod_cast hlt)
  rw [hk]
  apply nearestInteger_eq_of_toRat hfinite hnonneg_toRat
  · exact sub_half_le_interpolate hroom hbits hmost hle hk_most (by linarith)
  · exact interpolate_lt_add_half hroom hbits hmost hnonneg hk_most (by linarith)

end

end Wireframe.Binary
