import Wireframe.Proofs.Binary.Value

/-!
What rounding finds. Of all magnitudes with significands of the precision, however large
they may be, the rounded one is nearest to the quotient, and of two that are equally
near it is the even one.
-/

namespace Wireframe.Binary

namespace Format

variable {f : Format} {num den other otherDen units k : Nat}

/-! A quotient does not depend on how it is written. -/

theorem roundHalfEven_mul_mul (hk : 0 < k) :
    roundHalfEven (num * k) (den * k) = roundHalfEven num den := by
  have hbelow : 2 * (num % den * k) < den * k ↔ 2 * (num % den) < den := by
    rw [← Nat.mul_assoc]
    exact Nat.mul_lt_mul_right hk
  have htie : 2 * (num % den * k) = den * k ↔ 2 * (num % den) = den := by
    rw [← Nat.mul_assoc]
    exact Nat.mul_left_inj hk.ne'
  simp only [roundHalfEven, Nat.mul_mod_mul_right, Nat.mul_div_mul_right _ _ hk,
    hbelow, htie]

theorem round_mul_mul (hk : 0 < k) : f.round (num * k) (den * k) = f.round num den := by
  unfold round
  rw [Nat.mul_div_mul_right _ _ hk, Nat.mul_right_comm, roundHalfEven_mul_mul hk]

theorem round_le_round (hden : 0 < den) (hother : 0 < otherDen)
    (h : num * otherDen ≤ other * den) :
    f.round num den ≤ f.round other otherDen := by
  calc
    f.round num den = f.round (num * otherDen) (den * otherDen) :=
      (round_mul_mul hother).symm
    _ ≤ f.round (other * den) (den * otherDen) := round_mono (Nat.mul_pos hden hother) h
    _ = f.round (other * den) (otherDen * den) := by rw [Nat.mul_comm den]
    _ = f.round other otherDen := round_mul_mul hden

theorem round_congr (hden : 0 < den) (hother : 0 < otherDen)
    (h : num * otherDen = other * den) :
    f.round num den = f.round other otherDen :=
  le_antisymm (round_le_round hden hother h.le) (round_le_round hother hden h.ge)

/-! The grid of all magnitudes that have a significand. -/

def significand (f : Format) (units : Nat) : Nat :=
  units / f.spacing units

/-- The magnitude is nearest to `q` units, and of two nearest magnitudes the one
with an even significand. -/
structure Nearest (f : Format) (q : ℚ) (units : Nat) : Prop where
  dvd : f.spacing units ∣ units
  closest : ∀ other, f.spacing other ∣ other → |q - units| ≤ |q - other|
  even : ∀ other, f.spacing other ∣ other → other ≠ units → |q - units| = |q - other| →
    Even (f.significand units)

theorem le_spacing_mul_div (hdvd : f.spacing other ∣ other) (h : other ≤ units) :
    other ≤ f.spacing units * (units / f.spacing units) := by
  have hmultiple : ∀ {n : Nat}, f.spacing units ∣ n → n ≤ units →
      n ≤ f.spacing units * (units / f.spacing units) := by
    intro n hn hle
    obtain ⟨j, rfl⟩ := hn
    exact Nat.mul_le_mul_left _ ((Nat.le_div_iff_mul_le (f.spacing_pos _)).mpr
      (Nat.mul_comm _ j ▸ hle))
  rcases (log2_le_log2 h).lt_or_eq with hlt | heq
  · have hne : units ≠ 0 := fun hzero => by simp [hzero] at hlt
    calc
      other ≤ 2 ^ (other.log2 + 1) := Nat.lt_log2_self.le
      _ ≤ 2 ^ units.log2 := Nat.pow_le_pow_right (by decide) hlt
      _ ≤ f.spacing units * (units / f.spacing units) :=
        hmultiple (f.spacing_dvd_two_pow_log2 units) (Nat.log2_self_le hne)
  · refine hmultiple ?_ h
    unfold spacing at hdvd ⊢
    rwa [← heq]

theorem spacing_mul_succ_le (hdvd : f.spacing other ∣ other) (h : units < other) :
    f.spacing units * (units / f.spacing units + 1) ≤ other := by
  obtain ⟨j, rfl⟩ := (spacing_dvd_spacing h.le).trans hdvd
  exact Nat.mul_le_mul_left _ (Nat.div_lt_of_lt_mul h)

/-- A rounded quotient keeps the spacing of the quotient, unless a carry
makes it a power of two. -/
theorem spacing_round_cases (hden : 0 < den) :
    f.spacing (f.round num den) = f.spacing (num / den) ∨
      f.round num den = 2 ^ ((num / den).log2 + 1) := by
  have hself : ∀ k, f.spacing (2 ^ k) ∣ 2 ^ k := by
    intro k
    have hdvd := f.spacing_dvd_two_pow_log2 (2 ^ k)
    rwa [Nat.log2_two_pow] at hdvd
  have hle : f.round num den ≤ 2 ^ ((num / den).log2 + 1) :=
    round_le_of_le (hself _) (Nat.lt_mul_of_div_lt Nat.lt_log2_self hden).le
  rcases hle.lt_or_eq with hlt | heq
  · left
    have hlog : (f.round num den).log2 = (num / den).log2 := by
      by_cases hzero : num / den = 0
      · rw [hzero, Nat.log2_zero] at hlt
        rw [hzero, Nat.log2_zero, Nat.log2_eq_log_two]
        exact Nat.log_of_lt hlt
      · have hpower : 2 ^ (num / den).log2 * den ≤ num :=
          (Nat.le_div_iff_mul_le hden).mp (Nat.log2_self_le hzero)
        have hge : 2 ^ (num / den).log2 ≤ f.round num den :=
          le_round_of_le hden (hself _) hpower
        have hne : f.round num den ≠ 0 := (hge.trans_lt' (Nat.two_pow_pos _)).ne'
        exact (Nat.log2_eq_iff hne).mpr ⟨hge, hlt⟩
    unfold spacing
    rw [hlog]
  · exact .inr heq

theorem spacing_round_dvd (hden : 0 < den) :
    f.spacing (f.round num den) ∣ f.round num den := by
  rcases @spacing_round_cases f num den hden with hsame | hpower
  · rw [hsame]
    exact Nat.dvd_mul_right _ _
  · have hdvd := f.spacing_dvd_two_pow_log2 (f.round num den)
    rwa [hpower, Nat.log2_two_pow, ← hpower] at hdvd

theorem even_significand_round (hprecision : 1 < f.precision) (hden : 0 < den)
    (heven : Even (roundHalfEven num (den * f.spacing (num / den)))) :
    Even (f.significand (f.round num den)) := by
  unfold significand
  rcases @spacing_round_cases f num den hden with hsame | hpower
  · rw [hsame, round, Nat.mul_div_cancel_left _ (f.spacing_pos _)]
    exact heven
  · -- The significand of a power of two is a power of two.
    rw [hpower, spacing, Nat.log2_two_pow, Nat.pow_div (by omega) (by decide)]
    exact Nat.even_pow.mpr ⟨by decide, by omega⟩

/-! The quotient lies between two multiples of its spacing, and is rounded
to the nearer of them. -/

theorem roundHalfEven_cases (num den : Nat) :
    (roundHalfEven num den = num / den ∧ 2 * (num % den) ≤ den ∧
      (2 * (num % den) = den → Even (num / den))) ∨
    (roundHalfEven num den = num / den + 1 ∧ den ≤ 2 * (num % den) ∧
      (2 * (num % den) = den → Even (num / den + 1))) := by
  unfold roundHalfEven
  simp only [Nat.even_iff]
  split <;> omega

theorem roundHalfEven_nearest (hden : 0 < den)
    (hside : other ≤ den * (num / den) ∨ den * (num / den + 1) ≤ other) :
    |(num : Int) - (den * roundHalfEven num den : Nat)| ≤ |(num : Int) - other| ∧
      (other ≠ den * roundHalfEven num den →
        |(num : Int) - (den * roundHalfEven num den : Nat)| = |(num : Int) - other| →
          Even (roundHalfEven num den)) := by
  have hnum : den * (num / den) + num % den = num := Nat.div_add_mod num den
  have hrest : num % den < den := Nat.mod_lt num hden
  rw [Nat.mul_succ] at hside
  simp only [Int.abs_eq_natAbs, Int.natCast_inj, Int.ofNat_le]
  rcases roundHalfEven_cases num den with ⟨heq, hhalf, heven⟩ | ⟨heq, hhalf, heven⟩
  · rw [heq]
    exact ⟨by omega, fun hne hsame => heven (by omega)⟩
  · rw [heq, Nat.mul_succ]
    exact ⟨by omega, fun hne hsame => heven (by omega)⟩

theorem mul_le_or_le_mul (hdvd : f.spacing other ∣ other) :
    let scale := den * f.spacing (num / den)
    other * den ≤ scale * (num / scale) ∨ scale * (num / scale + 1) ≤ other * den := by
  intro scale
  have hscale : ∀ j, scale * j = f.spacing (num / den) * j * den := fun j => by
    rw [Nat.mul_assoc den, Nat.mul_comm den]
  have hquotient : num / scale = num / den / f.spacing (num / den) :=
    (Nat.div_div_eq_div_mul ..).symm
  rw [hscale, hscale, hquotient]
  rcases Nat.lt_or_ge (num / den) other with hlt | hle
  · exact .inr (Nat.mul_le_mul_right den (spacing_mul_succ_le hdvd hlt))
  · exact .inl (Nat.mul_le_mul_right den (le_spacing_mul_div hdvd hle))

theorem abs_div_sub (hden : 0 < den) (units : Nat) :
    |(num / den : ℚ) - units| = (|(num : Int) - (units * den : Nat)| : Int) / den := by
  have hpos : (0 : ℚ) < den := Nat.cast_pos.mpr hden
  have hdiff : (num / den : ℚ) - units = (num - units * den) / den := by
    field_simp
  rw [hdiff, abs_div, abs_of_pos hpos]
  push_cast
  rfl

theorem nearest_round (hprecision : 1 < f.precision) (hden : 0 < den) :
    f.Nearest (num / den) (f.round num den) := by
  let scale := den * f.spacing (num / den)
  have hpos : (0 : ℚ) < den := Nat.cast_pos.mpr hden
  have hround : scale * roundHalfEven num scale = f.round num den * den := by
    rw [round, Nat.mul_comm _ den, ← Nat.mul_assoc]
  have hdistance : ∀ other, f.spacing other ∣ other →
      |(num : Int) - (f.round num den * den : Nat)| ≤
        |(num : Int) - (other * den : Nat)| ∧
        (other * den ≠ f.round num den * den →
          |(num : Int) - (f.round num den * den : Nat)| =
            |(num : Int) - (other * den : Nat)| →
            Even (roundHalfEven num scale)) := by
    intro other hdvd
    rw [← hround]
    exact roundHalfEven_nearest (Nat.mul_pos hden (f.spacing_pos _))
      (mul_le_or_le_mul hdvd)
  refine ⟨spacing_round_dvd hden, fun other hdvd => ?_, fun other hdvd hne heq => ?_⟩
  · rw [abs_div_sub hden, abs_div_sub hden, div_le_div_iff_of_pos_right hpos, Int.cast_le]
    exact (hdistance other hdvd).1
  · rw [abs_div_sub hden, abs_div_sub hden, div_left_inj' hpos.ne', Int.cast_inj] at heq
    have hne_mul : other * den ≠ f.round num den * den :=
      fun h => hne (Nat.eq_of_mul_eq_mul_right hden h)
    exact even_significand_round hprecision hden ((hdistance other hdvd).2 hne_mul heq)

end Format

/-! Numbers of a format that stand for rational numbers. -/

/-- The number has the magnitude of the format that is nearest to the given one, or is
infinite if that lies beyond the largest finite magnitude. -/
def RoundsTo {f : Format} (x : Binary f) (negative : Bool) (magnitude : ℚ) : Prop :=
  ∃ units, ∃ h : f.Nearest (magnitude * (2 ^ f.scale : Nat)) units,
    x = if hlt : units < 2 ^ f.width then finite negative units ⟨hlt, h.dvd⟩
      else infinity negative

variable {f : Format} {num den other otherDen : Nat}

def withSign (negative : Bool) (q : ℚ) : ℚ :=
  if negative then -q else q

theorem abs_withSign (negative : Bool) {q : ℚ} (h : 0 ≤ q) :
    |withSign negative q| = q := by
  cases negative with
  | false => exact abs_of_nonneg h
  | true => exact (abs_neg q).trans (abs_of_nonneg h)

theorem abs_withSign_sub (negative : Bool) (q r : ℚ) :
    |withSign negative q - withSign negative r| = |q - r| := by
  cases negative with
  | false => rfl
  | true => exact (congrArg abs (neg_sub_neg q r)).trans (abs_sub_comm r q)

theorem withSign_inj {negative other : Bool} {q r : ℚ} (hq : 0 ≤ q) (hr : 0 ≤ r)
    (h : withSign negative q = withSign other r) (hne : withSign other r ≠ 0) :
    negative = other ∧ q = r := by
  obtain rfl : q = r := by
    rw [← abs_withSign negative hq, h, abs_withSign other hr]
  refine ⟨?_, rfl⟩
  by_contra hdiffer
  have hzero : q = 0 := by
    cases negative <;> cases other <;>
      simp only [withSign, if_true, if_false, Bool.false_eq_true] at h
    · exact absurd rfl hdiffer
    · linarith
    · linarith
    · exact absurd rfl hdiffer
  exact hne (by simp [withSign, hzero])

theorem toRat_finite (negative : Bool) (units : Nat) (h : f.Representable units) :
    (finite negative units h).toRat =
      withSign negative (units / (2 ^ f.scale : Nat)) := by
  cases negative <;> simp [toRat, level, withSign, neg_div]

theorem roundsTo_ofRatio (hprecision : 1 < f.precision) (hden : 0 < den) (negative : Bool)
    {magnitude : ℚ} (h : magnitude * (2 ^ f.scale : Nat) = num / den) :
    (ofRatio negative num den : Binary f).RoundsTo negative magnitude := by
  refine ⟨f.round num den, h ▸ Format.nearest_round hprecision hden, ?_⟩
  rfl

namespace RoundsTo

variable {x : Binary f} {negative : Bool} {magnitude : ℚ}

theorem sign_of_zero (h : x.RoundsTo negative magnitude) {sign : Bool}
    (hx : x = zero sign) :
    sign = negative := by
  obtain ⟨units, hnearest, heq⟩ := h
  rw [hx] at heq
  split at heq
  · cases heq
    rfl
  · cases heq

theorem eq_zero (h : x.RoundsTo negative 0) : x = zero negative := by
  obtain ⟨units, hnearest, heq⟩ := h
  have hclosest := hnearest.closest 0 (Nat.dvd_zero _)
  have hzero : units = 0 := by simpa using hclosest
  subst hzero
  rw [heq]
  exact dif_pos (Nat.two_pow_pos _)

theorem closest (h : x.RoundsTo negative magnitude) (hmagnitude : 0 ≤ magnitude)
    (hx : x.IsFinite) {y : Binary f} (hy : y.IsFinite) :
    |withSign negative magnitude - x.toRat| ≤
      |withSign negative magnitude - y.toRat| := by
  obtain ⟨units, hnearest, heq⟩ := h
  obtain ⟨sign, other, hother, rfl⟩ := hy
  have hunit := unit_pos f
  have hscaled : ∀ n : Nat, |magnitude - n / (2 ^ f.scale : Nat)| =
      |magnitude * (2 ^ f.scale : Nat) - n| / (2 ^ f.scale : Nat) := by
    intro n
    rw [← abs_of_pos hunit, ← abs_div, abs_of_pos hunit, sub_div,
      mul_div_cancel_right₀ _ hunit.ne']
  split at heq
  · rename_i hlt
    calc
      |withSign negative magnitude - x.toRat| =
          |magnitude - units / (2 ^ f.scale : Nat)| := by
        rw [heq, toRat_finite, abs_withSign_sub]
      _ ≤ |magnitude - other / (2 ^ f.scale : Nat)| := by
        rw [hscaled, hscaled, div_le_div_iff_of_pos_right hunit]
        exact hnearest.closest other hother.dvd
      _ = |(|withSign negative magnitude| - |(finite sign other hother).toRat|)| := by
        rw [toRat_finite, abs_withSign negative hmagnitude,
          abs_withSign sign (by positivity)]
      _ ≤ |withSign negative magnitude - (finite sign other hother).toRat| :=
        abs_abs_sub_abs_le _ _
  · obtain ⟨_, _, _, hfinite⟩ := hx
    rw [hfinite] at heq
    cases heq

end RoundsTo

theorem ofRatio_congr (hden : 0 < den) (hother : 0 < otherDen) (negative : Bool)
    (h : num * otherDen = other * den) :
    (ofRatio negative num den : Binary f) = ofRatio negative other otherDen := by
  have hround := Format.round_congr (f := f) hden hother h
  simp only [ofRatio, hround]

theorem level_ofRatio_mono (hden : 0 < den) (hother : 0 < otherDen)
    {negative otherNegative : Bool}
    (h : signed negative num * otherDen ≤ signed otherNegative other * den) :
    (ofRatio negative num den : Binary f).level ≤
      (ofRatio otherNegative other otherDen : Binary f).level := by
  have hproduct : (0 : Int) ≤ num * otherDen ∧ (0 : Int) ≤ other * den :=
    ⟨by positivity, by positivity⟩
  have hmono : ∀ {a b c d : Nat}, 0 < b → 0 < d → (a * d : Int) ≤ c * b →
      min (f.round a b) (2 ^ f.width) ≤ min (f.round c d) (2 ^ f.width) :=
        fun hb hd hle =>
    min_le_min_right _ (Format.round_le_round hb hd (by exact_mod_cast hle))
  rw [level_ofRatio, level_ofRatio]
  cases negative with
  | false =>
      cases otherNegative with
      | false => exact Int.ofNat_le.mpr (hmono hden hother h)
      | true =>
          -- A ratio without a minus is below one with a minus only if both are zero.
          rw [signed_false, signed_true, Int.neg_mul] at h
          obtain rfl : num = 0 := by
            have hzero : (num * otherDen : Int) = 0 := by omega
            exact_mod_cast (mul_eq_zero.mp hzero).resolve_right (by omega)
          obtain rfl : other = 0 := by
            have hzero : (other * den : Int) = 0 := by omega
            exact_mod_cast (mul_eq_zero.mp hzero).resolve_right (by omega)
          simp
  | true =>
      cases otherNegative with
      | false =>
          rw [signed_true, signed_false]
          exact (Int.neg_nonpos_of_nonneg (Int.natCast_nonneg _)).trans
            (Int.natCast_nonneg _)
      | true =>
          rw [signed_true, signed_true, Int.neg_mul, Int.neg_mul] at h
          exact Int.neg_le_neg (Int.ofNat_le.mpr (hmono hother hden (by omega)))

end Wireframe.Binary
