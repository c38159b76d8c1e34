import Mathlib.Data.Nat.Log
import Wireframe.Binary.Rounding

/-!
Rounding and order. A quotient is never rounded past a magnitude of the format, and the
result is at most half the spacing away.
-/

namespace Wireframe.Binary

section

variable {num other den k : Nat}

theorem roundHalfEven_le_of_le (h : num ≤ k * den) : roundHalfEven num den ≤ k := by
  rcases h.lt_or_eq with hlt | rfl
  · have hquotient : num / den < k := Nat.div_lt_of_lt_mul (by rwa [Nat.mul_comm])
    exact (roundHalfEven_le num den).trans hquotient
  · rcases Nat.eq_zero_or_pos den with rfl | hden
    · simp [roundHalfEven]
    · exact (roundHalfEven_mul_right k hden).le

theorem le_roundHalfEven_of_le (hden : 0 < den) (h : k * den ≤ num) :
    k ≤ roundHalfEven num den :=
  ((Nat.le_div_iff_mul_le hden).mpr h).trans (div_le_roundHalfEven num den)

theorem roundHalfEven_mono (h : num ≤ other) :
    roundHalfEven num den ≤ roundHalfEven other den := by
  have hquotient : num / den ≤ other / den := Nat.div_le_div_right h
  rcases hquotient.lt_or_eq with hlt | heq
  · calc
      roundHalfEven num den ≤ num / den + 1 := roundHalfEven_le num den
      _ ≤ other / den := hlt
      _ ≤ roundHalfEven other den := div_le_roundHalfEven other den
  · have hnum := Nat.div_add_mod num den
    have hother := Nat.div_add_mod other den
    rw [heq] at hnum
    unfold roundHalfEven
    rw [heq]
    split
    · split
      · exact le_rfl
      · exact Nat.le_succ _
    · split
      · omega
      · exact le_rfl

end

namespace Format

variable {f : Format} {units other num den : Nat}

theorem log2_le_log2 (h : units ≤ other) : units.log2 ≤ other.log2 := by
  rw [Nat.log2_eq_log_two, Nat.log2_eq_log_two]
  exact Nat.log_mono_right h

theorem spacing_dvd_spacing (h : units ≤ other) : f.spacing units ∣ f.spacing other := by
  have hlog := log2_le_log2 h
  exact Nat.pow_dvd_pow 2 (by omega)

theorem spacing_dvd_two_pow_log2 (f : Format) (units : Nat) :
    f.spacing units ∣ 2 ^ units.log2 := by
  have hpos := f.precision_pos
  exact Nat.pow_dvd_pow 2 (by omega)

/-! A magnitude that lies on the grid around it bounds the rounding of what it bounds. -/

theorem round_le_of_le (hdvd : f.spacing units ∣ units) (h : num ≤ units * den) :
    f.round num den ≤ units := by
  have hquotient : num / den ≤ units := Nat.div_le_of_le_mul (by rwa [Nat.mul_comm])
  obtain ⟨k, hk⟩ := Nat.dvd_trans (spacing_dvd_spacing hquotient) hdvd
  have hscaled : num ≤ k * (den * f.spacing (num / den)) := by
    calc
      num ≤ units * den := h
      _ = f.spacing (num / den) * k * den := by rw [← hk]
      _ = k * (den * f.spacing (num / den)) := by
        rw [Nat.mul_comm (f.spacing _), Nat.mul_assoc, Nat.mul_comm den]
  calc
    f.round num den ≤ f.spacing (num / den) * k :=
      Nat.mul_le_mul_left _ (roundHalfEven_le_of_le hscaled)
    _ = units := hk.symm

private theorem le_round_of_spacing_dvd (hden : 0 < den)
    (hdvd : f.spacing (num / den) ∣ units) (h : units * den ≤ num) :
    units ≤ f.round num den := by
  obtain ⟨k, hk⟩ := hdvd
  have hscaled : k * (den * f.spacing (num / den)) ≤ num := by
    calc
      k * (den * f.spacing (num / den)) = f.spacing (num / den) * k * den := by
        rw [Nat.mul_comm (f.spacing _) k, Nat.mul_assoc, Nat.mul_comm den]
      _ = units * den := by rw [← hk]
      _ ≤ num := h
  have hpos : 0 < den * f.spacing (num / den) := Nat.mul_pos hden (f.spacing_pos _)
  calc
    units = f.spacing (num / den) * k := hk
    _ ≤ f.round num den := Nat.mul_le_mul_left _ (le_roundHalfEven_of_le hpos hscaled)

theorem le_round_of_le (hden : 0 < den) (hdvd : f.spacing units ∣ units)
    (h : units * den ≤ num) :
    units ≤ f.round num den := by
  have hquotient : units ≤ num / den := (Nat.le_div_iff_mul_le hden).mpr h
  rcases (log2_le_log2 hquotient).lt_or_eq with hlt | heq
  · -- The power of two below the quotient is on every grid and not below `units`.
    have hne : num / den ≠ 0 := fun hzero => by simp [hzero] at hlt
    have hpower : 2 ^ (num / den).log2 ≤ num / den := Nat.log2_self_le hne
    calc
      units ≤ 2 ^ (units.log2 + 1) := Nat.lt_log2_self.le
      _ ≤ 2 ^ (num / den).log2 := Nat.pow_le_pow_right (by decide) hlt
      _ ≤ f.round num den :=
        le_round_of_spacing_dvd hden (f.spacing_dvd_two_pow_log2 _)
          ((Nat.le_div_iff_mul_le hden).mp hpower)
  · refine le_round_of_spacing_dvd hden ?_ h
    unfold spacing at hdvd ⊢
    rwa [← heq]

theorem round_mono (hden : 0 < den) (h : num ≤ other) :
    f.round num den ≤ f.round other den := by
  have hquotient : num / den ≤ other / den := Nat.div_le_div_right h
  rcases (log2_le_log2 hquotient).lt_or_eq with hlt | heq
  · -- Between the two quotients lies a power of two, which neither rounding passes.
    let power := 2 ^ ((num / den).log2 + 1)
    have hdvd : f.spacing power ∣ power := by
      have hself := f.spacing_dvd_two_pow_log2 power
      rwa [Nat.log2_two_pow] at hself
    have hne : other / den ≠ 0 := fun hzero => by simp [hzero] at hlt
    have hother : power ≤ other / den :=
      (Nat.pow_le_pow_right (by decide) hlt).trans (Nat.log2_self_le hne)
    have hnum : num ≤ power * den :=
      (Nat.lt_mul_of_div_lt Nat.lt_log2_self hden).le
    exact (round_le_of_le hdvd hnum).trans
      (le_round_of_le hden hdvd ((Nat.le_div_iff_mul_le hden).mp hother))
  · have hspacing : f.spacing (num / den) = f.spacing (other / den) := by
      unfold spacing
      rw [heq]
    unfold round
    rw [hspacing]
    exact Nat.mul_le_mul_left _ (roundHalfEven_mono h)

end Format

end Wireframe.Binary
