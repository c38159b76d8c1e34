import Mathlib.Algebra.Order.Field.Power
import Mathlib.Data.Nat.Digits.Defs
import Wireframe.Proofs.Binary.Nearest
import Wireframe.Proofs.Numeral.Spelling

/-!
The values of numerals. A numeral stands for a decimal, exactly; the single that is made
of it is the nearest to that, as long as the exponent is not too large to be counted.
-/

namespace Wireframe

open Binary (ofRatio signed withSign)

namespace Numeral

def natural (digits : List Char) : Nat :=
  Nat.ofDigits 10 (digits.reverse.map digitValue)

def power (n : Numeral) : Int :=
  match n.exponent with
  | none => 0
  | some exponent => signed exponent.negative (natural exponent.digits)

/-- The decimal that a numeral stands for, without its sign. -/
def magnitude (n : Numeral) : ℚ :=
  (natural n.whole + natural n.fraction / 10 ^ n.fraction.length) * 10 ^ n.power

def exact (n : Numeral) : ℚ :=
  withSign n.negative n.magnitude

variable {n : Numeral} {digits : List Char}

theorem natural_concat (digits : List Char) (c : Char) :
    natural (digits ++ [c]) = 10 * natural digits + digitValue c := by
  simp [natural, Nat.ofDigits_cons, Nat.add_comm]

theorem digitsValue_concat (digits : List Char) (c : Char) :
    digitsValue (digits ++ [c]) = 10 * digitsValue digits + digitValue c := by
  simp [digitsValue]

theorem digitsValue_eq_natural (digits : List Char) :
    digitsValue digits = natural digits := by
  induction digits using List.reverseRecOn with
  | nil => rfl
  | append_singleton digits c ih => rw [digitsValue_concat, natural_concat, ih]

theorem natural_append (front back : List Char) :
    natural (front ++ back) = natural front * 10 ^ back.length + natural back := by
  induction back using List.reverseRecOn with
  | nil => simp [natural]
  | append_singleton back c ih =>
      rw [← List.append_assoc, natural_concat, natural_concat, ih, List.length_append,
        List.length_singleton, Nat.pow_succ]
      ring

theorem exponentMagnitude_eq_natural (h : natural digits < exponentLimit) :
    exponentMagnitude digits = natural digits := by
  induction digits using List.reverseRecOn with
  | nil => rfl
  | append_singleton digits c ih =>
      rw [natural_concat] at h ⊢
      have hbefore : exponentMagnitude digits = natural digits := ih (by omega)
      have hstep : exponentMagnitude (digits ++ [c]) = if exponentMagnitude digits <
          exponentLimit then
          10 * exponentMagnitude digits + digitValue c else exponentMagnitude digits :=
        List.foldl_concat ..
      rw [hstep, hbefore, if_pos (by omega)]

def exponentSize (n : Numeral) : Nat :=
  n.power.natAbs

theorem exponentValue_eq_power (h : n.exponentSize < exponentLimit) :
    exponentValue n.exponent = n.power := by
  unfold exponentSize at h
  unfold power at h ⊢
  cases hexponent : n.exponent with
  | none => rfl
  | some exponent =>
      simp only [hexponent, Binary.natAbs_signed] at h
      rw [exponentValue, Exponent.value, exponentMagnitude_eq_natural h]
      rfl

theorem magnitude_nonneg (n : Numeral) : 0 ≤ n.magnitude := by
  unfold magnitude
  positivity

theorem magnitude_of_exact_eq_zero (h : n.exact = 0) : n.magnitude = 0 := by
  rw [← Binary.abs_withSign n.negative n.magnitude_nonneg, ← exact, h, abs_zero]

theorem ten_zpow_eq_div (e : Int) :
    (10 : ℚ) ^ e = (10 ^ e.toNat : Nat) / (10 ^ (-e).toNat : Nat) := by
  have hten : (10 : ℚ) ≠ 0 := by norm_num
  have hdifference : (e.toNat : Int) - (-e).toNat = e := by omega
  calc
    (10 : ℚ) ^ e = (10 : ℚ) ^ ((e.toNat : Int) - (-e).toNat) := by rw [hdifference]
    _ = (10 ^ e.toNat : Nat) / (10 ^ (-e).toNat : Nat) := by
      rw [zpow_sub₀ hten, zpow_natCast, zpow_natCast]
      push_cast
      rfl

theorem magnitude_eq (n : Numeral) :
    n.magnitude = natural (n.whole ++ n.fraction) *
      (10 : ℚ) ^ (n.power - n.fraction.length) := by
  have hten : (10 : ℚ) ≠ 0 := by norm_num
  have hpos : (10 : ℚ) ^ n.fraction.length ≠ 0 := pow_ne_zero _ hten
  rw [magnitude, natural_append, zpow_sub₀ hten, zpow_natCast]
  push_cast
  field_simp

theorem exists_ratio {x : Single} (h : n.exponentSize < exponentLimit)
    (hvalue : n.value? = some x) :
    ∃ num den, 0 < den ∧ x = ofRatio n.negative num den ∧
      n.magnitude * (2 ^ Binary.Format.single.scale : Nat) = num / den := by
  unfold value? at hvalue
  split at hvalue
  · rw [exponentValue_eq_power h, digitsValue_eq_natural] at hvalue
    cases hvalue
    refine ⟨_, _, Nat.pow_pos (by decide), rfl, ?_⟩
    rw [magnitude_eq, ten_zpow_eq_div]
    push_cast
    ring
  · cases hvalue

theorem exact_mul_unit {unit num den : Nat} (h : n.magnitude * unit = num / den) :
    n.exact * unit = (signed n.negative num : ℚ) / den := by
  unfold exact
  cases n.negative with
  | false => simpa [withSign] using h
  | true => simpa [withSign, neg_div] using h

theorem roundsTo_of_value? {x : Single} (h : n.exponentSize < exponentLimit)
    (hvalue : n.value? = some x) :
    x.RoundsTo n.negative n.magnitude := by
  obtain ⟨num, den, hden, hmade, hratio⟩ := exists_ratio h hvalue
  rw [hmade]
  exact Binary.roundsTo_ofRatio (by decide) hden n.negative hratio

section

variable {m : Numeral} {x y : Single}

variable (hm : m.exponentSize < exponentLimit) (hn : n.exponentSize < exponentLimit)
  (hx : m.value? = some x) (hy : n.value? = some y)
include hm hn hx hy

/-- The single depends on the decimal alone, not on how that is written. -/
theorem value?_eq_of_exact_eq (h : m.exact = n.exact) (hne : n.exact ≠ 0) : x = y := by
  obtain ⟨hnegative, hmagnitude⟩ :=
    Binary.withSign_inj m.magnitude_nonneg n.magnitude_nonneg h hne
  obtain ⟨num, den, hden, hmade, hratio⟩ := exists_ratio hm hx
  obtain ⟨other, otherDen, hother, hotherMade, hotherRatio⟩ := exists_ratio hn hy
  rw [hmagnitude, hotherRatio, div_eq_div_iff (by positivity) (by positivity)] at hratio
  rw [hmade, hotherMade, hnegative]
  exact Binary.ofRatio_congr hden hother n.negative (by exact_mod_cast hratio.symm)

theorem not_lt_of_exact_lt (h : m.exact < n.exact) : ¬ y < x := by
  obtain ⟨num, den, hden, hmade, hratio⟩ := exists_ratio hm hx
  obtain ⟨other, otherDen, hother, hotherMade, hotherRatio⟩ := exists_ratio hn hy
  have hlevel : signed m.negative num * otherDen ≤ signed n.negative other * den := by
    have hunits : (signed m.negative num : ℚ) / den ≤
        signed n.negative other / otherDen := by
      rw [← exact_mul_unit hratio, ← exact_mul_unit hotherRatio]
      exact mul_le_mul_of_nonneg_right h.le (Binary.unit_pos _).le
    rw [div_le_div_iff₀ (Nat.cast_pos.mpr hden) (Nat.cast_pos.mpr hother)] at hunits
    exact_mod_cast hunits
  rw [hmade, hotherMade, not_congr (Binary.lt_iff_level_lt (Binary.ofRatio_ne_nan _ _ _)
    (Binary.ofRatio_ne_nan _ _ _)), not_lt]
  exact Binary.level_ofRatio_mono hden hother hlevel

end

end Numeral

end Wireframe
