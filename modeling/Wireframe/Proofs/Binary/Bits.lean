import Wireframe.Binary.Bits
import Wireframe.Proofs.Binary.Value

/-!
The numbers that patterns of bits stand for. But for the last exponent, which is left to
infinity and NaN, a pattern is a fraction under a power of two, with a one before it
unless the exponent is the first.
-/

namespace Wireframe.Binary

variable {f : Format} {negative : Bool} {exponent fraction : Nat}

def Format.bias (f : Format) : Nat :=
  2 ^ (f.exponentBits - 1) - 1

def Format.valueOfFields (f : Format) (negative : Bool) (exponent fraction : Nat) : ℚ :=
  (if negative then -1 else 1) *
    if exponent = 0 then (2 : ℚ) ^ (1 - f.bias : ℤ) * (fraction / 2 ^ f.fractionBits)
    else (2 : ℚ) ^ (exponent - f.bias : ℤ) * (1 + fraction / 2 ^ f.fractionBits)

def Format.unitsOfFields (f : Format) (exponent fraction : Nat) : Nat :=
  if exponent = 0 then fraction else (2 ^ f.fractionBits + fraction) * 2 ^ (exponent - 1)

theorem representable_unitsOfFields (hexponent : exponent < 2 ^ f.exponentBits - 1)
    (hfraction : fraction < 2 ^ f.fractionBits) :
    f.Representable (f.unitsOfFields exponent fraction) := by
  have hprecision : f.fractionBits + 1 = f.precision := Nat.sub_add_cancel f.precision_pos
  have hwidth : f.width = f.precision + 2 ^ f.exponentBits - 3 := rfl
  have hdouble : 2 ^ f.precision = 2 * 2 ^ f.fractionBits := by
    rw [← hprecision, Nat.pow_succ, Nat.mul_comm]
  unfold Format.unitsOfFields
  split
  · have hlt : 2 ^ 0 * fraction < 2 ^ f.width := by
      rw [Nat.pow_zero, Nat.one_mul]
      exact hfraction.trans_le (Nat.pow_le_pow_right (by decide) (by omega))
    simpa using Format.representable_shift (by omega) hlt
  · have hsignificand : 2 ^ f.fractionBits + fraction < 2 ^ f.precision := by omega
    rw [Nat.mul_comm]
    refine Format.representable_shift hsignificand.le ?_
    calc
      2 ^ (exponent - 1) * (2 ^ f.fractionBits + fraction) <
          2 ^ (exponent - 1) * 2 ^ f.precision :=
        Nat.mul_lt_mul_of_pos_left hsignificand (Nat.two_pow_pos _)
      _ = 2 ^ (exponent - 1 + f.precision) := (Nat.pow_add ..).symm
      _ ≤ 2 ^ f.width := Nat.pow_le_pow_right (by decide) (by omega)

theorem ofFields_eq_finite (hexponent : exponent < 2 ^ f.exponentBits - 1)
    (hfraction : fraction < 2 ^ f.fractionBits) :
    (ofFields negative exponent fraction : Binary f) =
      finite negative _ (representable_unitsOfFields hexponent hfraction) := by
  have hunits :=
    @ofRatio_eq_finite f negative _ 1
      (representable_unitsOfFields hexponent hfraction) one_pos
  rw [← hunits, Nat.mul_one, ofFields, Format.unitsOfFields]
  split <;> rfl

theorem toRat_unitsOfFields (hscale : (f.scale : ℤ) = f.bias - 1 + f.fractionBits)
    (h : f.Representable (f.unitsOfFields exponent fraction)) :
    (finite negative _ h).toRat = f.valueOfFields negative exponent fraction := by
  have hunit : ((2 ^ f.scale : Nat) : ℚ) =
      (2 : ℚ) ^ (f.bias - 1 : ℤ) * 2 ^ f.fractionBits := by
    rw [Nat.cast_pow, Nat.cast_two, ← zpow_natCast, hscale, zpow_add₀ two_ne_zero,
      zpow_natCast]
  have hvalue : (f.unitsOfFields exponent fraction : ℚ) / (2 ^ f.scale : Nat) =
      if exponent = 0 then (2 : ℚ) ^ (1 - f.bias : ℤ) * (fraction / 2 ^ f.fractionBits)
      else (2 : ℚ) ^ (exponent - f.bias : ℤ) * (1 + fraction / 2 ^ f.fractionBits) := by
    rw [hunit, Format.unitsOfFields]
    split
    · have hpower : (2 : ℚ) ^ (1 - f.bias : ℤ) = ((2 : ℚ) ^ (f.bias - 1 : ℤ))⁻¹ := by
        rw [← zpow_neg, Int.neg_sub]
      rw [hpower]
      field_simp
    · have hpower : (2 : ℚ) ^ (exponent - f.bias : ℤ) =
          2 ^ (exponent - 1) * ((2 : ℚ) ^ (f.bias - 1 : ℤ))⁻¹ := by
        rw [← zpow_neg, ← zpow_natCast, ← zpow_add₀ two_ne_zero]
        congr 1
        omega
      rw [hpower, Nat.cast_mul, Nat.cast_add, Nat.cast_pow, Nat.cast_pow, Nat.cast_two]
      field_simp
  rw [Format.valueOfFields, ← hvalue, toRat, level]
  cases negative <;> simp [neg_div]

/-- A pattern is a number by its fields, unless its exponent is the last. -/
theorem ofBits_eq_finite (hscale : (f.scale : ℤ) = f.bias - 1 + f.fractionBits)
    {bits : Nat}
    (h : bits / 2 ^ f.fractionBits % 2 ^ f.exponentBits ≠ 2 ^ f.exponentBits - 1) :
    (ofBits f bits).IsFinite ∧
      (ofBits f bits).toRat =
        f.valueOfFields (bits / 2 ^ (f.exponentBits + f.fractionBits) % 2 = 1)
        (bits / 2 ^ f.fractionBits % 2 ^ f.exponentBits) (bits % 2 ^ f.fractionBits) := by
  have hexponent : bits / 2 ^ f.fractionBits % 2 ^ f.exponentBits <
      2 ^ f.exponentBits - 1 := by
    have hlt := Nat.mod_lt (bits / 2 ^ f.fractionBits) (Nat.two_pow_pos f.exponentBits)
    omega
  rw [ofBits]
  simp only [if_neg h]
  rw [ofFields_eq_finite hexponent (Nat.mod_lt _ (Nat.two_pow_pos _))]
  exact ⟨⟨_, _, _, rfl⟩, toRat_unitsOfFields hscale _⟩

theorem scale_single :
    (Format.single.scale : ℤ) = Format.single.bias - 1 + Format.single.fractionBits := by
  decide

end Wireframe.Binary
