import Wireframe.Binary.Format

/-!
Rounding of a quotient to the nearest magnitude of a format; a tie
goes to the even neighbour.
-/

namespace Wireframe.Binary

def roundHalfEven (num den : Nat) : Nat :=
  if 2 * (num % den) < den ∨ (2 * (num % den) = den ∧ num / den % 2 = 0) then
    num / den
  else
    num / den + 1

theorem roundHalfEven_le (num den : Nat) : roundHalfEven num den ≤ num / den + 1 := by
  unfold roundHalfEven
  split <;> omega

theorem div_le_roundHalfEven (num den : Nat) : num / den ≤ roundHalfEven num den := by
  unfold roundHalfEven
  split <;> omega

@[simp] theorem roundHalfEven_mul_right (n : Nat) {den : Nat} (h : 0 < den) :
    roundHalfEven (n * den) den = n := by
  simp [roundHalfEven, Nat.mul_div_cancel n h, h]

namespace Format

/-- The magnitude nearest to `num / den` units, before the format's bound is looked at. -/
def round (f : Format) (num den : Nat) : Nat :=
  f.spacing (num / den) * roundHalfEven num (den * f.spacing (num / den))

private theorem roundHalfEven_le_pow_precision (f : Format) (num den : Nat) :
    roundHalfEven num (den * f.spacing (num / den)) ≤ 2 ^ f.precision := by
  have hbound : num / den < 2 ^ f.precision * f.spacing (num / den) := by
    refine Nat.lt_of_lt_of_le Nat.lt_log2_self ?_
    unfold spacing
    rw [← Nat.pow_add]
    exact Nat.pow_le_pow_right (by decide) (by omega)
  have hquotient : num / (den * f.spacing (num / den)) < 2 ^ f.precision := by
    rw [← Nat.div_div_eq_div_mul]
    exact Nat.div_lt_of_lt_mul (by rwa [Nat.mul_comm])
  exact Nat.le_trans (roundHalfEven_le _ _) hquotient

theorem representable_round {f : Format} {num den : Nat}
    (h : f.round num den < 2 ^ f.width) : f.Representable (f.round num den) :=
  representable_shift (roundHalfEven_le_pow_precision f num den) h

@[simp] theorem round_zero (f : Format) (den : Nat) : f.round 0 den = 0 := by
  rcases Nat.eq_zero_or_pos (den * f.spacing 0) with h | h <;>
    simp [round, roundHalfEven, h]

theorem round_eq_self {f : Format} {units den : Nat} (hunits : f.Representable units)
    (hden : 0 < den) : f.round (units * den) den = units := by
  obtain ⟨significand, hsignificand⟩ := hunits.dvd
  unfold round
  rw [Nat.mul_div_cancel units hden]
  have hexact : units * den = significand * (den * f.spacing units) := by
    conv => lhs; rw [hsignificand]
    rw [Nat.mul_comm (f.spacing units), Nat.mul_assoc, Nat.mul_comm den]
  rw [hexact, roundHalfEven_mul_right _ (Nat.mul_pos hden (f.spacing_pos units))]
  exact hsignificand.symm

end Format

end Wireframe.Binary
