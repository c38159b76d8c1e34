/-!
Binary floating-point formats. A magnitude is counted in units of the smallest positive
number of its format, so every finite number of a format is a natural number of units.
-/

namespace Wireframe

-- Powers of natural numbers are taken from the core library, whatever else is imported.
attribute [scoped instance (high)] instPowNat

end Wireframe

namespace Wireframe.Binary

/-- A format has significands of `precision` bits and an exponent field
of `exponentBits` bits. -/
structure Format where
  precision : Nat
  exponentBits : Nat
  precision_pos : 0 < precision

namespace Format

def single : Format := ⟨24, 8, by decide⟩

def double : Format := ⟨53, 11, by decide⟩

/-- One unit is two to the power `-scale`. -/
def scale (f : Format) : Nat :=
  2 ^ (f.exponentBits - 1) + f.precision - 3

/-- Finite magnitudes stay below two to the power `width`. -/
def width (f : Format) : Nat :=
  f.precision + 2 ^ f.exponentBits - 3

/-- The distance between neighbouring magnitudes around `units`. -/
def spacing (f : Format) (units : Nat) : Nat :=
  2 ^ (units.log2 + 1 - f.precision)

structure Representable (f : Format) (units : Nat) : Prop where
  lt : units < 2 ^ f.width
  dvd : f.spacing units ∣ units

instance (f : Format) (units : Nat) : Decidable (f.Representable units) :=
  decidable_of_iff (units < 2 ^ f.width ∧ f.spacing units ∣ units)
    ⟨fun h => ⟨h.1, h.2⟩, fun h => ⟨h.lt, h.dvd⟩⟩

theorem spacing_pos (f : Format) (units : Nat) : 0 < f.spacing units :=
  Nat.two_pow_pos _

theorem representable_zero (f : Format) : f.Representable 0 :=
  ⟨Nat.two_pow_pos _, Nat.dvd_zero _⟩

theorem representable_shift {f : Format} {shift significand : Nat}
    (hsignificand : significand ≤ 2 ^ f.precision)
    (hlt : 2 ^ shift * significand < 2 ^ f.width) :
    f.Representable (2 ^ shift * significand) := by
  refine ⟨hlt, ?_⟩
  have hpos := f.precision_pos
  by_cases hzero : significand = 0
  · simp [hzero]
  by_cases htop : significand = 2 ^ f.precision
  · rw [htop, ← Nat.pow_add]
    unfold spacing
    rw [Nat.log2_two_pow]
    exact Nat.pow_dvd_pow 2 (by omega)
  · have hne : 2 ^ shift * significand ≠ 0 :=
      Nat.mul_ne_zero (Nat.ne_of_gt (Nat.two_pow_pos shift)) hzero
    have hlog : (2 ^ shift * significand).log2 < shift + f.precision := by
      rw [Nat.log2_lt hne, Nat.pow_add]
      exact Nat.mul_lt_mul_of_pos_left (by omega) (Nat.two_pow_pos shift)
    unfold spacing
    exact Nat.dvd_trans (Nat.pow_dvd_pow 2 (by omega)) (Nat.dvd_mul_right _ _)

end Format

end Wireframe.Binary
