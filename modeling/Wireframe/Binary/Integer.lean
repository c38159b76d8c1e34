import Wireframe.Binary.Arithmetic

/-!
Integers near a floating-point number.
-/

namespace Wireframe.Binary

variable {f : Format}

/-- The integer part, held between `low` and `high`; NaN has the integer part zero. -/
def truncateWithin (low high : Int) : Binary f → Int
  | nan => 0
  | infinity negative => if negative then low else high
  | finite negative units _ => max low (min high (signed negative (units / 2 ^ f.scale)))

/-- The nearest integer, a half going away from zero; no integer is near infinity. -/
def nearestInteger : Binary f → Int
  | nan => 0
  | infinity _ => 0
  | finite negative units _ =>
      signed negative ((2 * units + 2 ^ f.scale) / 2 ^ (f.scale + 1))

theorem truncateWithin_mem {low high : Int} (hlow : low ≤ 0) (hhigh : 0 ≤ high)
    (x : Binary f) :
    low ≤ x.truncateWithin low high ∧ x.truncateWithin low high ≤ high := by
  cases x with
  | nan => exact ⟨hlow, hhigh⟩
  | infinity negative => cases negative <;> simp [truncateWithin] <;> omega
  | finite negative units h => simp only [truncateWithin]; omega

end Wireframe.Binary
