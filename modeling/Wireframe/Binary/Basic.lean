import Wireframe.Binary.Rounding

/-!
Floating-point numbers of a format, with one NaN and two zeros.
-/

namespace Wireframe

inductive Binary (f : Binary.Format) where
  | nan
  | infinity (negative : Bool)
  | finite (negative : Bool) (units : Nat) (representable : f.Representable units)
  deriving DecidableEq

abbrev Single := Binary Binary.Format.single

abbrev Double := Binary Binary.Format.double

namespace Binary

variable {f : Format}

instance : Inhabited (Binary f) := ⟨.nan⟩

def zero (negative : Bool) : Binary f :=
  .finite negative 0 f.representable_zero

/-- The number nearest to `num / den` units; beyond the largest finite
number lies infinity. -/
def ofRatio (negative : Bool) (num den : Nat) : Binary f :=
  if h : f.round num den < 2 ^ f.width then
    .finite negative (f.round num den) (Format.representable_round h)
  else
    .infinity negative

@[simp] theorem ofRatio_zero (negative : Bool) (den : Nat) :
    (ofRatio negative 0 den : Binary f) = zero negative := by
  simp only [ofRatio, Format.round_zero]
  exact dif_pos (Nat.two_pow_pos _)

theorem ofRatio_eq_finite {negative : Bool} {units den : Nat} (h : f.Representable units)
    (hden : 0 < den) : ofRatio negative (units * den) den = .finite negative units h := by
  simp [ofRatio, Format.round_eq_self h hden, h.lt]

def neg : Binary f → Binary f
  | nan => nan
  | infinity negative => infinity !negative
  | finite negative units h => finite (!negative) units h

instance : Neg (Binary f) := ⟨neg⟩

@[simp] theorem neg_nan : -(nan : Binary f) = nan := rfl

@[simp] theorem neg_infinity (negative : Bool) :
    -(infinity negative : Binary f) = infinity !negative := rfl

@[simp] theorem neg_finite (negative : Bool) (units : Nat) (h : f.Representable units) :
    -(finite negative units h) = finite (!negative) units h := rfl

def signed (negative : Bool) (magnitude : Nat) : Int :=
  if negative then -magnitude else magnitude

@[simp] theorem signed_false (magnitude : Nat) : signed false magnitude = magnitude := rfl

@[simp] theorem signed_true (magnitude : Nat) : signed true magnitude = -magnitude := rfl

@[simp] theorem natAbs_signed (negative : Bool) (magnitude : Nat) :
    (signed negative magnitude).natAbs = magnitude := by
  cases negative <;> simp

end Binary

end Wireframe
