import Wireframe.Binary.Basic

/-!
Sine and cosine. The precision of either is left open where they are computed, and another
library may give a neighbouring number; here it is the number nearest to the value. Both
are summed in fixed point, with enough fraction bits that one rounding to the format
remains, and a multiple of a quarter turn is taken off first.
-/

namespace Wireframe.Binary

variable {f : Format}

namespace FixedPoint

def inverseTangentTail (n : Int) : (terms : Nat) → (k power : Int) → Int
  | 0, _, _ => 0
  | terms + 1, k, power =>
      power / k - inverseTangentTail n terms (k + 2) (power / (n * n))

/-- The angle whose tangent is `1 / n`, in units of two to the power `-bits`. -/
def inverseTangent (bits : Nat) (n : Int) : Int :=
  inverseTangentTail n bits 1 ((2 ^ bits : Nat) / n)

/-- Half a turn is sixteen times the angle of `1 / 5` less four
times that of `1 / 239`. -/
def pi (bits : Nat) : Int :=
  16 * inverseTangent bits 5 - 4 * inverseTangent bits 239

def circularTail (bits : Nat) (angle : Int) : (terms : Nat) → (k term : Int) → Int
  | 0, _, _ => 0
  | terms + 1, k, term =>
      term - circularTail bits angle terms (k + 2)
        (term * angle * angle / ((2 ^ (2 * bits) : Nat) * ((k + 1) * (k + 2))))

def sinSeries (bits : Nat) (angle : Int) : Int :=
  circularTail bits angle bits 1 angle

def cosSeries (bits : Nat) (angle : Int) : Int :=
  circularTail bits angle bits 0 (2 ^ bits : Nat)

def sinQuarter (bits : Nat) (angle quarters : Int) : Int :=
  if quarters % 4 = 0 then sinSeries bits angle
  else if quarters % 4 = 1 then cosSeries bits angle
  else if quarters % 4 = 2 then -sinSeries bits angle
  else -cosSeries bits angle

def sin (bits : Nat) (angle advance : Int) : Int :=
  let quarter := pi bits / 2
  sinQuarter bits (angle % quarter) (angle / quarter + advance)

end FixedPoint

/-- Room for the largest and the smallest number of the format and for
the error of the sums. -/
def Format.fixedPointBits (f : Format) : Nat :=
  f.width + f.scale + 64

def ofFixedPoint (negative : Bool) (value : Int) : Binary f :=
  ofRatio (negative ^^ decide (value < 0)) (value.natAbs * 2 ^ f.scale)
    (2 ^ f.fixedPointBits)

def pi : Binary f :=
  ofFixedPoint false (FixedPoint.pi f.fixedPointBits)

/-- The number nearest to the sine. An infinite angle has none. -/
def sin : Binary f → Binary f
  | nan => nan
  | infinity _ => nan
  | finite negative units _ =>
      ofFixedPoint negative
        (FixedPoint.sin f.fixedPointBits
          (units * 2 ^ (f.fixedPointBits - f.scale) : Nat) 0)

/-- The number nearest to the cosine, as with `sin`. -/
def cos : Binary f → Binary f
  | nan => nan
  | infinity _ => nan
  | finite _ units _ =>
      ofFixedPoint false
        (FixedPoint.sin f.fixedPointBits
          (units * 2 ^ (f.fixedPointBits - f.scale) : Nat) 1)

end Wireframe.Binary
