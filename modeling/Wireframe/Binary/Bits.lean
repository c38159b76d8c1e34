import Wireframe.Binary.Basic

/-!
The interchange encoding: a sign bit, a biased exponent and a fraction. The magnitudes of
a format in ascending order have the consecutive encodings `0, 1, 2, …`.
-/

namespace Wireframe.Binary

variable {f : Format}

def Format.fractionBits (f : Format) : Nat :=
  f.precision - 1

/-- The encoding of positive infinity, just above the largest finite magnitude. -/
def Format.infinityBits (f : Format) : Nat :=
  (2 ^ f.exponentBits - 1) * 2 ^ f.fractionBits

def Format.signBit (f : Format) (negative : Bool) : Nat :=
  if negative then 2 ^ (f.exponentBits + f.fractionBits) else 0

def Format.rank (f : Format) (units : Nat) : Nat :=
  (units.log2 + 1 - f.precision) * 2 ^ f.fractionBits + units / f.spacing units

/-- NaN is written with the top fraction bit alone. -/
def toBits : Binary f → Nat
  | nan => f.infinityBits + 2 ^ (f.fractionBits - 1)
  | infinity negative => f.signBit negative + f.infinityBits
  | finite negative units _ => f.signBit negative + f.rank units

/-- The finite number of a sign, an exponent field and a fraction field. -/
def ofFields (negative : Bool) (exponent fraction : Nat) : Binary f :=
  if exponent = 0 then
    ofRatio negative fraction 1
  else
    ofRatio negative ((2 ^ f.fractionBits + fraction) * 2 ^ (exponent - 1)) 1

def ofBits (f : Format) (bits : Nat) : Binary f :=
  let negative := bits / 2 ^ (f.exponentBits + f.fractionBits) % 2 = 1
  let exponent := bits / 2 ^ f.fractionBits % 2 ^ f.exponentBits
  let fraction := bits % 2 ^ f.fractionBits
  if exponent = 2 ^ f.exponentBits - 1 then
    if fraction = 0 then infinity negative else nan
  else
    ofFields negative exponent fraction

end Wireframe.Binary
