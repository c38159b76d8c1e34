import Wireframe.Binary.Basic

/-!
The floating-point number nearest to a decimal.
-/

namespace Wireframe.Binary

variable {f : Format}

def ofDecimal (negative : Bool) (digits : Nat) (exponent : Int) : Binary f :=
  ofRatio negative (digits * 10 ^ exponent.toNat * 2 ^ f.scale) (10 ^ (-exponent).toNat)

end Wireframe.Binary
