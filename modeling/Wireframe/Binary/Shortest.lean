import Wireframe.Binary.Basic
import Wireframe.Decimal

/-!
The shortest decimal that reads back as a given floating-point number.
Magnitudes are counted in quarters of a unit here, so that the middle between
two neighbours is a whole number.
-/

namespace Wireframe.Binary

namespace Format

/-- Just above a power of two the lower neighbour is closer than the upper one. -/
def narrowBelow (f : Format) (units : Nat) : Bool :=
  f.spacing (units - 1) < f.spacing units

/-- Four times the lowest magnitude that reads back as `units`. -/
def lowQuarters (f : Format) (units : Nat) : Nat :=
  4 * units - (if f.narrowBelow units then f.spacing units else 2 * f.spacing units)

def highQuarters (f : Format) (units : Nat) : Nat :=
  4 * units + 2 * f.spacing units

/-- The two ends of the range read back as `units` only when its significand is even. -/
def readsBack (f : Format) (units num den : Nat) : Bool :=
  if units / f.spacing units % 2 = 0 then
    f.lowQuarters units * den ≤ num ∧ num ≤ f.highQuarters units * den
  else
    f.lowQuarters units * den < num ∧ num < f.highQuarters units * den

/-- The multiple of ten to the power `exponent` nearest to `units` among
those that read back. -/
def onGrid? (f : Format) (units : Nat) (exponent : Int) : Option Nat :=
  let num := units * 10 ^ (-exponent).toNat
  let den := 2 ^ f.scale * 10 ^ exponent.toNat
  let below := num / den
  let readsBack (digits : Nat) : Bool :=
    f.readsBack units (4 * digits * den) (10 ^ (-exponent).toNat)
  if readsBack below && (!readsBack (below + 1) || 2 * (num % den) < den) then
    some below
  else if readsBack (below + 1) then
    some (below + 1)
  else
    none

def shortestFrom (f : Format) (units : Nat) : (grids : Nat) → (exponent : Int) → Decimal
  | 0, exponent => ⟨units * 10 ^ (-exponent).toNat / 2 ^ f.scale, exponent⟩
  | grids + 1, exponent =>
      match f.onGrid? units exponent with
      | some digits => ⟨digits, exponent⟩
      | none => f.shortestFrom units grids (exponent - 1)

def shortest (f : Format) (units : Nat) : Decimal :=
  if units = 0 then ⟨0, 0⟩ else f.shortestFrom units f.width (f.width - f.scale)

end Format

variable {f : Format}

def render (layout : Decimal.Layout) : Binary f → List Char
  | nan => "NaN".toList
  | infinity negative => if negative then "-inf".toList else "inf".toList
  | finite negative units _ =>
      (if negative then ['-'] else []) ++ (f.shortest units).render layout

end Wireframe.Binary
