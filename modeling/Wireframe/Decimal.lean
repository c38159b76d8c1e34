/-!
Decimals and their layout as text.
-/

namespace Wireframe

structure Decimal where
  digits : Nat
  exponent : Int
  deriving DecidableEq

namespace Decimal

/--
A decimal stands in positional form when its point falls `low` to `high` places after the
first digit, and in scientific form otherwise.
-/
structure Layout where
  low : Int
  high : Int

private def zeros (count : Int) : List Char :=
  List.replicate count.toNat '0'

def positional (d : Decimal) : List Char :=
  let digits := Nat.toDigits 10 d.digits
  let whole := digits.length + d.exponent
  if whole ≤ 0 then
    '0' :: '.' :: zeros (-whole) ++ digits
  else if 0 ≤ d.exponent then
    digits ++ zeros d.exponent ++ ['.', '0']
  else
    digits.take whole.toNat ++ '.' :: digits.drop whole.toNat

/-- One digit stands before the point, and a point without digits after it is left out. -/
def scientific (d : Decimal) : List Char :=
  let digits := Nat.toDigits 10 d.digits
  let exponent := digits.length + d.exponent - 1
  let fraction := digits.drop 1
  digits.take 1 ++ (if fraction.isEmpty then [] else '.' :: fraction) ++
    'e' :: (toString exponent).toList

def render (layout : Layout) (d : Decimal) : List Char :=
  let point := (Nat.toDigits 10 d.digits).length + d.exponent
  if d.digits = 0 ∨ (layout.low ≤ point ∧ point ≤ layout.high) then
    d.positional
  else
    d.scientific

end Decimal

end Wireframe
