import Wireframe.Binary.Decimal
import Wireframe.Text.DecimalDigit

/-!
Numerals as scripts write them: a sign, digits around an optional point, and an
optional exponent. Digits of every script are taken, but only a numeral in
ASCII digits has a value.
-/

namespace Wireframe

structure Numeral.Exponent where
  negative : Bool
  digits : List Char
  deriving DecidableEq

/-- A numeral without digits on both sides of the point is never read. -/
structure Numeral where
  negative : Bool
  whole : List Char
  fraction : List Char
  exponent : Option Numeral.Exponent
  deriving DecidableEq

namespace Numeral

def takeSign : List Char → Bool × List Char
  | '+' :: text => (false, text)
  | '-' :: text => (true, text)
  | text => (false, text)

def takeDigits (text : List Char) : List Char × List Char :=
  (text.takeWhile Text.isDecimalDigit, text.dropWhile Text.isDecimalDigit)

def takeFraction : List Char → List Char × List Char
  | '.' :: text => takeDigits text
  | text => ([], text)

/-- Reads the whole of `text` as an exponent; the empty text is the exponent left out. -/
def readExponent? : List Char → Option (Option Exponent)
  | [] => some none
  | mark :: text =>
      let (negative, digits) := takeSign text
      if (mark = 'e' ∨ mark = 'E') ∧ digits ≠ [] ∧ digits.all Text.isDecimalDigit then
        some (some ⟨negative, digits⟩)
      else
        none

def read? (text : List Char) : Option Numeral :=
  let (negative, unsigned) := takeSign text
  let (whole, afterWhole) := takeDigits unsigned
  let (fraction, afterFraction) := takeFraction afterWhole
  if whole = [] ∧ fraction = [] then
    none
  else
    (readExponent? afterFraction).map fun exponent =>
      ⟨negative, whole, fraction, exponent⟩

def digitValue (c : Char) : Nat :=
  c.toNat - '0'.toNat

def digitsValue (digits : List Char) : Nat :=
  digits.foldl (fun value c => 10 * value + digitValue c) 0

/-- Further digits do not count once an exponent has reached this size. -/
def exponentLimit : Nat := 65536

def exponentMagnitude (digits : List Char) : Nat :=
  digits.foldl
    (fun value c => if value < exponentLimit then 10 * value + digitValue c else value) 0

def Exponent.value (exponent : Exponent) : Int :=
  if exponent.negative then
    -exponentMagnitude exponent.digits
  else
    exponentMagnitude exponent.digits

def exponentValue : Option Exponent → Int
  | none => 0
  | some exponent => Exponent.value exponent

def allDigits (n : Numeral) : List Char :=
  n.whole ++ n.fraction ++ (n.exponent.map Exponent.digits).getD []

def value? (n : Numeral) : Option Single :=
  if n.allDigits.all Char.isDigit then
    some (.ofDecimal n.negative (digitsValue (n.whole ++ n.fraction))
      (exponentValue n.exponent - n.fraction.length))
  else
    none

end Numeral

end Wireframe
