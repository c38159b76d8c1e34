import Wireframe.Binary.Basic

/-!
Arithmetic and order of floating-point numbers. Each operation is exact on
units and then rounded once.
-/

namespace Wireframe.Binary

variable {f : Format}

/-- An exact sum of zero is positive unless both terms are negative. -/
def add : Binary f → Binary f → Binary f
  | nan, _ => nan
  | _, nan => nan
  | infinity a, infinity b => if a = b then infinity a else nan
  | infinity a, finite .. => infinity a
  | finite .., infinity b => infinity b
  | finite a u _, finite b v _ =>
      if signed a u + signed b v = 0 then
        zero (a && b)
      else
        ofRatio (signed a u + signed b v < 0) (signed a u + signed b v).natAbs 1

def sub (x y : Binary f) : Binary f :=
  add x (-y)

def mul : Binary f → Binary f → Binary f
  | nan, _ => nan
  | _, nan => nan
  | infinity a, infinity b => infinity (a ^^ b)
  | infinity a, finite b v _ => if v = 0 then nan else infinity (a ^^ b)
  | finite a u _, infinity b => if u = 0 then nan else infinity (a ^^ b)
  | finite a u _, finite b v _ => ofRatio (a ^^ b) (u * v) (2 ^ f.scale)

def div : Binary f → Binary f → Binary f
  | nan, _ => nan
  | _, nan => nan
  | infinity _, infinity _ => nan
  | infinity a, finite b _ _ => infinity (a ^^ b)
  | finite a _ _, infinity b => zero (a ^^ b)
  | finite a u _, finite b v _ =>
      if v = 0 then
        if u = 0 then nan else infinity (a ^^ b)
      else
        ofRatio (a ^^ b) (u * 2 ^ f.scale) v

/-- NaN is neither below nor above any number. -/
def lt : Binary f → Binary f → Bool
  | nan, _ => false
  | _, nan => false
  | infinity a, infinity b => a && !b
  | infinity a, finite .. => a
  | finite .., infinity b => !b
  | finite a u _, finite b v _ => signed a u < signed b v

instance : Add (Binary f) := ⟨add⟩

instance : Sub (Binary f) := ⟨sub⟩

instance : Mul (Binary f) := ⟨mul⟩

instance : Div (Binary f) := ⟨div⟩

instance : LT (Binary f) := ⟨fun x y => lt x y⟩

instance : DecidableLT (Binary f) :=
  fun x y => inferInstanceAs (Decidable (lt x y = true))

def ofInt (n : Int) : Binary f :=
  ofRatio (n < 0) (n.natAbs * 2 ^ f.scale) 1

instance : IntCast (Binary f) := ⟨ofInt⟩

instance (n : Nat) : OfNat (Binary f) n := ⟨ofInt n⟩

@[simp] theorem nan_add (x : Binary f) : nan + x = nan := rfl

@[simp] theorem add_nan (x : Binary f) : x + nan = nan := by
  cases x <;> rfl

@[simp] theorem nan_mul (x : Binary f) : nan * x = nan := rfl

@[simp] theorem mul_nan (x : Binary f) : x * nan = nan := by
  cases x <;> rfl

end Wireframe.Binary
