import Mathlib.Tactic.FinCases
import Mathlib.Tactic.Ring
import Wireframe.Geometry.Matrix
import Wireframe.Proofs.Binary.Interpolate

/-!
Transformations by whole numbers. Products of rows and matrices are exact as long as all
that comes up on the way is a number of the format, and then a composed transformation
does what its parts do one after another.
-/

namespace Wireframe

namespace Binary

variable {f : Format} {x y : Binary f} {a b : Int}

/-- The number is the integer; a zero may have either sign. -/
structure IsInt (x : Binary f) (n : Int) : Prop where
  finite : x.IsFinite
  toRat_eq : x.toRat = n

theorem IsInt.number (h : x.IsInt a) : f.Number a := by
  obtain ⟨⟨negative, units, hunits, rfl⟩, htoRat⟩ := h
  refine ⟨signed negative units, ?_, htoRat.symm⟩
  rwa [natAbs_signed]

theorem IsInt.of_within (h : x.Within a a) : x.IsInt a :=
  ⟨h.finite, h.toRat_eq⟩

theorem IsInt.mul (hx : x.IsInt a) (hy : y.IsInt b) (h : f.Number (a * b : Int)) :
    (x * y).IsInt (a * b) := by
  have hproduct : x.toRat * y.toRat = (a * b : Int) := by
    rw [hx.toRat_eq, hy.toRat_eq, Int.cast_mul]
  exact .of_within (within_mul h h hx.finite hy.finite hproduct.ge hproduct.le)

theorem IsInt.add (hx : x.IsInt a) (hy : y.IsInt b) (h : f.Number (a + b : Int)) :
    (x + y).IsInt (a + b) := by
  have hsum : x.toRat + y.toRat = (a + b : Int) := by
    rw [hx.toRat_eq, hy.toRat_eq, Int.cast_add]
  exact .of_within (within_add h h hx.finite hy.finite hsum.ge hsum.le)

theorem Format.single_room :
    Format.single.scale + Format.single.precision < Format.single.width := by decide

theorem isInt_cast {n : Int} (h : n.natAbs ≤ 2 ^ Format.single.precision) :
    (n : Single).IsInt n :=
  .of_within (within_cast_self Format.single_room h)

end Binary

namespace Row

theorem get_times {α : Type} [Add α] [Mul α] (row : Row α) (m : Matrix α) (k : Fin 4) :
    (row.times m).get k = row.get 0 * (m.get 0).get k + row.get 1 * (m.get 1).get k +
      row.get 2 * (m.get 2).get k + row.get 3 * (m.get 3).get k :=
  getElem_times row m k

theorem ext_get {α : Type} {row other : Row α}
    (h : ∀ k : Fin 4, row.get k = other.get k) :
    row = other :=
  Vector.ext fun k hk => h ⟨k, hk⟩

end Row

namespace Matrix

theorem get_andThen {α : Type} [Add α] [Mul α] (first second : Matrix α) (i : Fin 4) :
    (first.andThen second).get i = (first.get i).times second :=
  Vector.getElem_map _ i.isLt

theorem get_ofEntries {α : Type} (entry : Fin 4 → Fin 4 → α) (i j : Fin 4) :
    ((ofEntries entry).get i).get j = entry i j :=
  getElem_ofEntries entry i j

theorem get_identity {α : Type} [OfNat α 0] [OfNat α 1] (i j : Fin 4) :
    ((identity : Matrix α).get i).get j = if i = j then 1 else 0 :=
  get_ofEntries _ i j

theorem get_rotation (axis : Axis) (degrees : Single) (i j : Fin 4) :
    ((rotation axis degrees).get i).get j =
      if (i = axis.others.1 ∧ j = axis.others.1) ∨
      (i = axis.others.2 ∧ j = axis.others.2) then
        (radians degrees).cos
      else if i = axis.others.1 ∧ j = axis.others.2 then (radians degrees).sin
      else if i = axis.others.2 ∧ j = axis.others.1 then -(radians degrees).sin
      else if i = j then 1
      else 0 :=
  get_ofEntries _ i j

end Matrix

/-! Whole rows and matrices. -/

def Row.IsInt (row : Row Single) (whole : Row Int) : Prop :=
  ∀ k : Fin 4, (row.get k).IsInt (whole.get k)

def Matrix.IsInt (m : Matrix Single) (whole : Matrix Int) : Prop :=
  ∀ i : Fin 4, Row.IsInt (m.get i) (whole.get i)

namespace Row

def products (row : Row Int) (m : Matrix Int) (k : Fin 4) : List Int :=
  List.ofFn fun i : Fin 4 => row.get i * (m.get i).get k

/-- All that comes up when a row is multiplied with a matrix: the products, and their
sums from the first on. -/
def Steps (P : Int → Prop) (row : Row Int) (m : Matrix Int) : Prop :=
  ∀ k : Fin 4, (∀ n ∈ row.products m k, P n) ∧
    ∀ n ∈ (row.products m k).scanl (· + ·) 0, P n

/-- Nothing that comes up is beyond two to the power 24. -/
def Fits (row : Row Int) (m : Matrix Int) : Prop :=
  row.Steps (fun n => |n| ≤ 2 ^ 24) m

instance (row : Row Int) (m : Matrix Int) : Decidable (row.Fits m) :=
  inferInstanceAs (Decidable (∀ k : Fin 4, (∀ n ∈ row.products m k, |n| ≤ 2 ^ 24) ∧
    ∀ n ∈ (row.products m k).scanl (· + ·) 0, |n| ≤ 2 ^ 24))

variable {row : Row Single} {whole : Row Int} {m : Matrix Single} {wholes : Matrix Int}
  {P Q : Int → Prop}

theorem Steps.mono (h : whole.Steps P wholes) (hPQ : ∀ n, P n → Q n) :
    whole.Steps Q wholes := by
  intro k
  obtain ⟨hproducts, hsums⟩ := h k
  exact ⟨fun n hn => hPQ n (hproducts n hn), fun n hn => hPQ n (hsums n hn)⟩

theorem products_eq (row : Row Int) (m : Matrix Int) (k : Fin 4) :
    row.products m k = [row.get 0 * (m.get 0).get k, row.get 1 * (m.get 1).get k,
      row.get 2 * (m.get 2).get k, row.get 3 * (m.get 3).get k] :=
  rfl

theorem IsInt.times_of_steps (hrow : row.IsInt whole) (hm : m.IsInt wholes)
    (h : whole.Steps (fun n => Binary.Format.single.Number n) wholes) :
    (row.times m).IsInt (whole.times wholes) := by
  intro k
  have hsteps := h k
  rw [products_eq] at hsteps
  simp only [List.scanl_cons, List.scanl_nil, List.forall_mem_cons, zero_add] at hsteps
  obtain ⟨⟨hx, hy, hz, hw, -⟩, -, -, hxy, hxyz, hxyzw, -⟩ := hsteps
  rw [get_times, get_times]
  have hx := (hrow 0).mul (hm 0 k) hx
  have hy := (hrow 1).mul (hm 1 k) hy
  have hz := (hrow 2).mul (hm 2 k) hz
  have hw := (hrow 3).mul (hm 3 k) hw
  exact ((hx.add hy hxy).add hz hxyz).add hw hxyzw

theorem IsInt.times (hrow : row.IsInt whole) (hm : m.IsInt wholes)
    (h : whole.Fits wholes) :
    (row.times m).IsInt (whole.times wholes) := by
  refine hrow.times_of_steps hm (h.mono fun n hn => ?_)
  have hnatAbs : n.natAbs ≤ 2 ^ Binary.Format.single.precision := by
    rw [Int.abs_eq_natAbs] at hn
    exact_mod_cast hn
  exact Binary.number_whole Binary.Format.single_room hnatAbs

/-! Integers. -/

theorem times_andThen (row : Row Int) (first second : Matrix Int) :
    row.times (first.andThen second) = (row.times first).times second := by
  refine ext_get fun k => ?_
  simp only [get_times, Matrix.get_andThen]
  ring

theorem times_identity (row : Row Int) : row.times Matrix.identity = row := by
  refine ext_get fun k => ?_
  rw [get_times]
  simp only [Matrix.get_identity]
  fin_cases k <;> simp

theorem identity_times (m : Matrix Int) (i : Fin 4) :
    ((Matrix.identity : Matrix Int).get i).times m = m.get i := by
  refine ext_get fun k => ?_
  rw [get_times]
  simp only [Matrix.get_identity]
  fin_cases i <;> simp

theorem steps_identity (hzero : P 0) {m : Matrix Int} {i : Fin 4}
    (h : ∀ k : Fin 4, P ((m.get i).get k)) :
    ((Matrix.identity : Matrix Int).get i).Steps P m := by
  intro k
  have hk := h k
  rw [products_eq]
  simp only [Matrix.get_identity]
  fin_cases i <;> simpa [hzero] using hk

end Row

/-! Matrices one after another. -/

namespace Matrix

def composed {α : Type} [Add α] [Mul α] [OfNat α 0] [OfNat α 1] (ms : List (Matrix α)) :
    Matrix α :=
  ms.foldl andThen identity

/-- All products fit on the way from a matrix through those that are put behind it. -/
def ComposeFits (m : Matrix Int) : List (Matrix Int) → Prop
  | [] => True
  | next :: rest =>
      (∀ i : Fin 4, Row.Fits (m.get i) next) ∧ (m.andThen next).ComposeFits rest

instance decidableComposeFits : (m : Matrix Int) → (ms : List (Matrix Int)) →
    Decidable (m.ComposeFits ms)
  | _, [] => isTrue trivial
  | m, next :: rest =>
      have := decidableComposeFits (m.andThen next) rest
      inferInstanceAs (Decidable ((∀ i : Fin 4, Row.Fits (m.get i) next) ∧
        (m.andThen next).ComposeFits rest))

end Matrix

namespace Row

/-- All products fit when a row is put through matrices one after another. -/
def EachFits (row : Row Int) : List (Matrix Int) → Prop
  | [] => True
  | next :: rest => row.Fits next ∧ (row.times next).EachFits rest

instance decidableEachFits : (row : Row Int) → (ms : List (Matrix Int)) →
    Decidable (row.EachFits ms)
  | _, [] => isTrue trivial
  | row, next :: rest =>
      have := decidableEachFits (row.times next) rest
      inferInstanceAs (Decidable (row.Fits next ∧ (row.times next).EachFits rest))

theorem times_foldl_andThen (row : Row Int) (ms : List (Matrix Int)) (m : Matrix Int) :
    row.times (ms.foldl Matrix.andThen m) = ms.foldl times (row.times m) := by
  induction ms generalizing m with
  | nil => rfl
  | cons next ms ih => rw [List.foldl_cons, List.foldl_cons, ih, times_andThen]

theorem times_composed (row : Row Int) (ms : List (Matrix Int)) :
    row.times (Matrix.composed ms) = ms.foldl times row := by
  rw [Matrix.composed, times_foldl_andThen, times_identity]

variable {row : Row Single} {whole : Row Int} {ms : List (Matrix Single)}
  {wholes : List (Matrix Int)}

theorem IsInt.foldl_times (hms : List.Forall₂ Matrix.IsInt ms wholes)
    (hrow : row.IsInt whole) (h : whole.EachFits wholes) :
    (ms.foldl Row.times row).IsInt (wholes.foldl Row.times whole) := by
  induction hms generalizing row whole with
  | nil => exact hrow
  | cons hm _ ih => exact ih (hrow.times hm h.1) h.2

end Row

namespace Matrix

variable {m next : Matrix Single} {whole wholeNext : Matrix Int}
  {ms : List (Matrix Single)}
  {wholes : List (Matrix Int)}

theorem IsInt.andThen (hm : m.IsInt whole) (hnext : next.IsInt wholeNext)
    (h : ∀ i : Fin 4, Row.Fits (whole.get i) wholeNext) :
    (m.andThen next).IsInt (whole.andThen wholeNext) := by
  intro i
  rw [get_andThen, get_andThen]
  exact (hm i).times hnext (h i)

theorem isInt_identity : (identity : Matrix Single).IsInt identity := by
  intro i j
  rw [get_identity, get_identity]
  split
  · exact Binary.isInt_cast (by decide)
  · exact Binary.isInt_cast (by decide)

theorem IsInt.foldl_andThen (hms : List.Forall₂ Matrix.IsInt ms wholes)
    (hm : m.IsInt whole) (h : whole.ComposeFits wholes) :
    (ms.foldl Matrix.andThen m).IsInt (wholes.foldl Matrix.andThen whole) := by
  induction hms generalizing m whole with
  | nil => exact hm
  | cons hnext _ ih => exact ih (hm.andThen hnext h.1) h.2

theorem IsInt.identity_andThen (hm : m.IsInt whole) :
    (identity.andThen m).IsInt whole := by
  have hzero : Binary.Format.single.Number ((0 : Int) : ℚ) :=
    Binary.number_whole Binary.Format.single_room (by decide)
  intro i
  have hsteps := Row.steps_identity (P := fun n => Binary.Format.single.Number n) hzero
    fun k => (hm i k).number
  have hrow := (isInt_identity i).times_of_steps hm hsteps
  rwa [Row.identity_times, ← get_andThen] at hrow

theorem isInt_diagonal {entries : Row Single} {wholeEntries : Row Int}
    (h : entries.IsInt wholeEntries) :
    (diagonal entries).IsInt (diagonal wholeEntries) := by
  intro i j
  rw [diagonal, diagonal, get_ofEntries, get_ofEntries]
  split
  · exact h i
  · exact Binary.isInt_cast (by decide)

def displacing {α : Type} [OfNat α 0] [OfNat α 1] (entries : Row α) : Matrix α :=
  ofEntries fun i j => if i = Fin.last 3 then entries.get j else if i = j then 1 else 0

theorem isInt_displacing {offset : Triple} {wholeEntries : Row Int}
    (h : offset.row.IsInt wholeEntries) :
    (displacement offset).IsInt (displacing wholeEntries) := by
  intro i j
  rw [displacement, displacing, get_ofEntries, get_ofEntries]
  split
  · exact h j
  · split
    · exact Binary.isInt_cast (by decide)
    · exact Binary.isInt_cast (by decide)

end Matrix

theorem Triple.isInt_row {a b c : Int} (ha : a.natAbs ≤ 2 ^ 24) (hb : b.natAbs ≤ 2 ^ 24)
    (hc : c.natAbs ≤ 2 ^ 24) : (Triple.row ⟨a, b, c⟩).IsInt #v[a, b, c, 1] := by
  have hone : (1 : Single).IsInt 1 := Binary.isInt_cast (by decide)
  intro k
  fin_cases k
  · simpa [row, Vector.get] using Binary.isInt_cast ha
  · simpa [row, Vector.get] using Binary.isInt_cast hb
  · simpa [row, Vector.get] using Binary.isInt_cast hc
  · simpa [row, Vector.get] using hone

end Wireframe
