import Wireframe.Geometry.EdgeList
import Wireframe.Proofs.Binary.Zero
import Wireframe.Proofs.Geometry.Exact

/-!
Coordinates that a transformation leaves alone. Where a column is that of the identity,
the products with its zeros vanish and the coordinate stays, unless another coordinate of
the row is too large to be finite.
-/

namespace Wireframe

open Binary (SameNumber)

namespace Binary

variable {f : Format} {x y : Binary f}

theorem SameNumber.eq_nan_iff (h : SameNumber x y) : x = nan ↔ y = nan := by
  cases h with
  | refl => rfl
  | zeros negative other => exact iff_of_false nofun nofun

theorem sameNumber_sum {terms : Fin 4 → Binary f} {k : Fin 4}
    (h : ∀ i, i ≠ k → ∃ negative, terms i = zero negative) :
    SameNumber (terms 0 + terms 1 + terms 2 + terms 3) (terms k) := by
  match k with
  | 0 =>
      obtain ⟨b, hb⟩ := h 1 (by decide)
      obtain ⟨c, hc⟩ := h 2 (by decide)
      obtain ⟨d, hd⟩ := h 3 (by decide)
      rw [hb, hc, hd]
      exact ((sameNumber_add_zero _ b).add_zero c).add_zero d
  | 1 =>
      obtain ⟨a, ha⟩ := h 0 (by decide)
      obtain ⟨c, hc⟩ := h 2 (by decide)
      obtain ⟨d, hd⟩ := h 3 (by decide)
      rw [ha, hc, hd]
      exact ((sameNumber_zero_add _ a).add_zero c).add_zero d
  | 2 =>
      obtain ⟨a, ha⟩ := h 0 (by decide)
      obtain ⟨b, hb⟩ := h 1 (by decide)
      obtain ⟨d, hd⟩ := h 3 (by decide)
      rw [ha, hb, hd, zero_add_zero]
      exact (sameNumber_zero_add _ _).add_zero d
  | 3 =>
      obtain ⟨a, ha⟩ := h 0 (by decide)
      obtain ⟨b, hb⟩ := h 1 (by decide)
      obtain ⟨c, hc⟩ := h 2 (by decide)
      rw [ha, hb, hc, zero_add_zero, zero_add_zero]
      exact sameNumber_zero_add _ _

theorem sum_eq_nan (terms : Fin 4 → Binary f) (i : Fin 4) (h : terms i = nan) :
    terms 0 + terms 1 + terms 2 + terms 3 = nan := by
  match i with
  | 0 => rw [h, nan_add, nan_add, nan_add]
  | 1 => rw [h, add_nan, nan_add, nan_add]
  | 2 => rw [h, add_nan, nan_add]
  | 3 => rw [h, add_nan]

end Binary

namespace Row

def IsFinite (row : Row Single) : Prop :=
  ∀ k : Fin 4, (row.get k).IsFinite

def SameNumbers (row other : Row Single) : Prop :=
  ∀ k : Fin 4, SameNumber (row.get k) (other.get k)

/-- What becomes of a coordinate that the others cannot change: it stays if they are
finite, and is lost otherwise. -/
structure Spares (row : Row Single) (k : Fin 4) (moved : Row Single) : Prop where
  stays : (∀ i, i ≠ k → (row.get i).IsFinite) → SameNumber (moved.get k) (row.get k)
  lost : (∃ i, i ≠ k ∧ ¬ (row.get i).IsFinite) → moved.get k = .nan

end Row

/-- The column is that of the identity, but its zeros may have either sign. -/
structure Matrix.Fixes (m : Matrix Single) (k : Fin 4) : Prop where
  one : (m.get k).get k = 1
  zeros : ∀ i, i ≠ k → ∃ negative, (m.get i).get k = .zero negative

section

variable {m : Matrix Single} {k : Fin 4}

theorem Matrix.Fixes.spares (h : m.Fixes k) (row : Row Single) :
    row.Spares k (row.times m) where
  stays := by
    intro hfinite
    have hone : row.get k * (m.get k).get k = row.get k := by
      rw [h.one, Binary.mul_one_eq Binary.Format.single_room]
    have hzeros : ∀ i, i ≠ k → ∃ negative, row.get i * (m.get i).get k =
        .zero negative := by
      intro i hi
      obtain ⟨negative, hzero⟩ := h.zeros i hi
      rw [hzero]
      exact Binary.mul_zero_of_isFinite (hfinite i hi) negative
    have hsum := Binary.sameNumber_sum hzeros
    rw [hone] at hsum
    rw [Row.get_times]
    exact hsum
  lost := by
    rintro ⟨i, hi, hfinite⟩
    obtain ⟨negative, hzero⟩ := h.zeros i hi
    rw [Row.get_times]
    refine Binary.sum_eq_nan (fun i => row.get i * (m.get i).get k) i ?_
    simp only [hzero, Binary.mul_zero_of_not_isFinite hfinite]

end

/-! The transformations of commands. -/

def Axis.place : Axis → Fin 4
  | x => y.others.1
  | y => x.others.1
  | z => x.others.2

namespace Matrix

variable {k : Fin 4}

theorem fixes_ofEntries {entry : Fin 4 → Fin 4 → Single} (hone : entry k k = 1)
    (hzeros : ∀ i, i ≠ k → ∃ negative, entry i k = .zero negative) :
    (ofEntries entry).Fixes k where
  one := by rw [get_ofEntries, hone]
  zeros := by
    intro i hi
    rw [get_ofEntries]
    exact hzeros i hi

theorem fixes_identity (k : Fin 4) : (identity : Matrix Single).Fixes k := by
  refine fixes_ofEntries (if_pos rfl) fun i hi => ⟨false, ?_⟩
  rw [if_neg hi, Binary.ofNat_zero]

theorem fixes_dilation {factors : Triple} (h : factors.row.get k = 1) :
    (dilation factors).Fixes k := by
  refine fixes_ofEntries ((if_pos rfl).trans h) fun i hi => ⟨false, ?_⟩
  rw [if_neg hi, Binary.ofNat_zero]

theorem fixes_displacement {offset : Triple} {k : Fin 3} {negative : Bool}
    (h : offset.row.get k.castSucc = .zero negative) :
    (displacement offset).Fixes k.castSucc := by
  refine fixes_ofEntries ?_ fun i hi => ?_
  · rw [if_neg k.castSucc_lt_last.ne, if_pos rfl]
  · by_cases hlast : i = Fin.last 3
    · rw [if_pos hlast]
      exact ⟨negative, h⟩
    · rw [if_neg hlast, if_neg hi, Binary.ofNat_zero]
      exact ⟨false, rfl⟩

theorem fixes_rotation (axis : Axis) (degrees : Single) :
    (rotation axis degrees).Fixes axis.place := by
  -- The axis is neither of the two that turn.
  have hfirst : axis.place ≠ axis.others.1 := by
    cases axis <;> decide
  have hsecond : axis.place ≠ axis.others.2 := by
    cases axis <;> decide
  constructor
  · simp only [get_rotation, hfirst, hsecond, and_self, or_self, if_false, if_true]
  · intro i hi
    refine ⟨false, ?_⟩
    simp only [get_rotation, hfirst, hsecond, hi, and_false, or_self, if_false,
      Binary.ofNat_zero]

end Matrix

namespace Row

theorem sameNumbers_times_identity {row : Row Single} :
    (row.times .identity).SameNumbers row ↔ row.IsFinite ∨ ∀ k :
    Fin 4, row.get k = .nan := by
  have hspares : ∀ k, row.Spares k (row.times .identity) :=
    fun k => (Matrix.fixes_identity k).spares row
  constructor
  · intro hsame
    by_contra hnot
    obtain ⟨hfinite, hnan⟩ := not_or.mp hnot
    obtain ⟨i, hi⟩ := not_forall.mp hfinite
    -- An entry that is not finite turns the others into NaN, and these turn it into NaN.
    have hturns : ∀ {i}, ¬ (row.get i).IsFinite → ∀ k, k ≠ i → row.get k = .nan :=
      fun {i} hi k hk =>
        (hsame k).eq_nan_iff.mp ((hspares k).lost ⟨i, hk.symm, hi⟩)
    obtain ⟨other, hother⟩ := exists_ne i
    have hback : ¬ (row.get other).IsFinite := by
      rw [hturns hi other hother]
      exact nofun
    refine hnan fun k => ?_
    by_cases hk : k = i
    · rw [hk]
      exact hturns hback i hother.symm
    · exact hturns hi k hk
  · rintro (hfinite | hnan) k
    · exact (hspares k).stays fun i _ => hfinite i
    · obtain ⟨other, hother⟩ := exists_ne k
      have hlost := (hspares k).lost ⟨other, hother, by rw [hnan other]; exact nofun⟩
      rw [hlost, hnan k]
      exact .refl _

end Row

/-- A matrix with a column of the identity leaves that coordinate of every row, up to the
sign of a zero, if the other three are finite, and makes it NaN otherwise; the rows stay
in their order. Rotations have this column at their axis for every angle, scalings where
the factor is one, and displacements where the offset is a zero. The identity leaves alone
just the rows that are finite throughout or NaN throughout. -/
theorem fixed_columns_spare_coordinates :
    (∀ (m : Matrix Single) (k : Fin 4), m.Fixes k →
      (∀ edges : EdgeList, (edges.transform m).size = edges.size ∧
        ∀ (i : Nat) (row : Row Single), edges[i]? = some row →
          ∃ moved, (edges.transform m)[i]? = some moved ∧ row.Spares k moved) ∧
      ∀ (first : Matrix Single) (i : Fin 4),
        (first.get i).Spares k ((first.andThen m).get i)) ∧
    (∀ (axis : Axis) (degrees : Single), (Matrix.rotation axis degrees).Fixes axis.place ∧
      ∀ row : Row Single, row.IsFinite →
        SameNumber ((row.times (.rotation axis degrees)).get axis.place)
          (row.get axis.place)) ∧
    (∀ (factors : Triple) (k : Fin 4), factors.row.get k = 1 →
      (Matrix.dilation factors).Fixes k ∧
      ∀ row : Row Single, row.IsFinite →
        SameNumber ((row.times (.dilation factors)).get k) (row.get k)) ∧
    (∀ (offset : Triple) (k : Fin 3) (negative : Bool),
      offset.row.get k.castSucc = .zero negative →
      (Matrix.displacement offset).Fixes k.castSucc ∧
        ∀ row : Row Single, row.IsFinite →
          SameNumber ((row.times (.displacement offset)).get k.castSucc)
            (row.get k.castSucc)) ∧
    ∀ row : Row Single,
      (row.times .identity).SameNumbers row ↔
        row.IsFinite ∨ ∀ k : Fin 4, row.get k = .nan := by
  have hfinite : ∀ {m : Matrix Single} {k : Fin 4}, m.Fixes k → ∀ row :
    Row Single, row.IsFinite →
      SameNumber ((row.times m).get k) (row.get k) := fun h row hrow =>
    (h.spares row).stays fun i _ => hrow i
  refine ⟨fun m k h => ⟨fun edges => ⟨Array.size_map, fun i row hrow => ?_⟩,
    fun first i => ?_⟩, ?_, ?_, ?_, fun row => Row.sameNumbers_times_identity⟩
  · refine ⟨row.times m, ?_, h.spares row⟩
    rw [EdgeList.transform, Array.getElem?_map, hrow, Option.map_some]
  · rw [Matrix.get_andThen]
    exact h.spares (first.get i)
  · exact fun axis degrees =>
      ⟨Matrix.fixes_rotation axis degrees, hfinite (Matrix.fixes_rotation axis degrees)⟩
  · exact fun factors k h => ⟨Matrix.fixes_dilation h, hfinite (Matrix.fixes_dilation h)⟩
  · exact fun offset k negative h =>
      ⟨Matrix.fixes_displacement h, hfinite (Matrix.fixes_displacement h)⟩

/-- A rotation about the second axis leaves a negative zero a zero, but not a five next to
infinity, which the identity turns into NaN, too. -/
theorem fixed_columns_spare_coordinates_turned :
    let turned := Matrix.rotation .y 30
    let near : Row Single := #v[3, .zero true, 2, 1]
    let far : Row Single := #v[.infinity true, 5, 2, 1]
    (near.IsFinite ∧ SameNumber ((near.times turned).get 1) (.zero true)) ∧
      (turned.Fixes 1 ∧ ∃ moved,
        (EdgeList.transform #[near, far] turned)[1]? = some moved ∧
          moved.get 1 = .nan) ∧
      ¬ (far.times .identity).SameNumbers far := by
  intro turned near far
  obtain ⟨hfixed, hrotations, -, -, hidentity⟩ := fixed_columns_spare_coordinates
  obtain ⟨hturned, hspares⟩ := hrotations .y 30
  have hnear : near.IsFinite := by
    change ∀ k : Fin 4, (near.get k).IsFinite
    decide +kernel
  have hfar : ¬ (far.get 0).IsFinite := by decide +kernel
  obtain ⟨-, hrows⟩ := (hfixed turned 1 hturned).1 #[near, far]
  obtain ⟨moved, hmoved, hlost⟩ := hrows 1 far rfl
  refine ⟨⟨hnear, hspares near hnear⟩, ⟨hturned, moved, hmoved, ?_⟩, fun hsame => ?_⟩
  · exact hlost.lost ⟨0, by decide, hfar⟩
  · rcases (hidentity far).mp hsame with hfinite | hnan
    · exact hfar (hfinite 0)
    · exact absurd (hnan 1) (by decide +kernel)

end Wireframe
