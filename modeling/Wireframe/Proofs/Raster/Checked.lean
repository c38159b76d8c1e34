import Wireframe.Proofs.Raster.Pass

/-!
Clipping in an arithmetic that takes note of divisions by zero. None occurs.
-/

namespace Wireframe

/-- Rational numbers in which a division by zero, and what is computed
from it, has no value. -/
inductive CheckedRat where
  | number (q : ℚ)
  | undefined

namespace CheckedRat

def lift (f : ℚ → ℚ → ℚ) : CheckedRat → CheckedRat → CheckedRat
  | number p, number q => number (f p q)
  | _, _ => undefined

def divide : CheckedRat → CheckedRat → CheckedRat
  | number p, number q => if q = 0 then undefined else number (p / q)
  | _, _ => undefined

def Below : CheckedRat → CheckedRat → Prop
  | number p, number q => p < q
  | _, _ => False

instance : Add CheckedRat := ⟨lift (· + ·)⟩

instance : Sub CheckedRat := ⟨lift (· - ·)⟩

instance : Mul CheckedRat := ⟨lift (· * ·)⟩

instance : Div CheckedRat := ⟨divide⟩

instance : LT CheckedRat := ⟨Below⟩

instance : DecidableLT CheckedRat
  | number p, number q => inferInstanceAs (Decidable (p < q))
  | number _, undefined => isFalse id
  | undefined, _ => isFalse id

instance : IntCast CheckedRat := ⟨fun n => number n⟩

theorem number_div (p : ℚ) {q : ℚ} (h : q ≠ 0) : number p / number q = number (p / q) :=
  if_neg h

end CheckedRat

open CheckedRat (number)

def Frame.checked (frame : Frame ℚ) : Frame CheckedRat :=
  ⟨number frame.right, number frame.top⟩

def Segment.checked (s : Segment ℚ) : Segment CheckedRat :=
  s.map (Point.map number)

namespace Segment

variable {frame : Frame ℚ} {border : Border}

theorem onto_checked (s : Segment ℚ) (h : s.divisor border ≠ 0) :
    s.checked.onto frame.checked border = (s.onto frame border).map number := by
  cases border with
  | left =>
      exact congrArg (Point.mk _)
        (congrArg (number s.start.y + ·) (CheckedRat.number_div _ h))
  | right =>
      exact congrArg (Point.mk _)
        (congrArg (number s.start.y + ·) (CheckedRat.number_div _ h))
  | bottom =>
      exact congrArg (Point.mk · _)
        (congrArg (number s.start.x + ·) (CheckedRat.number_div _ h))
  | top =>
      exact congrArg (Point.mk · _)
        (congrArg (number s.start.x + ·) (CheckedRat.number_div _ h))

theorem clipOnce_checked (hframe : frame.Proper) (s : Segment ℚ) :
    s.checked.clipOnce frame.checked = (s.clipOnce frame).map checked := by
  cases hpass : s.clipOnce frame with
  | none =>
      rw [clipOnce_eq_none_iff] at hpass
      exact clipOnce_eq_none_iff.mpr hpass
  | some moved =>
      rw [Option.map_some]
      rcases margins_of_clipOnce hframe hpass with ⟨border, rfl, hstart, hmargins, rfl⟩ |
        ⟨border, rfl, hstart, hfinish, hmargins, rfl⟩
      · have hne := Straddles.margin_ne (.inl hmargins)
        refine clipOnce_eq_some_iff.mpr (.inl ⟨hstart, fun hshare => ?_, ?_⟩)
        · have hnone : s.clipOnce frame = none := clipOnce_eq_none_iff.mpr (.inr hshare)
          simp [hnone] at hpass
        · exact congrArg (Segment.mk · _) (onto_checked s (divisor_ne_zero hne)).symm
      · have hne := Straddles.margin_ne (.inr hmargins)
        refine clipOnce_eq_some_iff.mpr (.inr ⟨hstart, hfinish, ?_⟩)
        exact congrArg (Segment.mk _) (onto_checked s (divisor_ne_zero hne)).symm

theorem clipTrail_checked (hframe : frame.Proper) (passes : Nat) (s : Segment ℚ) :
    s.checked.clipTrail frame.checked passes =
      (s.clipTrail frame passes).map checked := by
  induction passes generalizing s with
  | zero => rfl
  | succ passes ih =>
      rw [clipTrail, clipTrail, List.map_cons, clipOnce_checked hframe]
      cases s.clipOnce frame with
      | none => rfl
      | some moved => exact congrArg (List.cons _) (ih moved)

end Segment

end Wireframe
