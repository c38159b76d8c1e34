import Wireframe.Proofs.Raster.Visible

/-!
The codes of points, over the rational numbers. Codes and margins
say the same about a point.
-/

namespace Wireframe

def Outcode.border (code : Outcode) : Border :=
  match code.y with
  | .above => .top
  | .below => .bottom
  | .inside =>
      match code.x with
      | .above => .right
      | _ => .left

namespace Outcode

theorem shareBorder_iff {a b : Outcode} :
    a.shareBorder b ↔ (a.x = b.x ∧ a.x ≠ .inside) ∨ (a.y = b.y ∧ a.y ≠ .inside) := by
  simp [shareBorder]

theorem not_shareBorder_inside (code : Outcode) : ¬ code.shareBorder .inside := by
  rw [shareBorder_iff]
  rintro (⟨hsame, hbeyond⟩ | ⟨hsame, hbeyond⟩)
  · exact hbeyond hsame
  · exact hbeyond hsame

theorem not_inside_shareBorder (code : Outcode) : ¬ Outcode.inside.shareBorder code := by
  rw [shareBorder_iff]
  rintro (⟨-, hbeyond⟩ | ⟨-, hbeyond⟩)
  · exact hbeyond rfl
  · exact hbeyond rfl

end Outcode

namespace Side

section

variable {α : Type} [AddGroupWithOne α] [LinearOrder α] {high v : α}

theorem of_eq_below_iff : Side.of high v = .below ↔ v < 0 := by
  unfold Side.of
  rw [Int.cast_zero]
  split
  · simpa
  · split <;> simpa using not_lt.mp ‹¬ v < 0›

theorem of_eq_inside_iff : Side.of high v = .inside ↔ 0 ≤ v ∧ v ≤ high := by
  unfold Side.of
  rw [Int.cast_zero]
  split
  · simp [not_le.mpr ‹v < 0›]
  · split
    · simp [not_le.mpr ‹high < v›]
    · simp [not_lt.mp ‹¬ v < 0›, not_lt.mp ‹¬ high < v›]

theorem of_eq_above_iff (hhigh : 0 ≤ high) : Side.of high v = .above ↔ high < v := by
  unfold Side.of
  rw [Int.cast_zero]
  split
  · have hlt : v < 0 := ‹v < 0›
    simp [not_lt.mpr (hlt.le.trans hhigh)]
  · split
    · simpa
    · simpa using ‹¬ high < v›

end

variable {high v : ℚ}

theorem of_between (hhigh : 0 ≤ high) (hinside : Side.of high v = .inside) {t : ℚ}
    (ht : 0 ≤ t) (ht_le : t ≤ 1) (w : ℚ) :
    Side.of high (v + t * (w - v)) = .inside ∨
    Side.of high (v + t * (w - v)) = Side.of high w := by
  obtain ⟨hv, hv_le⟩ := of_eq_inside_iff.mp hinside
  cases hside : Side.of high (v + t * (w - v)) with
  | inside => exact .inl rfl
  | below =>
      have hneg := of_eq_below_iff.mp hside
      refine .inr (of_eq_below_iff.mpr ?_).symm
      nlinarith
  | above =>
      have hbeyond := (of_eq_above_iff hhigh).mp hside
      refine .inr ((of_eq_above_iff hhigh).mpr ?_).symm
      nlinarith

end Side

namespace Frame

variable {frame : Frame ℚ} {p q : Point ℚ}

theorem outcode_eq_inside_iff : frame.outcode p = .inside ↔ frame.Contains p := by
  simp only [outcode, Outcode.inside, Outcode.mk.injEq, Side.of_eq_inside_iff]
  constructor
  · rintro ⟨⟨hx, hx_le⟩, hy, hy_le⟩
    exact ⟨hx, hx_le, hy, hy_le⟩
  · rintro ⟨hx, hx_le, hy, hy_le⟩
    exact ⟨⟨hx, hx_le⟩, hy, hy_le⟩

variable (hframe : frame.Proper)
include hframe

theorem margin_border_neg (h : frame.outcode p ≠ .inside) :
    frame.margin (frame.outcode p).border p < 0 := by
  cases hy : Side.of frame.top p.y with
  | above =>
      simpa [outcode, Outcode.border, hy, margin]
        using (Side.of_eq_above_iff hframe.top_nonneg).mp hy
  | below => simpa [outcode, Outcode.border, hy, margin] using Side.of_eq_below_iff.mp hy
  | inside =>
      cases hx : Side.of frame.right p.x with
      | above =>
          simpa [outcode, Outcode.border, hy, hx, margin]
            using (Side.of_eq_above_iff hframe.right_nonneg).mp hx
      | below =>
          simpa [outcode, Outcode.border, hy, hx, margin] using Side.of_eq_below_iff.mp hx
      | inside => simp [outcode, Outcode.inside, hy, hx] at h

theorem margin_border_nonneg (h : frame.outcode p ≠ .inside)
    (hshare : ¬ (frame.outcode p).shareBorder (frame.outcode q)) :
    0 ≤ frame.margin (frame.outcode p).border q := by
  by_contra hneg
  apply hshare
  rw [not_le] at hneg
  cases hy : Side.of frame.top p.y with
  | above =>
      have hq : Side.of frame.top q.y = .above :=
        (Side.of_eq_above_iff hframe.top_nonneg).mpr (by
          simpa [outcode, Outcode.border, hy, margin] using hneg)
      simp [outcode, Outcode.shareBorder, hy, hq]
  | below =>
      have hq : Side.of frame.top q.y = .below :=
        Side.of_eq_below_iff.mpr (by
          simpa [outcode, Outcode.border, hy, margin] using hneg)
      simp [outcode, Outcode.shareBorder, hy, hq]
  | inside =>
      cases hx : Side.of frame.right p.x with
      | above =>
          have hq : Side.of frame.right q.x = .above :=
            (Side.of_eq_above_iff hframe.right_nonneg).mpr
              (by simpa [outcode, Outcode.border, hy, hx, margin] using hneg)
          simp [outcode, Outcode.shareBorder, hx, hq]
      | below =>
          have hq : Side.of frame.right q.x = .below :=
            Side.of_eq_below_iff.mpr (by
              simpa [outcode, Outcode.border, hy, hx, margin] using hneg)
          simp [outcode, Outcode.shareBorder, hx, hq]
      | inside => simp [outcode, Outcode.inside, hy, hx] at h

theorem exists_border_of_shareBorder
    (h : (frame.outcode p).shareBorder (frame.outcode q)) :
    ∃ border, frame.margin border p < 0 ∧ frame.margin border q < 0 := by
  rcases Outcode.shareBorder_iff.mp h with ⟨hsame, hbeyond⟩ | ⟨hsame, hbeyond⟩
  · change Side.of frame.right p.x = Side.of frame.right q.x at hsame
    cases hx : Side.of frame.right p.x with
    | inside => exact absurd hx hbeyond
    | below =>
        exact ⟨.left, Side.of_eq_below_iff.mp hx, Side.of_eq_below_iff.mp (hsame ▸ hx)⟩
    | above =>
        exact ⟨.right, sub_neg.mpr ((Side.of_eq_above_iff hframe.right_nonneg).mp hx),
          sub_neg.mpr ((Side.of_eq_above_iff hframe.right_nonneg).mp (hsame ▸ hx))⟩
  · change Side.of frame.top p.y = Side.of frame.top q.y at hsame
    cases hy : Side.of frame.top p.y with
    | inside => exact absurd hy hbeyond
    | below =>
        exact ⟨.bottom, Side.of_eq_below_iff.mp hy, Side.of_eq_below_iff.mp (hsame ▸ hy)⟩
    | above =>
        exact ⟨.top, sub_neg.mpr ((Side.of_eq_above_iff hframe.top_nonneg).mp hy),
          sub_neg.mpr ((Side.of_eq_above_iff hframe.top_nonneg).mp (hsame ▸ hy))⟩

end Frame

end Wireframe
