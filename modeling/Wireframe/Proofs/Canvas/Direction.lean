import Wireframe.Proofs.Canvas.Paint
import Wireframe.Proofs.Canvas.Straight
import Wireframe.Proofs.Raster.Direction

/-!
Lines drawn from either end. The pixels of a line tell its ends, so that a line and its
reverse paint the same just if clipping leaves them the same ends.
-/

namespace Wireframe

namespace Segment

variable {s other : Segment Int} {p : Point Int}

theorem pixels_eq_nearestPixels (s : Segment Int) :
    s.pixels = s.rightward.nearestPixels :=
  rightwardPixels_eq _ s.run_rightward_nonneg

theorem spans_reverse_iff : s.reverse.Spans p ↔ s.Spans p := by
  have hswap : ∀ {t : Segment Int}, t.Spans p → t.reverse.Spans p := by
    rintro t ⟨hx, hx_le, hy, hy_le⟩
    exact ⟨min_comm t.start.x _ ▸ hx, max_comm t.start.x _ ▸ hx_le,
      min_comm t.start.y _ ▸ hy, max_comm t.start.y _ ▸ hy_le⟩
  exact ⟨hswap, hswap⟩

theorem mem_pixels_reverse_iff : p ∈ s.reverse.pixels ↔ p ∈ s.pixels := by
  rw [pixels_eq_nearestPixels, pixels_eq_nearestPixels]
  rcases lt_trichotomy s.start.x s.finish.x with hright | hupright | hleft
  · have hforward : s.rightward = s := if_neg hright.not_gt
    have hbackward : s.reverse.rightward = s := if_pos hright
    rw [hforward, hbackward]
  · have hs : s.Straight := .inr hupright
    have hreverse : s.reverse.Straight := .inr hupright.symm
    rw [mem_nearestPixels_of_straight hs.rightward s.run_rightward_nonneg,
      mem_nearestPixels_of_straight hreverse.rightward s.reverse.run_rightward_nonneg,
      spans_rightward_iff, spans_rightward_iff, spans_reverse_iff]
  · have hforward : s.rightward = s.reverse := if_pos hleft
    have hbackward : s.reverse.rightward = s.reverse := if_neg hleft.not_gt
    rw [hforward, hbackward]

/-- The pixel across from the start belongs to a line that runs to the right and rises
only if the line has but one row. -/
theorem eq_of_mem_nearestPixels (hrun : 0 < s.run)
    (h : (Point.mk s.start.x s.finish.y) ∈ s.nearestPixels) : s.start.y = s.finish.y := by
  obtain ⟨i, hi, hle, heq⟩ := s.mem_nearestPixels_iff.mp h
  by_cases hshallow : s.rise ≤ s.run
  · have hx := congrArg Point.x heq
    rw [pixelAt, if_pos hshallow] at hx
    have hzero : i = 0 := by
      dsimp only at hx
      omega
    rw [hzero, pixelAt_zero hrun.le] at heq
    exact (congrArg Point.y heq).symm
  · have hlast := (s.y_pixelAt_eq_iff (not_le.mp hshallow)).mp (congrArg Point.y heq).symm
    rw [hlast, pixelAt_steps hrun.le] at heq
    have hx := congrArg Point.x heq
    have hrun_eq : s.run = s.finish.x - s.start.x := rfl
    dsimp only at hx
    omega

theorem start_mem_nearestPixels (hrun : 0 ≤ s.run) : s.start ∈ s.nearestPixels :=
  List.mem_of_mem_head? (head?_nearestPixels hrun)

theorem finish_mem_nearestPixels (hrun : 0 ≤ s.run) : s.finish ∈ s.nearestPixels :=
  List.mem_of_getLast? (getLast?_nearestPixels hrun)

theorem eq_or_eq_reverse_of_nearestPixels (hrun : 0 ≤ s.run) (hother : 0 ≤ other.run)
    (h : ∀ p, p ∈ other.nearestPixels ↔ p ∈ s.nearestPixels) :
    other = s ∨ other = s.reverse := by
  have hrun_eq : s.run = s.finish.x - s.start.x := rfl
  have hother_eq : other.run = other.finish.x - other.start.x := rfl
  have hother_start := (h _).mp (start_mem_nearestPixels hother)
  obtain ⟨hx, -, hy, hy_le⟩ := spans_of_mem_nearestPixels hrun hother_start
  obtain ⟨-, hx_le, hy', hy_le'⟩ :=
    spans_of_mem_nearestPixels hrun ((h _).mp (finish_mem_nearestPixels hother))
  obtain ⟨hu, -, hv, hv_le⟩ :=
    spans_of_mem_nearestPixels hother ((h _).mpr (start_mem_nearestPixels hrun))
  obtain ⟨-, hu_le, hv', hv_le'⟩ :=
    spans_of_mem_nearestPixels hother ((h _).mpr (finish_mem_nearestPixels hrun))
  have hstart_x : other.start.x = s.start.x := by omega
  have hfinish_x : other.finish.x = s.finish.x := by omega
  have hrows : (other.start.y = s.start.y ∧ other.finish.y = s.finish.y) ∨
      (other.start.y = s.finish.y ∧ other.finish.y = s.start.y) := by
    clear hx hx_le hu hu_le
    omega
  obtain ⟨⟨x, y⟩, ⟨u, v⟩⟩ := other
  obtain rfl : x = s.start.x := hstart_x
  obtain rfl : u = s.finish.x := hfinish_x
  rcases hrows with ⟨hsame, hsame'⟩ | ⟨hacross, hacross'⟩
  · obtain rfl : y = s.start.y := hsame
    obtain rfl : v = s.finish.y := hsame'
    exact .inl rfl
  · obtain rfl : y = s.finish.y := hacross
    obtain rfl : v = s.start.y := hacross'
    rcases hrun.eq_or_lt with hupright | hslanted
    · right
      obtain ⟨⟨x, y⟩, ⟨u, v⟩⟩ := s
      obtain rfl : x = u := by
        dsimp only at hrun_eq
        omega
      rfl
    · left
      have hflat := eq_of_mem_nearestPixels hslanted hother_start
      obtain ⟨⟨x, y⟩, ⟨u, v⟩⟩ := s
      obtain rfl : y = v := hflat
      rfl

theorem rightward_eq_or (s : Segment Int) :
    s.rightward = s ∨ s.rightward = s.reverse := by
  unfold rightward
  split
  · exact .inr rfl
  · exact .inl rfl

theorem eq_or_eq_reverse_of_pixels (h : ∀ p, p ∈ other.pixels ↔ p ∈ s.pixels) :
    other = s ∨ other = s.reverse := by
  rw [pixels_eq_nearestPixels, pixels_eq_nearestPixels] at h
  have hends :=
    eq_or_eq_reverse_of_nearestPixels s.run_rightward_nonneg other.run_rightward_nonneg h
  rcases s.rightward_eq_or with hs | hs
  · rw [hs] at hends
    rcases other.rightward_eq_or with hother | hother
    · rwa [hother] at hends
    · rw [hother] at hends
      exact hends.symm.imp (congrArg reverse) (congrArg reverse)
  · rw [hs] at hends
    rcases other.rightward_eq_or with hother | hother
    · rw [hother] at hends
      exact hends.symm
    · rw [hother] at hends
      exact hends.imp (congrArg reverse) (congrArg reverse)

variable {width height : Nat}

theorem covered_eq_elim (s : Segment Int) :
    s.covered width height = (s.clip Double width height).elim [] pixels := by
  unfold covered
  split
  · rename_i hclip
    rw [hclip]
    rfl
  · rename_i clipped hclip
    rw [hclip]
    rfl

theorem start_mem_pixels (s : Segment Int) : s.rightward.start ∈ s.pixels := by
  rw [pixels_eq_nearestPixels]
  exact start_mem_nearestPixels s.run_rightward_nonneg

theorem eitherWay_iff_covered :
    s.EitherWay Double width height ↔
      ∀ p, p ∈ s.reverse.covered width height ↔ p ∈ s.covered width height := by
  rw [covered_eq_elim, covered_eq_elim, EitherWay]
  generalize s.clip Double width height = forward,
    s.reverse.clip Double width height = backward
  cases forward with
  | none =>
      cases backward with
      | none => exact iff_of_true (.inl rfl) fun p => Iff.rfl
      | some clipped =>
          refine iff_of_false (by rintro (h | h) <;> cases h) fun h => ?_
          exact List.not_mem_nil ((h _).mp clipped.start_mem_pixels)
  | some clipped =>
      cases backward with
      | none =>
          refine iff_of_false (by rintro (h | h) <;> cases h) fun h => ?_
          exact List.not_mem_nil ((h _).mpr clipped.start_mem_pixels)
      | some other =>
          constructor
          · rintro (h | h) p
            · cases h
              exact Iff.rfl
            · cases h
              exact mem_pixels_reverse_iff
          · intro h
            exact (eq_or_eq_reverse_of_pixels h).imp (congrArg some) (congrArg some)

end Segment

namespace Canvas

variable {width height : Nat} {s : Segment Int} {p : Point Int}

theorem contains_of_mem_covered {canvas : Canvas}
    (hp : p ∈ s.covered canvas.image.width canvas.image.height) :
    canvas.image.Contains p := by
  cases hclip : canvas.clip s with
  | none =>
      rw [Segment.covered_eq_elim] at hp
      change p ∈ (canvas.clip s).elim [] Segment.pixels at hp
      rw [hclip] at hp
      exact absurd hp List.not_mem_nil
  | some clipped => exact contains_of_mem_linePixels hclip hp

theorem mem_covered_iff_white :
    p ∈ s.covered width height ↔
      ((Canvas.new width height 255 ⟨0, 0, 0⟩).drawLine s
        ⟨255, 255, 255⟩).image.pixel? p = some ⟨255, 255, 255⟩ := by
  have hwhite : (Canvas.new width height 255 ⟨0, 0, 0⟩).rgb ⟨255, 255, 255⟩ =
      ⟨255, 255, 255⟩ := by
    change Color.toRgb 255 ⟨255, 255, 255⟩ = _
    decide
  have hblack : Color.toRgb 255 ⟨0, 0, 0⟩ ≠ ⟨255, 255, 255⟩ := by decide
  have hpaints :=
    (Canvas.new width height 255 ⟨0, 0, 0⟩).paints_drawLine s ⟨255, 255, 255⟩
  rw [hwhite] at hpaints
  constructor
  · intro hp
    exact hpaints.pixel?_of_mem p hp (contains_of_mem_covered hp)
  · intro hpixel
    by_contra hp
    rw [hpaints.pixel?_of_notMem p hp] at hpixel
    by_cases hcontains : (Canvas.new width height 255 ⟨0, 0, 0⟩).image.Contains p
    · have hfilled : (Canvas.new width height 255 ⟨0, 0, 0⟩).image.pixel? p = some _ :=
        Image.pixel?_filled hcontains
      exact hblack (Option.some.inj (hfilled.symm.trans hpixel))
    · rw [Image.pixel?_eq_none hcontains] at hpixel
      cases hpixel

theorem drawLine_reverse_of_eitherWay {canvas : Canvas}
    (h : s.EitherWay Double canvas.image.width canvas.image.height) (color : Color) :
    canvas.drawLine s.reverse color = canvas.drawLine s color := by
  have hcovered : {p | p ∈ s.reverse.covered canvas.image.width canvas.image.height} =
      {p | p ∈ s.covered canvas.image.width canvas.image.height} :=
    Set.ext (Segment.eitherWay_iff_covered.mp h)
  have hpaints := canvas.paints_drawLine s.reverse color
  rw [hcovered] at hpaints
  exact hpaints.unique (canvas.paints_drawLine s color)

theorem eitherWay_iff_drawLine_reverse :
    s.EitherWay Double width height ↔
      ∀ (canvas : Canvas) (color : Color), canvas.image.width = width →
        canvas.image.height = height →
        canvas.drawLine s.reverse color = canvas.drawLine s color := by
  constructor
  · rintro h canvas color rfl rfl
    exact drawLine_reverse_of_eitherWay h color
  · intro h
    rw [Segment.eitherWay_iff_covered]
    intro p
    rw [mem_covered_iff_white, mem_covered_iff_white, h _ _ rfl rfl]

end Canvas

end Wireframe
