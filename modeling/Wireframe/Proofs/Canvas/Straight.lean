import Wireframe.Proofs.Canvas.Paint
import Wireframe.Proofs.Raster.Straight

/-!
Rows and columns on a canvas: of the pixels between two ends, those that
the canvas has are painted.
-/

namespace Wireframe

theorem Segment.Straight.rightward {s : Segment Int} (h : s.Straight) :
    s.rightward.Straight := by
  unfold Segment.rightward
  split
  · exact h.imp Eq.symm Eq.symm
  · exact h

theorem Segment.spans_rightward_iff {s : Segment Int} {p : Point Int} :
    s.rightward.Spans p ↔ s.Spans p := by
  unfold Segment.rightward
  split
  · constructor
    · rintro ⟨hx, hx_le, hy, hy_le⟩
      exact ⟨min_comm s.start.x _ ▸ hx, max_comm s.start.x _ ▸ hx_le,
        min_comm s.start.y _ ▸ hy, max_comm s.start.y _ ▸ hy_le⟩
    · rintro ⟨hx, hx_le, hy, hy_le⟩
      exact ⟨min_comm s.start.x _ ▸ hx, max_comm s.start.x _ ▸ hx_le,
        min_comm s.start.y _ ▸ hy, max_comm s.start.y _ ▸ hy_le⟩
  · exact Iff.rfl

private theorem between_held_iff {size u v w : Int} (hsize : 0 < size)
    (hbelow : ¬ (u < 0 ∧ v < 0)) (habove : ¬ (size ≤ u ∧ size ≤ v)) :
    min (max 0 (min (size - 1) u)) (max 0 (min (size - 1) v)) ≤ w ∧
        w ≤ max (max 0 (min (size - 1) u)) (max 0 (min (size - 1) v)) ↔
      (0 ≤ w ∧ w < size) ∧ min u v ≤ w ∧ w ≤ max u v := by
  simp only [min_le_iff, le_max_iff, max_le_iff, le_min_iff]
  omega

theorem Segment.spans_map_intoGrid_iff {s : Segment Int} {width height : Nat}
    {p : Point Int} (hsize : ¬ (width = 0 ∨ height = 0)) (h : ¬ s.Beyond width height) :
    (s.map (Point.intoGrid width height)).Spans p ↔
    p.InGrid width height ∧ s.Spans p := by
  simp only [Beyond, not_or] at h hsize
  obtain ⟨hleft, hright, hbottom, htop⟩ := h
  have hwidth : (0 : Int) < width := Int.natCast_pos.mpr (Nat.pos_of_ne_zero hsize.1)
  have hheight : (0 : Int) < height := Int.natCast_pos.mpr (Nat.pos_of_ne_zero hsize.2)
  have hx := between_held_iff (w := p.x) hwidth hleft hright
  have hy := between_held_iff (w := p.y) hheight hbottom htop
  constructor
  · rintro ⟨hmin_x, hmax_x, hmin_y, hmax_y⟩
    obtain ⟨⟨hpx, hpx_lt⟩, hx, hx_le⟩ := hx.mp ⟨hmin_x, hmax_x⟩
    obtain ⟨⟨hpy, hpy_lt⟩, hy, hy_le⟩ := hy.mp ⟨hmin_y, hmax_y⟩
    exact ⟨⟨hpx, hpx_lt, hpy, hpy_lt⟩, hx, hx_le, hy, hy_le⟩
  · rintro ⟨⟨hpx, hpx_lt, hpy, hpy_lt⟩, hmin_x, hmax_x, hmin_y, hmax_y⟩
    obtain ⟨hx, hx_le⟩ := hx.mpr ⟨⟨hpx, hpx_lt⟩, hmin_x, hmax_x⟩
    obtain ⟨hy, hy_le⟩ := hy.mpr ⟨⟨hpy, hpy_lt⟩, hmin_y, hmax_y⟩
    exact ⟨hx, hx_le, hy, hy_le⟩

theorem Segment.not_spans_of_beyond {s : Segment Int} {width height : Nat} {p : Point Int}
    (h : s.Beyond width height) : ¬ (p.InGrid width height ∧ s.Spans p) := by
  rintro ⟨⟨hx, hx_lt, hy, hy_lt⟩, hmin_x, hmax_x, hmin_y, hmax_y⟩
  rcases h with hleft | hright | hbottom | htop
  · clear hmin_y hmax_y
    omega
  · clear hmin_y hmax_y
    omega
  · clear hmin_x hmax_x
    omega
  · clear hmin_x hmax_x
    omega

namespace Canvas

variable {canvas : Canvas} (hwidth : canvas.image.width < 2 ^ 53)
  (hheight : canvas.image.height < 2 ^ 53)
include hwidth hheight

theorem mem_linePixels_of_straight {s : Segment Int} (hs : s.Straight)
    (hstart : s.start.InReach) (hfinish : s.finish.InReach) {p : Point Int} :
    p ∈ canvas.linePixels s ↔ p.InGrid canvas.image.width canvas.image.height ∧
    s.Spans p := by
  have hsettles := settlesEnds_clip exactIntegers_double hwidth hheight
  by_cases hsize : canvas.image.width = 0 ∨ canvas.image.height = 0
  · have hclip : canvas.clip s = none := hsettles.eq_none_of_empty hsize s
    rw [linePixels, hclip]
    refine iff_of_false List.not_mem_nil ?_
    rintro ⟨⟨hx, hx_lt, hy, hy_lt⟩, -⟩
    omega
  · by_cases hbeyond : s.Beyond canvas.image.width canvas.image.height
    · have hclip : canvas.clip s = none := hsettles.eq_none_of_beyond hbeyond
      rw [linePixels, hclip]
      exact iff_of_false List.not_mem_nil (Segment.not_spans_of_beyond hbeyond)
    · have hclip : canvas.clip s = some _ :=
        Segment.clip_of_straight hwidth hheight hstart hfinish hsize hs
          ((Segment.shareBorder_iff_beyond hsize).not.mpr hbeyond)
      have hmoved :
          (s.map (Point.intoGrid canvas.image.width canvas.image.height)).Straight :=
        hs.imp (congrArg fun y => max 0 (min _ y)) (congrArg fun x => max 0 (min _ x))
      rw [linePixels_of_clip hclip,
        Segment.mem_nearestPixels_of_straight hmoved.rightward
        (Segment.run_rightward_nonneg _), Segment.spans_rightward_iff]
      exact Segment.spans_map_intoGrid_iff hsize hbeyond

end Canvas

/-- The pixels of a row from one column to another, as far as a grid has them. -/
def rowPixels (width height : Nat) (y first last : Int) : Set (Point Int) :=
  {p | 0 ≤ y ∧ y < height ∧ p.y = y ∧ max 0 (min first last) ≤ p.x ∧
    p.x ≤ min (width - 1 : Int) (max first last)}

def columnPixels (width height : Nat) (x first last : Int) : Set (Point Int) :=
  {p | 0 ≤ x ∧ x < width ∧ p.x = x ∧ max 0 (min first last) ≤ p.y ∧
    p.y ≤ min (height - 1 : Int) (max first last)}

theorem mem_rowPixels_iff {width height : Nat} {y first last : Int} {p : Point Int} :
    p ∈ rowPixels width height y first last ↔
      p.InGrid width height ∧ (Segment.mk ⟨first, y⟩ ⟨last, y⟩).Spans p := by
  constructor
  · rintro ⟨hy, hy_lt, hrow, hx, hx_le⟩
    exact ⟨⟨by omega, by omega, by omega, by omega⟩,
      by
        dsimp only; omega,
          by dsimp only; omega, by dsimp only; omega, by dsimp only; omega⟩
  · rintro ⟨⟨hx, hx_lt, hy, hy_lt⟩, hmin_x, hmax_x, hmin_y, hmax_y⟩
    dsimp only at hmin_x hmax_x hmin_y hmax_y
    exact ⟨by omega, by omega, by omega, by omega, by omega⟩

theorem mem_columnPixels_iff {width height : Nat} {x first last : Int} {p : Point Int} :
    p ∈ columnPixels width height x first last ↔
      p.InGrid width height ∧ (Segment.mk ⟨x, first⟩ ⟨x, last⟩).Spans p := by
  constructor
  · rintro ⟨hx, hx_lt, hcolumn, hy, hy_le⟩
    exact ⟨⟨by omega, by omega, by omega, by omega⟩,
      by
        dsimp only; omega,
          by dsimp only; omega, by dsimp only; omega, by dsimp only; omega⟩
  · rintro ⟨⟨hx, hx_lt, hy, hy_lt⟩, hmin_x, hmax_x, hmin_y, hmax_y⟩
    dsimp only at hmin_x hmax_x hmin_y hmax_y
    exact ⟨by omega, by omega, by omega, by omega, by omega⟩

theorem Point.inReach_int64 (x y : Int64) : (Point.mk x.toInt y.toInt).InReach := by
  have hx := x.le_toInt
  have hx_lt := x.toInt_lt
  have hy := y.le_toInt
  have hy_lt := y.toInt_lt
  constructor <;> dsimp only <;> omega

/-- A line along a row or a column covers and paints exactly the pixels between its ends
that the canvas has, with the ends anywhere within sixty-four bits. -/
theorem drawLine_straight (canvas : Canvas) (hwidth : canvas.image.width < 2 ^ 53)
    (hheight : canvas.image.height < 2 ^ 53) (color : Color) (first last fixed : Int64) :
    let width := canvas.image.width
    let height := canvas.image.height
    let row : Segment Int := ⟨⟨first.toInt, fixed.toInt⟩, ⟨last.toInt, fixed.toInt⟩⟩
    let column : Segment Int := ⟨⟨fixed.toInt, first.toInt⟩, ⟨fixed.toInt, last.toInt⟩⟩
    let inRow := rowPixels width height fixed.toInt first.toInt last.toInt
    let inColumn := columnPixels width height fixed.toInt first.toInt last.toInt
    ({p | p ∈ canvas.linePixels row} = inRow ∧
      canvas.Paints inRow (canvas.rgb color) (canvas.drawLine row color)) ∧
    ({p | p ∈ canvas.linePixels column} = inColumn ∧
      canvas.Paints inColumn (canvas.rgb color) (canvas.drawLine column color)) := by
  intro width height row column inRow inColumn
  have hrow : {p | p ∈ canvas.linePixels row} = inRow := Set.ext fun p =>
    (Canvas.mem_linePixels_of_straight hwidth hheight (.inl rfl)
      (Point.inReach_int64 first fixed) (Point.inReach_int64 last fixed)).trans mem_rowPixels_iff.symm
  have hcolumn : {p | p ∈ canvas.linePixels column} = inColumn := Set.ext fun p =>
    (Canvas.mem_linePixels_of_straight hwidth hheight (.inr rfl)
      (Point.inReach_int64 fixed first) (Point.inReach_int64 fixed last)).trans mem_columnPixels_iff.symm
  refine ⟨⟨hrow, ?_⟩, hcolumn, ?_⟩
  · rw [← hrow]
    exact canvas.paints_drawLine row color
  · rw [← hcolumn]
    exact canvas.paints_drawLine column color

theorem drawLine_straight_far_away :
    let canvas : Canvas := .new 10 6 255 ⟨0, 0, 0⟩
    let row : Segment Int := ⟨⟨9223372036854775807, 3⟩, ⟨-9223372036854775808, 3⟩⟩
    let column : Segment Int := ⟨⟨3, 9223372036854775807⟩, ⟨3, 2⟩⟩
    canvas.image.width < 2 ^ 53 ∧ canvas.image.height < 2 ^ 53 ∧
      {p | p ∈ canvas.linePixels row} = {p | p.y = 3 ∧ 0 ≤ p.x ∧ p.x ≤ 9} ∧
      {p | p ∈ canvas.linePixels column} = {p | p.x = 3 ∧ 2 ≤ p.y ∧ p.y ≤ 5} := by
  intro canvas row column
  have hwidth : canvas.image.width < 2 ^ 53 := by decide
  have hheight : canvas.image.height < 2 ^ 53 := by decide
  obtain ⟨⟨hrow, -⟩, -⟩ :=
    drawLine_straight canvas hwidth hheight ⟨255, 0, 0⟩ Int64.maxValue Int64.minValue 3
  obtain ⟨-, hcolumn, -⟩ :=
    drawLine_straight canvas hwidth hheight ⟨255, 0, 0⟩ Int64.maxValue 2 3
  have hhigh : Int64.maxValue.toInt = 9223372036854775807 := by decide
  have hlow : Int64.minValue.toInt = -9223372036854775808 := by decide
  have htwo : (2 : Int64).toInt = 2 := by decide
  have hthree : (3 : Int64).toInt = 3 := by decide
  have hcanvas_width : canvas.image.width = 10 := by decide
  have hcanvas_height : canvas.image.height = 6 := by decide
  rw [hhigh, hlow, hthree, hcanvas_width, hcanvas_height] at hrow
  rw [hhigh, htwo, hthree, hcanvas_width, hcanvas_height] at hcolumn
  refine ⟨hwidth, hheight, hrow.trans ?_, hcolumn.trans ?_⟩
  · ext p
    simp only [rowPixels, Set.mem_ofPred_eq]
    omega
  · ext p
    simp only [columnPixels, Set.mem_ofPred_eq]
    omega

end Wireframe
