import Wireframe.Canvas
import Wireframe.Proofs.Image.Plot
import Wireframe.Proofs.Raster.Pixels

/-!
Lines on a canvas. The part of a line that is left by clipping is painted with the pixels
nearest to it, and nothing else changes.
-/

namespace Wireframe

theorem Segment.run_rightward_nonneg (s : Segment Int) : 0 ≤ s.rightward.run := by
  unfold rightward run
  split
  · simp only [reverse]
    omega
  · omega

namespace Image

structure ContainsEnds (image : Image) (s : Segment Int) : Prop where
  start : image.Contains s.start
  finish : image.Contains s.finish

variable {image : Image} {s : Segment Int}

theorem ContainsEnds.rightward (h : image.ContainsEnds s) :
    image.ContainsEnds s.rightward := by
  unfold Segment.rightward
  split
  · exact ⟨h.finish, h.start⟩
  · exact h

theorem ContainsEnds.pixelAt (h : image.ContainsEnds s) (hrun : 0 ≤ s.run) {i : Int}
    (hi : 0 ≤ i) (hle : i ≤ s.steps) : image.Contains (s.pixelAt i) := by
  obtain ⟨hx, hxle, hy, hyle⟩ := Segment.pixelAt_mem hrun hi hle
  obtain ⟨hstartx, -, hstarty, hstarty_lt⟩ := h.start
  obtain ⟨-, hfinishx, hfinishy, hfinishy_lt⟩ := h.finish
  exact ⟨by omega, by omega, by omega, by omega⟩

theorem ContainsEnds.steps_lt (h : image.ContainsEnds s) :
    s.steps < max image.width image.height := by
  obtain ⟨hstartx, hstartx_lt, hstarty, hstarty_lt⟩ := h.start
  obtain ⟨hfinishx, hfinishx_lt, hfinishy, hfinishy_lt⟩ := h.finish
  have hrise : s.rise < image.height := abs_lt.mpr ⟨by omega, by omega⟩
  unfold Segment.steps Segment.run at *
  omega

end Image

namespace Canvas

variable {canvas : Canvas} {s clipped : Segment Int}

theorem containsEnds_of_clip (h : canvas.clip s = some clipped) :
    canvas.image.ContainsEnds clipped := by
  unfold Canvas.clip Segment.clip at h
  split at h
  · cases h
  · rename_i hsize
    obtain ⟨moved, -, rfl⟩ := Option.map_eq_some_iff.mp h
    constructor <;>
      constructor <;> simp only [Segment.map, Segment.nearestWithin] <;> omega

theorem linePixels_of_clip (h : canvas.clip s = some clipped) :
    canvas.linePixels s = clipped.rightward.nearestPixels := by
  rw [linePixels, h]
  exact Segment.rightwardPixels_eq _ clipped.run_rightward_nonneg

theorem drawLine_of_clip_eq_none (h : canvas.clip s = none) (color : Color) :
    canvas.drawLine s color = canvas := by
  rw [drawLine, linePixels, h, Image.plotAll_nil]

theorem pixel?_drawLine (canvas : Canvas) (s : Segment Int) (color : Color)
    (p : Point Int) :
    (canvas.drawLine s color).image.pixel? p =
      if p ∈ canvas.linePixels s ∧ canvas.image.Contains p then some (canvas.rgb color)
      else canvas.image.pixel? p :=
  Image.pixel?_plotAll _ _ _ _

theorem contains_of_mem_linePixels (h : canvas.clip s = some clipped) {p : Point Int}
    (hp : p ∈ canvas.linePixels s) : canvas.image.Contains p := by
  rw [linePixels_of_clip h, Segment.mem_nearestPixels_iff] at hp
  obtain ⟨i, hi, hle, rfl⟩ := hp
  exact (containsEnds_of_clip h).rightward.pixelAt clipped.run_rightward_nonneg hi hle

theorem length_linePixels (h : canvas.clip s = some clipped) :
    ((canvas.linePixels s).length : Int) = clipped.rightward.steps + 1 := by
  have hsteps := clipped.rightward.steps_nonneg
  rw [linePixels_of_clip h, Segment.length_nearestPixels]
  omega

theorem ends_mem_linePixels (h : canvas.clip s = some clipped) :
    clipped.start ∈ canvas.linePixels s ∧ clipped.finish ∈ canvas.linePixels s := by
  have hrun := clipped.run_rightward_nonneg
  have hfirst := List.mem_of_mem_head? (Segment.head?_nearestPixels hrun)
  have hlast := List.mem_of_getLast? (Segment.getLast?_nearestPixels hrun)
  rw [linePixels_of_clip h]
  by_cases hleft : clipped.finish.x < clipped.start.x
  · have hreverse : clipped.rightward = clipped.reverse := if_pos hleft
    rw [hreverse] at hfirst hlast ⊢
    exact ⟨hlast, hfirst⟩
  · have hsame : clipped.rightward = clipped := if_neg hleft
    rw [hsame] at hfirst hlast ⊢
    exact ⟨hfirst, hlast⟩

/-- Drawing a line does nothing if clipping leaves nothing of it. Otherwise the pixels
nearest to the clipped line, from left to right, take the colour, and no others. They are
as many as the longer side of the line asks for, different from each other and inside the
image, lead from one end to the other in steps to a neighbour, and lie at most half a
pixel from the line, a half going to the side of the left end. On a steep line, no pixel
before the last has reached the row of the end. -/
theorem drawLine_paints_nearestPixels (canvas : Canvas) (s : Segment Int)
    (color : Color) :
    match canvas.clip s with
    | none => canvas.drawLine s color = canvas
    | some clipped =>
        let line := clipped.rightward
        let pixels := canvas.linePixels s
        let drawn := canvas.drawLine s color
        (drawn = { canvas with image := drawn.image } ∧
          drawn.image.width = canvas.image.width ∧
          drawn.image.height = canvas.image.height ∧
          ∀ p, drawn.image.pixel? p =
            if p ∈ pixels then some (canvas.rgb color) else canvas.image.pixel? p) ∧
        (∀ p, p ∈ pixels ↔
          if line.rise ≤ line.run then
            ∃ i, 0 ≤ i ∧ i ≤ line.run ∧
              p = ⟨line.start.x + i, line.start.y + line.direction *
                ⌈((2 * i * line.rise - line.run : Int) : ℚ) / (2 * line.run : Int)⌉⟩
          else
            ∃ i, 0 ≤ i ∧ i ≤ line.rise ∧
              p = ⟨line.start.x +
                ⌈((2 * i * line.run - line.rise : Int) : ℚ) / (2 * line.rise : Int)⌉,
                line.start.y + line.direction * i⟩) ∧
        pixels.Nodup ∧
        (pixels.length : Int) = max line.run line.rise + 1 ∧
        pixels.length ≤ max canvas.image.width canvas.image.height ∧
        (∀ p ∈ pixels, canvas.image.Contains p) ∧
        clipped.start ∈ pixels ∧ clipped.finish ∈ pixels ∧
        pixels.head? = some line.start ∧ pixels.getLast? = some line.finish ∧
        pixels.IsChain Point.Neighbour ∧
        (∀ p ∈ pixels, line.Near p) ∧
        (line.run < line.rise → ∀ p ∈ pixels, p.y = line.finish.y ↔ p = line.finish) := by
  split
  · rename_i hclip
    exact drawLine_of_clip_eq_none hclip color
  · rename_i clipped hclip
    intro line pixels drawn
    have hrun : 0 ≤ line.run := clipped.run_rightward_nonneg
    have hpixels : pixels = line.nearestPixels := linePixels_of_clip hclip
    have hlength : (pixels.length : Int) = line.steps + 1 := length_linePixels hclip
    have hcontains : ∀ p ∈ pixels, canvas.image.Contains p :=
      fun p hp => contains_of_mem_linePixels hclip hp
    obtain ⟨hstart, hfinish⟩ := ends_mem_linePixels hclip
    refine ⟨⟨rfl, Image.width_plotAll .., Image.height_plotAll .., fun p => ?_⟩,
      fun p => ?_, ?_, hlength, ?_, hcontains, hstart, hfinish, ?_, ?_, ?_,
        fun p hp => ?_, fun hsteep p hp => ?_⟩
    · have hpainted : p ∈ pixels ∧ canvas.image.Contains p ↔ p ∈ pixels :=
        and_iff_left_of_imp (hcontains p)
      exact (pixel?_drawLine canvas s color p).trans (by simp only [pixels, hpainted])
    · rw [hpixels]
      exact line.mem_nearestPixels_iff_ceil
    · rw [hpixels]
      exact line.nodup_nearestPixels
    · have hsteps := (containsEnds_of_clip hclip).rightward.steps_lt
      change line.steps < _ at hsteps
      omega
    · rw [hpixels]
      exact Segment.head?_nearestPixels hrun
    · rw [hpixels]
      exact Segment.getLast?_nearestPixels hrun
    · rw [hpixels]
      exact Segment.isChain_nearestPixels hrun
    · rw [hpixels, Segment.mem_nearestPixels_iff] at hp
      obtain ⟨i, -, -, rfl⟩ := hp
      exact Segment.near_pixelAt hrun i
    · rw [hpixels, Segment.mem_nearestPixels_iff] at hp
      obtain ⟨i, -, -, rfl⟩ := hp
      rw [line.y_pixelAt_eq_iff hsteep, ← Segment.pixelAt_steps hrun]
      exact line.pixelAt_injective.eq_iff.symm

theorem drawLine_paints_three_pixels :
    let canvas : Canvas := .new 5 3 255 ⟨0, 0, 0⟩
    let s : Segment Int := ⟨⟨4, 2⟩, ⟨1, -4⟩⟩
    canvas.clip s = some ⟨⟨4, 2⟩, ⟨3, 0⟩⟩ ∧
      ∀ p, (canvas.drawLine s ⟨255, 0, 0⟩).image.pixel? p =
        if p ∈ [⟨3, 0⟩, ⟨3, 1⟩, ⟨4, 2⟩] then some ⟨255, 0, 0⟩
        else canvas.image.pixel? p := by
  intro canvas s
  have hclip : canvas.clip s = some ⟨⟨4, 2⟩, ⟨3, 0⟩⟩ := by decide +kernel
  have hpixels : canvas.linePixels s = [⟨3, 0⟩, ⟨3, 1⟩, ⟨4, 2⟩] := by decide +kernel
  have hrgb : canvas.rgb ⟨255, 0, 0⟩ = ⟨255, 0, 0⟩ := by decide
  -- With the canvas opaque, nothing below computes the clipped line again.
  clear_value canvas s
  have hdraw := drawLine_paints_nearestPixels canvas s ⟨255, 0, 0⟩
  rw [hclip] at hdraw
  obtain ⟨⟨-, -, -, hpaint⟩, -⟩ := hdraw
  rw [hpixels, hrgb] at hpaint
  exact ⟨hclip, hpaint⟩

end Canvas

end Wireframe
