import Mathlib.Algebra.Group.Even
import Mathlib.Data.Set.Basic
import Wireframe.Proofs.Canvas.Line
import Wireframe.Proofs.Image.Storage

/-!
Painting sets of pixels. What is painted in one colour depends on the set of the pixels
only, so neither the order of the lines nor their number counts.
-/

namespace Wireframe

def Segment.covered (width height : Nat) (s : Segment Int) : List (Point Int) :=
  match s.clip Double width height with
  | none => []
  | some clipped => clipped.pixels

/-- `drawn` is the canvas with the pixels of `points`, as far as it has
them, set to `value`. -/
structure Canvas.Paints (canvas : Canvas) (points : Set (Point Int)) (value : Rgb)
    (drawn : Canvas) : Prop where
  eq_image : drawn = { canvas with image := drawn.image }
  width_eq : drawn.image.width = canvas.image.width
  height_eq : drawn.image.height = canvas.image.height
  pixel?_of_mem : ∀ p ∈ points, canvas.image.Contains p →
    drawn.image.pixel? p = some value
  pixel?_of_notMem : ∀ p, p ∉ points → drawn.image.pixel? p = canvas.image.pixel? p

namespace Canvas

variable {canvas middle drawn other : Canvas} {points more : Set (Point Int)}
  {value : Rgb}

namespace Paints

theorem contains_iff (h : canvas.Paints points value drawn) {p : Point Int} :
    drawn.image.Contains p ↔ canvas.image.Contains p :=
  Image.contains_congr h.width_eq h.height_eq

theorem trans (h : canvas.Paints points value middle)
    (hmore : middle.Paints more value drawn) :
    canvas.Paints (points ∪ more) value drawn where
  eq_image := by
    rw [hmore.eq_image, h.eq_image]
  width_eq := hmore.width_eq.trans h.width_eq
  height_eq := hmore.height_eq.trans h.height_eq
  pixel?_of_mem := by
    intro p hp hcontains
    by_cases hlater : p ∈ more
    · exact hmore.pixel?_of_mem p hlater (h.contains_iff.mpr hcontains)
    · rw [hmore.pixel?_of_notMem p hlater]
      exact h.pixel?_of_mem p (hp.resolve_right hlater) hcontains
  pixel?_of_notMem := by
    intro p hp
    rw [hmore.pixel?_of_notMem p fun hlater => hp (.inr hlater)]
    exact h.pixel?_of_notMem p fun hearlier => hp (.inl hearlier)

theorem unique (h : canvas.Paints points value drawn)
    (hother : canvas.Paints points value other) :
    drawn = other := by
  have himage : drawn.image = other.image := by
    refine Image.ext_pixel? (h.width_eq.trans hother.width_eq.symm)
      (h.height_eq.trans hother.height_eq.symm) fun p hcontains => ?_
    have hp := h.contains_iff.mp hcontains
    by_cases hmem : p ∈ points
    · rw [h.pixel?_of_mem p hmem hp, hother.pixel?_of_mem p hmem hp]
    · rw [h.pixel?_of_notMem p hmem, hother.pixel?_of_notMem p hmem]
  rw [h.eq_image, hother.eq_image, himage]

end Paints

theorem paints_plotAll (canvas : Canvas) (points : List (Point Int)) (value : Rgb) :
    canvas.Paints {p | p ∈ points} value
      { canvas with image := canvas.image.plotAll points value } where
  eq_image := rfl
  width_eq := Image.width_plotAll ..
  height_eq := Image.height_plotAll ..
  pixel?_of_mem := fun p hp hcontains => by
    rw [Image.pixel?_plotAll]
    exact if_pos ⟨hp, hcontains⟩
  pixel?_of_notMem := fun p hp => by
    rw [Image.pixel?_plotAll]
    exact if_neg fun h => hp h.1

theorem paints_plot (canvas : Canvas) (p : Point Int) (color : Color) :
    canvas.Paints {p} (canvas.rgb color) (canvas.plot p color) := by
  simpa [plot] using canvas.paints_plotAll [p] (canvas.rgb color)

theorem paints_drawLine (canvas : Canvas) (s : Segment Int) (color : Color) :
    canvas.Paints {p | p ∈ s.covered canvas.image.width canvas.image.height}
      (canvas.rgb color)
      (canvas.drawLine s color) :=
  canvas.paints_plotAll _ _

theorem paints_foldl_drawLine (canvas : Canvas) (segments : List (Segment Int))
    (color : Color) :
    canvas.Paints
      {p | ∃ s ∈ segments, p ∈ s.covered canvas.image.width canvas.image.height}
        (canvas.rgb color)
      (segments.foldl (fun canvas s => canvas.drawLine s color) canvas) := by
  induction segments generalizing canvas with
  | nil => exact ⟨rfl, rfl, rfl, by simp, by simp⟩
  | cons s segments ih =>
      have hline := canvas.paints_drawLine s color
      have hrest := ih (canvas.drawLine s color)
      rw [hline.width_eq, hline.height_eq] at hrest
      have hboth := hline.trans hrest
      simpa [Set.union_def] using hboth

end Canvas

/-! The edges of an edge list. -/

def Row.edge (start finish : Row Single) : Segment Int :=
  ⟨start.gridPoint.inPlane, finish.gridPoint.inPlane⟩

namespace EdgeList

theorem getElem?_pairUp (points : List (Point Int)) (k : Nat) :
    (pairUp points)[k]? =
      points[2 * k]?.bind fun start => points[2 * k + 1]?.map fun finish =>
        ⟨start, finish⟩ := by
  induction points using pairUp.induct generalizing k with
  | case1 start finish others ih =>
      cases k with
      | zero => rfl
      | succ k => simpa [pairUp, Nat.mul_succ] using ih k
  | case2 points hshort =>
      match points, hshort with
      | [], _ => simp [pairUp]
      | [point], _ => simp [pairUp]
      | start :: finish :: others, hshort => exact absurd rfl (hshort start finish others)

theorem getElem?_segments (edges : EdgeList) (k : Nat) :
    edges.segments[k]? =
      edges[2 * k]?.bind fun start => edges[2 * k + 1]?.map fun finish =>
        start.edge finish := by
  rw [segments, getElem?_pairUp]
  simp [gridPoints, Option.bind_map, Function.comp_def]
  rfl

/-- The pixels that the complete edges of a list cover. -/
def covered (width height : Nat) (edges : EdgeList) : Set (Point Int) :=
  {p | ∃ k start finish, edges[2 * k]? = some start ∧ edges[2 * k + 1]? = some finish ∧
    p ∈ (start.edge finish).covered width height}

theorem mem_covered_iff {width height : Nat} {edges : EdgeList} {p : Point Int} :
    p ∈ edges.covered width height ↔ ∃ s ∈ edges.segments,
      p ∈ s.covered width height := by
  constructor
  · rintro ⟨k, start, finish, hstart, hfinish, hp⟩
    have hedge : edges.segments[k]? = some (start.edge finish) := by
      simp [getElem?_segments, hstart, hfinish]
    exact ⟨_, List.mem_of_getElem? hedge, hp⟩
  · rintro ⟨s, hs, hp⟩
    obtain ⟨k, hk⟩ := List.mem_iff_getElem?.mp hs
    simp only [getElem?_segments, Option.bind_eq_some_iff, Option.map_eq_some_iff] at hk
    obtain ⟨start, hstart, finish, hfinish, rfl⟩ := hk
    exact ⟨k, start, finish, hstart, hfinish, hp⟩

end EdgeList

namespace Canvas

theorem paints_drawEdges (canvas : Canvas) (edges : EdgeList) (color : Color) :
    canvas.Paints (edges.covered canvas.image.width canvas.image.height)
      (canvas.rgb color)
      (canvas.drawEdges edges color) := by
  have hcovered : edges.covered canvas.image.width canvas.image.height =
      {p | ∃ s ∈ edges.segments, p ∈ s.covered canvas.image.width canvas.image.height} :=
    Set.ext fun _ => EdgeList.mem_covered_iff
  rw [hcovered]
  exact canvas.paints_foldl_drawLine edges.segments color

end Canvas

end Wireframe
