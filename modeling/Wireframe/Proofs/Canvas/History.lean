import Mathlib.Data.List.Induction
import Wireframe.Proofs.Canvas.Paint

/-!
Canvases over a whole run of operations. Each pixel has the colour that it was given last,
on the scale that held at that time.
-/

namespace Wireframe.Canvas

inductive Operation where
  | plot (p : Point Int) (color : Color)
  | line (s : Segment Int) (color : Color)
  | edges (edges : EdgeList) (color : Color)
  | clear
  | scale (maxColor : UInt64)

def perform (canvas : Canvas) : Operation → Canvas
  | .plot p color => canvas.plot p color
  | .line s color => canvas.drawLine s color
  | .edges edges color => canvas.drawEdges edges color
  | .clear => canvas.clear
  | .scale maxColor => canvas.setMaxColor maxColor

def performAll (canvas : Canvas) (operations : List Operation) : Canvas :=
  operations.foldl perform canvas

namespace Operation

def scale? : Operation → Option UInt64
  | scale maxColor => some maxColor
  | _ => none

/-- The operation gives a colour to a pixel of a canvas. -/
inductive Colours (canvas : Canvas) (p : Point Int) : Operation → Color → Prop
  | plot (color : Color) : Colours canvas p (.plot p color) color
  | line {s : Segment Int} (color : Color)
      (hp : p ∈ s.covered canvas.image.width canvas.image.height) :
      Colours canvas p (.line s color) color
  | edges {edges : EdgeList} (color : Color)
      (hp : p ∈ edges.covered canvas.image.width canvas.image.height) :
      Colours canvas p (.edges edges color) color
  | clear : Colours canvas p .clear canvas.background

end Operation

def scaleAfter (initial : UInt64) (operations : List Operation) : UInt64 :=
  ((operations.filterMap Operation.scale?).getLast?).getD initial

/-- The colour that a pixel of a canvas was given last, and the scale that
held when it was given. -/
inductive LastColour (start : Canvas) (p : Point Int) : List Operation → Color →
    UInt64 → Prop
  | initial {operations : List Operation}
      (h : ∀ operation ∈ operations, ∀ color, ¬ operation.Colours start p color) :
      LastColour start p operations start.background start.maxColor
  | given {before : List Operation} {operation : Operation} {after : List Operation}
      {color : Color} (h : operation.Colours start p color)
      (hafter : ∀ later ∈ after, ∀ color, ¬ later.Colours start p color) :
      LastColour start p (before ++ operation :: after) color
        (scaleAfter start.maxColor before)

/-! One operation. -/

variable {canvas start : Canvas} {operation : Operation} {p : Point Int} {color : Color}

structure SameFormat (canvas other : Canvas) : Prop where
  width_eq : other.image.width = canvas.image.width
  height_eq : other.image.height = canvas.image.height
  background_eq : other.background = canvas.background

theorem Paints.sameFormat {points : Set (Point Int)} {value : Rgb} {drawn : Canvas}
    (h : canvas.Paints points value drawn) : canvas.SameFormat drawn where
  width_eq := h.width_eq
  height_eq := h.height_eq
  background_eq := by rw [h.eq_image]

theorem SameFormat.trans {middle other : Canvas} (h : canvas.SameFormat middle)
    (hother : middle.SameFormat other) : canvas.SameFormat other where
  width_eq := hother.width_eq.trans h.width_eq
  height_eq := hother.height_eq.trans h.height_eq
  background_eq := hother.background_eq.trans h.background_eq

theorem SameFormat.symm {other : Canvas} (h : canvas.SameFormat other) :
    other.SameFormat canvas :=
  ⟨h.width_eq.symm, h.height_eq.symm, h.background_eq.symm⟩

theorem SameFormat.colours (h : start.SameFormat canvas)
    (hcolours : operation.Colours start p color) :
    operation.Colours canvas p color := by
  cases hcolours with
  | plot => exact .plot color
  | line _ hp =>
      rw [← h.width_eq, ← h.height_eq] at hp
      exact .line color hp
  | edges _ hp =>
      rw [← h.width_eq, ← h.height_eq] at hp
      exact .edges color hp
  | clear =>
      rw [← h.background_eq]
      exact .clear

theorem sameFormat_perform (canvas : Canvas) (operation : Operation) :
    canvas.SameFormat (canvas.perform operation) := by
  cases operation with
  | plot p color => exact (canvas.paints_plot p color).sameFormat
  | line s color => exact (canvas.paints_drawLine s color).sameFormat
  | edges edges color => exact (canvas.paints_drawEdges edges color).sameFormat
  | clear => exact ⟨rfl, rfl, rfl⟩
  | scale maxColor => exact ⟨rfl, rfl, rfl⟩

theorem maxColor_perform (canvas : Canvas) (operation : Operation) :
    (canvas.perform operation).maxColor = operation.scale?.getD canvas.maxColor := by
  cases operation with
  | plot p color => rfl
  | line s color => rfl
  | edges edges color =>
      change (canvas.drawEdges edges color).maxColor = canvas.maxColor
      rw [(canvas.paints_drawEdges edges color).eq_image]
  | clear => rfl
  | scale maxColor => rfl

theorem pixel?_perform_of_colours (h : operation.Colours canvas p color)
    (hp : canvas.image.Contains p) :
    (canvas.perform operation).image.pixel? p = some (canvas.rgb color) := by
  cases h with
  | plot => exact (canvas.paints_plot p color).pixel?_of_mem p rfl hp
  | line _ hmem => exact (canvas.paints_drawLine _ color).pixel?_of_mem p hmem hp
  | edges _ hmem => exact (canvas.paints_drawEdges _ color).pixel?_of_mem p hmem hp
  | clear => exact Image.pixel?_filled ⟨hp.x_nonneg, hp.x_lt, hp.y_nonneg, hp.y_lt⟩

theorem pixel?_perform_of_not (h : ∀ color, ¬ operation.Colours canvas p color) :
    (canvas.perform operation).image.pixel? p = canvas.image.pixel? p := by
  cases operation with
  | plot q color =>
      refine (canvas.paints_plot q color).pixel?_of_notMem p fun hmem => ?_
      cases hmem
      exact h color (.plot color)
  | line s color =>
      exact (canvas.paints_drawLine s color).pixel?_of_notMem p fun hmem =>
        h color (.line color hmem)
  | edges edges color =>
      exact (canvas.paints_drawEdges edges color).pixel?_of_notMem p fun hmem =>
        h color (.edges color hmem)
  | clear => exact absurd .clear (h canvas.background)
  | scale maxColor => rfl

/-! A run of operations. -/

variable {operations before after : List Operation}

@[simp] theorem performAll_append (canvas : Canvas) (before after : List Operation) :
    canvas.performAll (before ++ after) = (canvas.performAll before).performAll after :=
  List.foldl_append

theorem sameFormat_performAll (canvas : Canvas) (operations : List Operation) :
    canvas.SameFormat (canvas.performAll operations) := by
  induction operations generalizing canvas with
  | nil => exact ⟨rfl, rfl, rfl⟩
  | cons operation operations ih =>
      exact (canvas.sameFormat_perform operation).trans (ih _)

theorem maxColor_performAll (canvas : Canvas) (operations : List Operation) :
    (canvas.performAll operations).maxColor = scaleAfter canvas.maxColor operations := by
  induction operations using List.reverseRecOn with
  | nil => rfl
  | append_singleton operations operation ih =>
      rw [performAll_append]
      refine (maxColor_perform _ operation).trans ?_
      rw [ih, scaleAfter, scaleAfter, List.filterMap_append]
      cases hscale : operation.scale? <;> simp [hscale]

theorem pixel?_performAll_of_not
    (h : ∀ operation ∈ operations, ∀ color, ¬ operation.Colours canvas p color) :
    (canvas.performAll operations).image.pixel? p = canvas.image.pixel? p := by
  induction operations using List.reverseRecOn with
  | nil => rfl
  | append_singleton operations operation ih =>
      have hearlier := ih fun earlier hmem => h earlier (List.mem_append_left _ hmem)
      have hformat := canvas.sameFormat_performAll operations
      rw [performAll_append, ← hearlier]
      refine pixel?_perform_of_not fun color hcolours => ?_
      exact h operation (by simp) color (hformat.symm.colours hcolours)

theorem exists_lastColour (start : Canvas) (p : Point Int) (operations : List Operation) :
    ∃ color scale, LastColour start p operations color scale := by
  induction operations using List.reverseRecOn with
  | nil => exact ⟨_, _, .initial (by simp)⟩
  | append_singleton operations operation ih =>
      by_cases hcolours : ∃ color, operation.Colours start p color
      · obtain ⟨color, hcolours⟩ := hcolours
        exact ⟨color, _, .given hcolours (by simp)⟩
      · -- The colour that was the last before this operation is so still.
        have hnot : ∀ color, ¬ operation.Colours start p color := not_exists.mp hcolours
        obtain ⟨color, scale, hlast⟩ := ih
        cases hlast with
        | initial h =>
            refine ⟨_, _, .initial fun other hmem => ?_⟩
            rcases List.mem_append.mp hmem with hearlier | hself
            · exact h other hearlier
            · exact List.mem_singleton.mp hself ▸ hnot
        | given h hafter =>
            rename_i before given after
            have hlater : ∀ later ∈ after ++ [operation], ∀ color,
                ¬ later.Colours start p color := by
              intro later hmem
              rcases List.mem_append.mp hmem with hearlier | hself
              · exact hafter later hearlier
              · exact List.mem_singleton.mp hself ▸ hnot
            rw [List.append_assoc, List.cons_append]
            exact ⟨_, _, .given h hlater⟩

theorem pixel?_of_lastColour {scale : UInt64}
    (h : LastColour start p operations color scale) (hp : start.image.Contains p)
    (hstart : start.image.pixel? p = some (start.rgb start.background)) :
    (start.performAll operations).image.pixel? p = some (color.toRgb scale) := by
  cases h with
  | initial h => exact (pixel?_performAll_of_not h).trans hstart
  | given h hafter =>
      rename_i before operation after
      let reached := start.performAll before
      let drawn := reached.perform operation
      have hreached : start.SameFormat reached := start.sameFormat_performAll before
      have hdrawn : start.SameFormat drawn :=
        hreached.trans (reached.sameFormat_perform operation)
      have hcontains : reached.image.Contains p :=
        (Image.contains_congr hreached.width_eq hreached.height_eq).mpr hp
      have hlater : (drawn.performAll after).image.pixel? p = drawn.image.pixel? p :=
        pixel?_performAll_of_not fun later hmem other hcolours =>
          hafter later hmem other (hdrawn.symm.colours hcolours)
      calc
        (start.performAll (before ++ operation :: after)).image.pixel? p =
            (drawn.performAll after).image.pixel? p := by
          rw [performAll_append]
          rfl
        _ = drawn.image.pixel? p := hlater
        _ = some (reached.rgb color) :=
          pixel?_perform_of_colours (hreached.colours h) hcontains
        _ = some (color.toRgb (scaleAfter start.maxColor before)) := by
          rw [rgb, maxColor_performAll]

/-- The image that a canvas is published as, if `make` can make it out of the bytes. -/
def toImage (canvas : Canvas) (make : UInt32 → UInt32 → Array UInt8 → Option Image) :
    Except String Image :=
  match make canvas.image.width.toUInt32 canvas.image.height.toUInt32
      canvas.image.bytes with
  | none => .error "Picture buffer does not match its dimensions"
  | some image => .ok image

/-- Whatever is done to a new canvas, it keeps its sides and the number of its bytes, and
each pixel has in its place the bytes of the colour that it was given last, by a plot, a
line, an edge, a clearing or the making of the canvas, on the scale that held at that
time. A plot outside changes nothing, a cleared canvas is as good as new, and an image can
always be made out of the bytes. -/
theorem performAll_new_eq_lastColour (width height : Nat) (maxColor : UInt64)
    (background : Color) (operations : List Operation) :
    let start := Canvas.new width height maxColor background
    let canvas := start.performAll operations
    (canvas.image.width = width ∧ canvas.image.height = height ∧
      canvas.image.bytes.size = 3 * width * height ∧
      canvas.maxColor = scaleAfter maxColor operations) ∧
    (∀ x y : Nat, x < width → y < height →
      let i := 3 * ((height - 1 - y) * width + x)
      i + 3 ≤ canvas.image.bytes.size ∧
      (∃ color scale, LastColour start ⟨x, y⟩ operations color scale) ∧
      ∀ color scale, LastColour start ⟨x, y⟩ operations color scale →
        canvas.image.bytes.extract i (i + 3) = (color.toRgb scale).bytes) ∧
    (∀ (p : Point Int) color,
      p.x < 0 ∨ p.y < 0 ∨ (width : Int) ≤ p.x ∨ (height : Int) ≤ p.y →
        canvas.plot p color = canvas) ∧
    canvas.clear = Canvas.new width height canvas.maxColor background ∧
    (width < UInt32.size → height < UInt32.size →
      canvas.image.inWords = canvas.image ∧
      ∀ make, Image.Making make → canvas.toImage make = .ok canvas.image) := by
  intro start canvas
  have hformat : start.SameFormat canvas := start.sameFormat_performAll operations
  have hwidth : canvas.image.width = width := hformat.width_eq
  have hheight : canvas.image.height = height := hformat.height_eq
  have hsize : canvas.image.bytes.size = 3 * width * height := by
    rw [Image.size_bytes, hwidth, hheight]
  refine ⟨⟨hwidth, hheight, hsize, start.maxColor_performAll operations⟩, ?_, ?_, ?_, ?_⟩
  · intro x y hx hy i
    let p : Point Int := ⟨x, y⟩
    have hp : start.image.Contains p :=
      ⟨Int.natCast_nonneg x, Int.ofNat_lt.mpr hx, Int.natCast_nonneg y,
        Int.ofNat_lt.mpr hy⟩
    have hcontains : canvas.image.Contains p :=
      (Image.contains_congr hwidth hheight).mpr hp
    have hi : i = 3 * canvas.image.index p := by
      rw [Image.index, hwidth, hheight]
      rfl
    refine ⟨?_, exists_lastColour start p operations, fun color scale hlast => ?_⟩
    · have hplace := Image.index_lt hcontains
      rw [Image.size_bytes, Nat.mul_assoc]
      omega
    · have hpixel := pixel?_of_lastColour hlast hp (Image.pixel?_filled hp)
      rw [hi]
      exact Image.extract_bytes hpixel
  · intro p color hp
    have hoff : ¬ canvas.image.Contains p := by
      rintro ⟨hx, hxlt, hy, hylt⟩
      omega
    rw [plot, Image.plot, dif_neg hoff]
  · have hbackground : canvas.background = background := hformat.background_eq
    rw [clear, rgb, Image.fill, hwidth, hheight, new, hbackground]
  · intro hwide hhigh
    refine ⟨Image.inWords_of_lt (hwidth ▸ hwide) (hheight ▸ hhigh), fun make hmake => ?_⟩
    rw [toImage, hmake.eq_some (hwidth ▸ hwide) (hheight ▸ hhigh)]

/-- Colours from before a clearing are gone, and what was scaled to ten stays
when the scale goes back. -/
theorem performAll_new_last_of_five :
    let operations :=
      [.line ⟨⟨0, 0⟩, ⟨2, 0⟩⟩ ⟨255, 0, 0⟩, .scale 10, .clear, .plot ⟨1, 1⟩ ⟨10, 5, 0⟩,
        .scale 255]
    let canvas := (Canvas.new 3 2 255 ⟨0, 0, 5⟩).performAll operations
    canvas.image.bytes.extract 3 6 = #[255, 127, 0] ∧
      canvas.image.bytes.extract 9 12 = #[0, 0, 127] ∧
      canvas.plot ⟨3, 0⟩ ⟨9, 9, 9⟩ = canvas ∧
      canvas.toImage Image.ofBytes? = .ok canvas.image := by
  intro operations canvas
  obtain ⟨-, hpixels, hoff, -, himage⟩ :=
    performAll_new_eq_lastColour 3 2 255 ⟨0, 0, 5⟩ operations
  obtain ⟨-, -, hplotted⟩ := hpixels 1 1 (by decide) (by decide)
  obtain ⟨-, -, hcleared⟩ := hpixels 0 0 (by decide) (by decide)
  refine ⟨?_, ?_, ?_, ?_⟩
  · refine hplotted ⟨10, 5, 0⟩ 10 ?_
    refine @LastColour.given _ _ (operations.take 3) _ _ _ (.plot _) ?_
    intro later hmem color hcolours
    cases List.mem_singleton.mp hmem
    cases hcolours
  · refine hcleared ⟨0, 0, 5⟩ 10 ?_
    refine @LastColour.given _ _ (operations.take 2) _ _ _ .clear ?_
    intro later hmem color hcolours
    rcases List.mem_pair.mp hmem with rfl | rfl
    · cases hcolours
    · cases hcolours
  · exact hoff ⟨3, 0⟩ ⟨9, 9, 9⟩ (by decide)
  · exact (himage (by decide) (by decide)).2 _ Image.making_ofBytes?

end Wireframe.Canvas
