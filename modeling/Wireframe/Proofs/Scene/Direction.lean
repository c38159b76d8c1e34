import Wireframe.Proofs.Canvas.Direction
import Wireframe.Proofs.Scene.Meaning
import Wireframe.Proofs.Scene.Render

/-!
Lines of a script with their ends swapped. The swapped line stays the same edge
of the scene, reversed, and the picture changes only if that edge looks
different from its other end.
-/

namespace Wireframe

namespace EdgeList

theorem pairUp_append {points : List (Point Int)} (h : Even points.length)
    (more : List (Point Int)) :
    pairUp (points ++ more) = pairUp points ++ pairUp more := by
  induction points using pairUp.induct with
  | case1 start finish others ih =>
      have heven : Even others.length := by
        obtain ⟨n, hn⟩ := h
        rw [List.length_cons, List.length_cons] at hn
        exact ⟨n - 1, by omega⟩
      rw [List.cons_append, List.cons_append, pairUp, pairUp, ih heven, List.cons_append]
  | case2 points hshort =>
      cases points with
      | nil => rfl
      | cons start others =>
          cases others with
          | nil => exact absurd h Nat.not_even_one
          | cons finish others => exact absurd rfl (hshort start finish others)

theorem length_pairUp (points : List (Point Int)) :
    (pairUp points).length = points.length / 2 := by
  induction points using pairUp.induct with
  | case1 start finish others ih =>
      rw [pairUp, List.length_cons, ih, List.length_cons, List.length_cons]
      omega
  | case2 points hshort =>
      cases points with
      | nil => rfl
      | cons start others =>
          cases others with
          | nil => simp [pairUp]
          | cons finish others => exact absurd rfl (hshort start finish others)

theorem segments_toArray (points : List (Row Single)) :
    segments points.toArray =
      pairUp (points.map fun point => point.gridPoint.inPlane) := by
  simp [segments, gridPoints, Function.comp_def]

theorem segments_eq_append {edges : EdgeList} {before after : List (Row Single)}
    {start finish : Row Single} (h : edges.toList = before ++ start :: finish :: after)
    (heven : Even before.length) :
    edges.segments = segments before.toArray ++ start.edge finish ::
      segments after.toArray := by
  have heven' :
      Even (before.map fun point : Row Single => point.gridPoint.inPlane).length := by
    rwa [List.length_map]
  have hedges := segments_toArray edges.toList
  rw [Array.toArray_toList, h, List.map_append, List.map_cons, List.map_cons,
    pairUp_append heven', pairUp, ← segments_toArray, ← segments_toArray] at hedges
  exact hedges

end EdgeList

/-- The two points of edge `k` have changed places. -/
structure Scene.SwapsEdge (k : Nat) (scene other : Scene) : Prop where
  transform_eq : other.transform = scene.transform
  edges_eq : ∃ before start finish after, before.length = 2 * k ∧
    scene.edges.toList = before ++ start :: finish :: after ∧
    other.edges.toList = before ++ finish :: start :: after

namespace Scene.SwapsEdge

variable {k : Nat} {scene other : Scene}

theorem of_line (h : scene.edges.size = 2 * k) (start finish : Triple) :
    SwapsEdge k (scene.update (.line start finish)) (scene.update (.line finish start)) :=
  ⟨rfl, scene.edges.toList, start.row, finish.row, [], h,
    by simp [Scene.update, EdgeList.addEdge, EdgeList.addPoint],
    by simp [Scene.update, EdgeList.addEdge, EdgeList.addPoint]⟩

theorem update (h : SwapsEdge k scene other) (command : Command) :
    SwapsEdge k (scene.update command) (other.update command) := by
  obtain ⟨htransform, before, start, finish, after, hlength, hedges, hother⟩ := h
  cases command with
  | line first last =>
      refine ⟨htransform, before, start, finish, after ++ [first.row, last.row],
        hlength, ?_, ?_⟩
      · simp [Scene.update, EdgeList.addEdge, EdgeList.addPoint, hedges]
      · simp [Scene.update, EdgeList.addEdge, EdgeList.addPoint, hother]
  | apply =>
      refine ⟨htransform, before.map (Row.times · scene.transform),
        start.times scene.transform, finish.times scene.transform,
          after.map (Row.times · scene.transform), ?_, ?_, ?_⟩
      · rw [List.length_map, hlength]
      · simp [Scene.update, EdgeList.transform, hedges]
      · simp [Scene.update, EdgeList.transform, hother, htransform]
  | ident => exact ⟨rfl, before, start, finish, after, hlength, hedges, hother⟩
  | display => exact ⟨htransform, before, start, finish, after, hlength, hedges, hother⟩
  | save path => exact ⟨htransform, before, start, finish, after, hlength, hedges, hother⟩
  | scale factors =>
      exact ⟨congrArg (Matrix.andThen · _) htransform, before, start, finish, after,
        hlength, hedges, hother⟩
  | move offset =>
      exact ⟨congrArg (Matrix.andThen · _) htransform, before, start, finish, after,
        hlength, hedges, hother⟩
  | rotate axis degrees =>
      exact ⟨congrArg (Matrix.andThen · _) htransform, before, start, finish, after,
        hlength, hedges, hother⟩

theorem updateAll (h : SwapsEdge k scene other) (commands : List Command) :
    SwapsEdge k (scene.updateAll commands) (other.updateAll commands) := by
  induction commands generalizing scene other with
  | nil => exact h
  | cons command commands ih => exact ih (h.update command)

/-- The edge is still there, reversed, and the others are as they were. -/
theorem segments (h : SwapsEdge k scene other) :
    ∃ first s last, first.length = k ∧ scene.edges.segments = first ++ s :: last ∧
      other.edges.segments = first ++ s.reverse :: last := by
  obtain ⟨-, before, start, finish, after, hlength, hedges, hother⟩ := h
  have heven : Even before.length := ⟨k, by omega⟩
  refine ⟨EdgeList.segments before.toArray, start.edge finish,
    EdgeList.segments after.toArray, ?_, EdgeList.segments_eq_append hedges heven,
      EdgeList.segments_eq_append hother heven⟩
  rw [EdgeList.segments_toArray, EdgeList.length_pairUp, List.length_map, hlength,
    Nat.mul_div_cancel_left _ two_pos]

theorem render_eq {s : Segment Int} (h : SwapsEdge k scene other)
    (hs : scene.edges.segments[k]? = some s) (heither : s.EitherWay Double 500 500) :
    other.render = scene.render := by
  obtain ⟨first, t, last, hlength, hsegments, hother⟩ := h.segments
  rw [hsegments, List.getElem?_append_right hlength.le, hlength, Nat.sub_self,
    List.getElem?_cons_zero] at hs
  obtain rfl := Option.some.inj hs
  have hcovered : other.edges.covered 500 500 = scene.edges.covered 500 500 := by
    ext p
    simp only [EdgeList.mem_covered_iff, hsegments, hother, List.mem_append,
      List.mem_cons, or_and_right, exists_or, exists_eq_left,
        Segment.eitherWay_iff_covered.mp heither p]
  have hpaints := other.paints_render
  rw [hcovered] at hpaints
  exact hpaints.unique scene.paints_render

end Scene.SwapsEdge

theorem Scene.swapsEdge_of_line (earlier later : List Command) (start finish : Triple) :
    SwapsEdge (earlier.countP Command.isLine)
      (empty.updateAll (earlier ++ .line start finish :: later))
      (empty.updateAll (earlier ++ .line finish start :: later)) := by
  have hsize : (empty.updateAll earlier).edges.size =
      2 * earlier.countP Command.isLine := by
    rw [Commands.updateAll_empty, List.size_toArray, Commands.length_drawn]
  have hlater := (SwapsEdge.of_line hsize start finish).updateAll later
  simpa [updateAll, List.foldl_append] using hlater

/-- A line looks different from its other end. On a canvas of one column and two rows both
ends lie outside, and the rounding of the first point that is computed decides between the
two pixels. The picture of a script changes in the same way. -/
theorem swapped_ends_paint_other_pixel :
    (let canvas : Canvas := .new 1 2 255 ⟨255, 255, 255⟩
      let s : Segment Int := ⟨⟨-1, -2⟩, ⟨1, 3⟩⟩
      (canvas.drawLine s ⟨0, 0, 255⟩).image.pixel? ⟨0, 0⟩ = some ⟨0, 0, 255⟩ ∧
        (canvas.drawLine s.reverse ⟨0, 0, 255⟩).image.pixel? ⟨0, 0⟩ =
          some ⟨255, 255, 255⟩) ∧
      let start : Triple := ⟨3, -15, 0⟩
      let finish : Triple := ⟨-3, 510, 0⟩
      (Scene.empty.update (.line finish start)).render ≠
        (Scene.empty.update (.line start finish)).render := by
  refine ⟨⟨by decide +kernel, by decide +kernel⟩, ?_⟩
  intro start finish heq
  have hsegments : (Scene.empty.update (.line start finish)).edges.segments =
      [⟨⟨3, -15⟩, ⟨-3, 510⟩⟩] := by
    decide +kernel
  have hswapped : (Scene.empty.update (.line finish start)).edges.segments =
      [⟨⟨-3, 510⟩, ⟨3, -15⟩⟩] := by
    decide +kernel
  have hcovered : (Point.mk 0 248 : Point Int) ∈
      (Scene.empty.update (.line start finish)).edges.covered 500 500 := by
    rw [EdgeList.mem_covered_iff, hsegments]
    exact ⟨_, List.mem_singleton_self _, by decide +kernel⟩
  have hnot_covered : (Point.mk 0 248 : Point Int) ∉
      (Scene.empty.update (.line finish start)).edges.covered 500 500 := by
    rw [EdgeList.mem_covered_iff, hswapped]
    rintro ⟨s, hs, hp⟩
    obtain rfl := List.mem_singleton.mp hs
    revert hp
    decide +kernel
  have hcontains :
      (Scene.empty.update (.line start finish)).render.image.Contains ⟨0, 248⟩ :=
    (Scene.paints_render _).contains_iff.mpr ⟨by decide, by decide, by decide, by decide⟩
  apply hnot_covered
  rw [← Scene.pixel?_render_eq_blue_iff (heq ▸ hcontains), heq]
  exact (Scene.pixel?_render_eq_blue_iff hcontains).mpr hcovered

/-- A line looks the same from its other end, on every canvas of a size and in every
colour, just if clipping leaves the same ends or nothing. Exact arithmetic always does so,
and double precision does so for all lines along a row or column, for all that stay inside
or on the far side of one border, and for those that cross one border once, as long as the
coordinates have few bits. In a script, a line with its ends swapped is the same edge
reversed, and what is shown or saved changes only if that edge looks different. -/
theorem swapped_ends_paint_same :
    (∀ (width height : Nat) (s : Segment Int), s.EitherWay ℚ width height ∧
      (s.EitherWay Double width height ↔
        ∀ (canvas : Canvas) (color : Color),
          canvas.image.width = width → canvas.image.height = height →
          canvas.drawLine s.reverse color = canvas.drawLine s color)) ∧
      (∀ {width height : Nat} {s : Segment Int}, width < 2 ^ 53 → height < 2 ^ 53 →
        s.Steady width height → s.EitherWay Double width height) ∧
      ∀ (earlier later : List Command) (start finish : Triple),
        let scene := Scene.empty.updateAll (earlier ++ .line start finish :: later)
        let swapped := Scene.empty.updateAll (earlier ++ .line finish start :: later)
        let place := earlier.countP Command.isLine
        ∃ first edge last, first.length = place ∧
          scene.edges.segments = first ++ edge :: last ∧
          swapped.edges.segments = first ++ edge.reverse :: last ∧
          scene.edges.segments[place]? = some edge ∧
          swapped.edges.segments[place]? = some edge.reverse ∧
          (edge.EitherWay Double 500 500 → swapped.render = scene.render ∧
            ∀ {m : Type → Type} [Monad m] [Host m] (command : Command),
              (swapped.publish command : m (Except PictureError Unit)) =
                scene.publish command) := by
  refine ⟨fun width height s => ⟨s.eitherWay_rat width height, ?_⟩,
    fun hwidth hheight h => ?_, ?_⟩
  · exact Canvas.eitherWay_iff_drawLine_reverse
  · exact h.eitherWay hwidth hheight
  · intro earlier later start finish scene swapped place
    have hswaps : Scene.SwapsEdge place scene swapped :=
      Scene.swapsEdge_of_line earlier later start finish
    obtain ⟨first, edge, last, hlength, hsegments, hswapped⟩ := hswaps.segments
    have hedge : scene.edges.segments[place]? = some edge := by
      simp [hsegments, ← hlength]
    refine ⟨first, edge, last, hlength, hsegments, hswapped, hedge,
      by simp [hswapped, ← hlength], fun heither => ?_⟩
    have hrender := hswaps.render_eq hedge heither
    refine ⟨hrender, fun command => ?_⟩
    cases command <;> simp only [Scene.publish, hrender]

theorem swapped_ends_paint_same_at_top :
    let canvas : Canvas := .new 10 6 255 ⟨0, 0, 0⟩
    let s : Segment Int := ⟨⟨2, 1⟩, ⟨7, 40⟩⟩
    let later : List Command := [.line ⟨0, 0, 0⟩ ⟨0, 9, 0⟩, .scale ⟨3, 2, 1⟩, .apply]
    canvas.drawLine s.reverse ⟨255, 0, 0⟩ = canvas.drawLine s ⟨255, 0, 0⟩ ∧
      (Scene.empty.updateAll (.line ⟨90, 7, 0⟩ ⟨2, 50, 0⟩ :: later)).render =
        (Scene.empty.updateAll (.line ⟨2, 50, 0⟩ ⟨90, 7, 0⟩ :: later)).render := by
  intro canvas s later
  obtain ⟨hlines, hsteady, hscript⟩ := swapped_ends_paint_same
  have hbits : s.HasBits 4 6 10 6 :=
    ⟨by decide, by decide, by decide, by decide, by decide, by decide⟩
  have hleaves : s.Leaves 10 6 :=
    ⟨⟨by decide, by decide, by decide, by decide⟩, fun h => absurd h.y_lt (by decide),
      ⟨by decide +kernel, by decide +kernel, by decide +kernel, by decide +kernel⟩⟩
  have heither : s.EitherWay Double 10 6 :=
    hsteady (by decide) (by decide) (.leaves (by decide) hbits hleaves)
  refine ⟨(hlines 10 6 s).2.mp heither canvas _ rfl rfl, ?_⟩
  obtain ⟨-, edge, -, -, -, -, hedge, -, hpicture⟩ :=
    hscript [] later ⟨2, 50, 0⟩ ⟨90, 7, 0⟩
  have hplace :
      (Scene.empty.updateAll (.line ⟨2, 50, 0⟩ ⟨90, 7, 0⟩ :: later)).edges.segments[0]? =
        some ⟨⟨6, 100⟩, ⟨270, 14⟩⟩ := by decide +kernel
  obtain rfl : edge = ⟨⟨6, 100⟩, ⟨270, 14⟩⟩ := Option.some.inj (hedge.symm.trans hplace)
  have hinside : Segment.Steady 500 500 ⟨⟨6, 100⟩, ⟨270, 14⟩⟩ :=
    .inGrid ⟨by decide, by decide, by decide, by decide⟩ ⟨by
      decide, by decide, by decide, by decide⟩
  exact (hpicture (hsteady (by decide) (by decide) hinside)).1

end Wireframe
