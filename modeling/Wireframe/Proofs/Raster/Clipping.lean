import Wireframe.Proofs.Raster.Checked

/-!
What clipping leaves of a segment, over the rational numbers: the part that lies in the
rectangle, to the nearest pixels. Each pass cuts off a part beyond a border, and no
endpoint has to be moved more than twice.
-/

namespace Wireframe

/-- How often an endpoint with this code is moved at most. -/
def Outcode.moves (code : Outcode) : Nat :=
  if code.y ≠ .inside then 2 else if code.x ≠ .inside then 1 else 0

namespace Outcode

variable {code other : Outcode}

theorem moves_eq_two (h : code.y ≠ .inside) : code.moves = 2 :=
  if_pos h

theorem moves_le_one (h : code.y = .inside) : code.moves ≤ 1 := by
  rw [moves, if_neg (not_not.mpr h)]
  split
  · exact le_rfl
  · exact zero_le_one

theorem moves_le_two (code : Outcode) : code.moves ≤ 2 := by
  by_cases h : code.y = .inside
  · exact (moves_le_one h).trans one_le_two
  · exact (moves_eq_two h).le

theorem moves_pos (h : code ≠ .inside) : 0 < code.moves := by
  by_cases hy : code.y = .inside
  · have hx : code.x ≠ .inside := by
      obtain ⟨x, y⟩ := code
      rintro rfl
      exact h (congrArg (Outcode.mk .inside) hy)
    rw [moves, if_neg (not_not.mpr hy), if_pos hx]
    exact one_pos
  · rw [moves_eq_two hy]
    exact two_pos

end Outcode

namespace Frame

variable {frame : Frame ℚ} {s : Segment ℚ} {code : Outcode}

theorem side_onto_y (hframe : frame.Proper) (h : code.y ≠ .inside) :
    (frame.outcode (s.onto frame code.border)).y = .inside := by
  refine Side.of_eq_inside_iff.mpr ?_
  obtain ⟨x, y⟩ := code
  cases y with
  | above => exact ⟨hframe.top_nonneg, le_rfl⟩
  | below => exact ⟨by simp [Outcode.border, Segment.onto, Segment.atHeight], by
      simpa [Outcode.border, Segment.onto, Segment.atHeight] using hframe.top_nonneg⟩
  | inside => exact absurd rfl h

theorem side_onto_x (hframe : frame.Proper) (h : code.y = .inside) :
    (frame.outcode (s.onto frame code.border)).x = .inside := by
  refine Side.of_eq_inside_iff.mpr ?_
  obtain ⟨x, y⟩ := code
  cases h
  cases x with
  | above => exact ⟨hframe.right_nonneg, le_rfl⟩
  | below => exact ⟨by simp [Outcode.border, Segment.onto, Segment.atAbscissa], by
      simpa [Outcode.border, Segment.onto, Segment.atAbscissa] using hframe.right_nonneg⟩
  | inside => exact ⟨by simp [Outcode.border, Segment.onto, Segment.atAbscissa], by
      simpa [Outcode.border, Segment.onto, Segment.atAbscissa] using hframe.right_nonneg⟩

/-- An endpoint that has been moved has fewer moves left, or lies beyond the
same border as the other. -/
theorem moves_onto_lt (hframe : frame.Proper) {other : Outcode} (h : code ≠ .inside)
    (hy : code.y = .inside → (frame.outcode (s.onto frame code.border)).y = .inside ∨
      (frame.outcode (s.onto frame code.border)).y = other.y) :
    (frame.outcode (s.onto frame code.border)).moves < code.moves ∨
      (frame.outcode (s.onto frame code.border)).shareBorder other := by
  by_cases hcode : code.y = .inside
  · have hx := side_onto_x (s := s) hframe hcode
    by_cases hmoved : (frame.outcode (s.onto frame code.border)).y = .inside
    · left
      have hzero : (frame.outcode (s.onto frame code.border)).moves = 0 := by
        rw [Outcode.moves, if_neg (not_not.mpr hmoved), if_neg (not_not.mpr hx)]
      rw [hzero]
      exact Outcode.moves_pos h
    · right
      have hsame := (hy hcode).resolve_left hmoved
      exact Outcode.shareBorder_iff.mpr (.inr ⟨hsame, hmoved⟩)
  · left
    rw [Outcode.moves_eq_two hcode]
    exact Nat.lt_succ_of_le (Outcode.moves_le_one (side_onto_y hframe hcode))

end Frame

namespace Segment

variable {frame : Frame ℚ} {line s moved : Segment ℚ} {first last : ℚ}

def pending (frame : Frame ℚ) (s : Segment ℚ) : Nat :=
  if (frame.outcode s.start).shareBorder (frame.outcode s.finish) then 0
  else (frame.outcode s.start).moves + (frame.outcode s.finish).moves

theorem pending_le (frame : Frame ℚ) (s : Segment ℚ) : s.pending frame ≤ 4 := by
  unfold pending
  split
  · exact Nat.zero_le 4
  · exact Nat.add_le_add (Outcode.moves_le_two _) (Outcode.moves_le_two _)

theorem pending_of_inside (h : frame.outcode s.start = .inside) :
    s.pending frame = (frame.outcode s.finish).moves := by
  rw [pending, h, if_neg (Outcode.not_inside_shareBorder _)]
  exact Nat.zero_add _

theorem side_y_onto {border : Border} (hframe : frame.Proper)
    (h : s.Straddles frame border) (hinside : (frame.outcode s.start).y = .inside) :
    (frame.outcode (s.onto frame border)).y = .inside ∨
      (frame.outcode (s.onto frame border)).y = (frame.outcode s.finish).y := by
  obtain ⟨htime, htime_le⟩ := h.crossingTime_mem
  rw [onto_eq_pointAt h.margin_ne]
  exact Side.of_between hframe.top_nonneg hinside htime htime_le _

theorem pending_lt_of_clipOnce (hframe : frame.Proper)
    (h : s.clipOnce frame = some moved) :
    moved.pending frame < s.pending frame := by
  have hnot : s.clipOnce frame ≠ none := by simp [h]
  rcases margins_of_clipOnce hframe h with ⟨border, rfl, hstart, hmargins, rfl⟩ |
    ⟨border, rfl, hstart, hfinish, hmargins, rfl⟩
  · have hpending : s.pending frame = (frame.outcode s.start).moves +
        (frame.outcode s.finish).moves :=
      if_neg fun hshare => hnot (clipOnce_eq_none_iff.mpr (.inr hshare))
    have hpos : 0 < s.pending frame := by
      rw [hpending]
      exact Nat.add_pos_left (Outcode.moves_pos hstart) _
    have hmoves := Frame.moves_onto_lt hframe hstart (side_y_onto hframe (.inl hmargins))
    rcases hmoves with hlt | hshared
    · rw [pending]
      split
      · exact hpos
      · rw [hpending]
        exact Nat.add_lt_add_right hlt _
    · rw [pending, if_pos hshared]
      exact hpos
  · have hy : (frame.outcode s.finish).y = .inside →
        (frame.outcode (s.onto frame (frame.outcode s.finish).border)).y = .inside :=
          fun hinside => by
      have hstarty : (frame.outcode s.start).y = .inside := congrArg Outcode.y hstart
      rcases side_y_onto hframe (.inr hmargins) hstarty with hmoved | hmoved
      · exact hmoved
      · exact hmoved.trans hinside
    have hlt :=
      (Frame.moves_onto_lt hframe hfinish fun hinside => .inl (hy hinside)).resolve_right
        (Outcode.not_shareBorder_inside _)
    rw [pending_of_inside hstart, pending_of_inside (by exact hstart)]
    exact hlt

theorem length_clipTrail_le (hframe : frame.Proper) (passes : Nat) (s : Segment ℚ) :
    (s.clipTrail frame passes).length ≤ s.pending frame + 1 := by
  induction passes generalizing s with
  | zero => exact Nat.zero_le _
  | succ passes ih =>
      rw [clipTrail, List.length_cons]
      cases hpass : s.clipOnce frame with
      | none => exact Nat.le_add_left _ _
      | some moved =>
          have hlt := pending_lt_of_clipOnce hframe hpass
          have hrest := ih moved
          exact Nat.succ_le_succ (hrest.trans hlt)

theorem clipWithin_eq (hframe : frame.Proper) {passes others : Nat}
    (h : s.pending frame < passes) (hothers : s.pending frame < others) :
    s.clipWithin frame passes = s.clipWithin frame others := by
  induction passes generalizing s others with
  | zero => exact absurd h (Nat.not_lt_zero _)
  | succ passes ih =>
      cases others with
      | zero => exact absurd hothers (Nat.not_lt_zero _)
      | succ others =>
          rw [clipWithin_succ, clipWithin_succ]
          cases hpass : s.clipOnce frame with
          | none => rfl
          | some moved =>
              have hlt := pending_lt_of_clipOnce hframe hpass
              exact ih (Nat.lt_of_lt_of_le hlt (Nat.le_of_lt_succ h))
                (Nat.lt_of_lt_of_le hlt (Nat.le_of_lt_succ hothers))

/-! What has been cut off lies outside the rectangle. -/

/-- A segment that is the part of a line between two times, with all of the
line that is visible. -/
structure Trims (frame : Frame ℚ) (line : Segment ℚ) (first last : ℚ) (s : Segment ℚ) :
    Prop where
  first_nonneg : 0 ≤ first
  first_le : first ≤ last
  last_le : last ≤ 1
  eq_part : s = ⟨line.pointAt first, line.pointAt last⟩
  visible : ∀ t ∈ line.visible frame, first ≤ t ∧ t ≤ last

namespace Trims

theorem refl (frame : Frame ℚ) (line : Segment ℚ) : Trims frame line 0 1 line where
  first_nonneg := le_rfl
  first_le := zero_le_one
  last_le := le_rfl
  eq_part := by simp
  visible := fun _ ht => ⟨ht.1, ht.2.1⟩

variable (h : Trims frame line first last s)
include h

theorem pointAt_eq (t : ℚ) : s.pointAt t = line.pointAt (first + t * (last - first)) := by
  rw [h.eq_part]
  exact line.pointAt_part first last t

theorem margin_sub (border : Border) (t u : ℚ) :
    (frame.margin border (line.pointAt t) - frame.margin border (line.pointAt u)) *
      (last - first) =
      (frame.margin border s.finish - frame.margin border s.start) * (t - u) := by
  rw [h.eq_part]
  simp only [Frame.margin_pointAt]
  ring

theorem moveStart {border : Border}
    (hmargins : frame.margin border s.start < 0 ∧ 0 ≤ frame.margin border s.finish) :
    ∃ time, Trims frame line time last ⟨s.onto frame border, s.finish⟩ := by
  have hstraddles : s.Straddles frame border := .inl hmargins
  obtain ⟨htime, htime_le⟩ := hstraddles.crossingTime_mem
  have hzero := hstraddles.margin_crossing
  rw [h.pointAt_eq] at hzero
  have hlength : 0 ≤ last - first := sub_nonneg.mpr h.first_le
  refine ⟨first + s.crossingTime frame border * (last - first), ?_, ?_, h.last_le, ?_,
    fun t ht => ?_⟩
  · exact add_nonneg h.first_nonneg (mul_nonneg htime hlength)
  · nlinarith
  · rw [onto_eq_pointAt hstraddles.margin_ne, h.pointAt_eq]
    exact congrArg (Segment.mk _) (congrArg Segment.finish h.eq_part)
  · refine ⟨?_, (h.visible t ht).2⟩
    have hvisible := Frame.contains_iff_margin_nonneg.mp ht.2.2 border
    have hpace :=
      h.margin_sub border t (first + s.crossingTime frame border * (last - first))
    rw [hzero, sub_zero] at hpace
    have hrising : 0 < frame.margin border s.finish - frame.margin border s.start :=
      by linarith
    have hproduct := hpace ▸ mul_nonneg hvisible hlength
    exact sub_nonneg.mp (nonneg_of_mul_nonneg_right hproduct hrising)

theorem moveFinish {border : Border}
    (hmargins : 0 ≤ frame.margin border s.start ∧ frame.margin border s.finish < 0) :
    ∃ time, Trims frame line first time ⟨s.start, s.onto frame border⟩ := by
  have hstraddles : s.Straddles frame border := .inr hmargins
  obtain ⟨htime, htime_le⟩ := hstraddles.crossingTime_mem
  have hzero := hstraddles.margin_crossing
  rw [h.pointAt_eq] at hzero
  have hlength : 0 ≤ last - first := sub_nonneg.mpr h.first_le
  have hlast : first + s.crossingTime frame border * (last - first) ≤ last := by nlinarith
  refine ⟨first + s.crossingTime frame border * (last - first), h.first_nonneg, ?_,
    hlast.trans h.last_le, ?_, fun t ht => ?_⟩
  · exact le_add_of_nonneg_right (mul_nonneg htime hlength)
  · rw [onto_eq_pointAt hstraddles.margin_ne, h.pointAt_eq]
    exact congrArg (Segment.mk · _) (congrArg Segment.start h.eq_part)
  · refine ⟨(h.visible t ht).1, ?_⟩
    have hvisible := Frame.contains_iff_margin_nonneg.mp ht.2.2 border
    have hpace :=
      h.margin_sub border t (first + s.crossingTime frame border * (last - first))
    rw [hzero, sub_zero] at hpace
    have hfalling : frame.margin border s.finish - frame.margin border s.start < 0 :=
      by linarith
    have hproduct := hpace ▸ mul_nonneg hvisible hlength
    exact sub_nonpos.mp (nonpos_of_mul_nonneg_right hproduct hfalling)

theorem clipOnce (hframe : frame.Proper) (hpass : s.clipOnce frame = some moved) :
    ∃ first last, Trims frame line first last moved := by
  rcases margins_of_clipOnce hframe hpass with ⟨border, -, -, hmargins, rfl⟩ |
    ⟨border, -, -, -, hmargins, rfl⟩
  · obtain ⟨time, htrims⟩ := h.moveStart hmargins
    exact ⟨time, last, htrims⟩
  · obtain ⟨time, htrims⟩ := h.moveFinish hmargins
    exact ⟨first, time, htrims⟩

theorem visible_eq_empty (hframe : frame.Proper)
    (hshare : (frame.outcode s.start).shareBorder (frame.outcode s.finish)) :
    line.visible frame = ∅ := by
  obtain ⟨border, hstart, hfinish⟩ := Frame.exists_border_of_shareBorder hframe hshare
  refine Set.eq_empty_of_forall_notMem fun t ht => ?_
  obtain ⟨hfirst, hlast⟩ := h.visible t ht
  have hvisible := Frame.contains_iff_margin_nonneg.mp ht.2.2 border
  rw [h.eq_part, Frame.margin_pointAt] at hstart hfinish
  rw [Frame.margin_pointAt] at hvisible
  -- The margin at a time between two others lies between the margins at these.
  rcases le_total 0 (frame.margin border line.finish - frame.margin border line.start)
    with hpace | hpace
  · nlinarith
  · nlinarith

theorem clipWithin (hframe : frame.Proper) {passes : Nat}
    (hpasses : s.pending frame < passes) :
    match s.clipWithin frame passes with
    | none => line.visible frame = ∅
    | some part => ∃ first last, IsLeast (line.visible frame) first ∧
        IsGreatest (line.visible frame) last ∧
            part = ⟨line.pointAt first, line.pointAt last⟩ := by
  induction passes generalizing first last s with
  | zero => exact absurd hpasses (Nat.not_lt_zero _)
  | succ passes ih =>
      rw [clipWithin_succ]
      cases hpass : s.clipOnce frame with
      | some moved =>
          obtain ⟨first, last, htrims⟩ := h.clipOnce hframe hpass
          have hlt := pending_lt_of_clipOnce hframe hpass
          exact ih htrims (Nat.lt_of_lt_of_le hlt (Nat.le_of_lt_succ hpasses))
      | none =>
          rw [Option.elim_none]
          by_cases hinside : frame.outcode s.start = .inside ∧
            frame.outcode s.finish = .inside
          · rw [if_pos hinside]
            obtain ⟨hstart, hfinish⟩ := hinside
            rw [Frame.outcode_eq_inside_iff, h.eq_part] at hstart hfinish
            refine ⟨first, last, ⟨?_, fun t ht => (h.visible t ht).1⟩, ⟨?_, fun t ht =>
              (h.visible t ht).2⟩, h.eq_part⟩
            · exact ⟨h.first_nonneg, h.first_le.trans h.last_le, hstart⟩
            · exact ⟨h.first_nonneg.trans h.first_le, h.last_le, hfinish⟩
          · rw [if_neg hinside]
            exact h.visible_eq_empty hframe
              ((clipOnce_eq_none_iff.mp hpass).resolve_left hinside)

end Trims

theorem clip_eq_map {width height : Nat} (hwidth : 0 < width) (hheight : 0 < height)
    (s : Segment Int) :
    s.clip ℚ width height =
      ((s.castTo ℚ).clipWithin (.grid ℚ width height) clipPasses).map
        (Segment.map (nearestWithin ⟨width - 1, height - 1⟩)) :=
  if_neg (by omega)

/-- Clipping in exact arithmetic answers with nothing just if no point of the segment lies
in the rectangle, and otherwise with the first and the last point that do, to the nearest
pixels. At most four endpoints are moved, so that there are five passes at most and
further ones would change nothing, and every division is by a number other than zero. -/
theorem clip_eq_visible_ends {width height : Nat} (hwidth : 0 < width)
    (hheight : 0 < height) (s : Segment Int) :
    let frame : Frame ℚ := .grid ℚ width height
    let line : Segment ℚ := s.castTo ℚ
    (s.clip ℚ width height = none ↔ ∀ t, 0 ≤ t → t ≤ 1 →
      ¬ frame.Contains (line.pointAt t)) ∧
      (∀ clipped, s.clip ℚ width height = some clipped →
        ∃ first last, IsLeast (line.visible frame) first ∧
          IsGreatest (line.visible frame) last ∧
          clipped = ⟨(line.pointAt first).map NearestInteger.nearestInteger,
            (line.pointAt last).map NearestInteger.nearestInteger⟩) ∧
      (line.clipTrail frame clipPasses).length ≤ 5 ∧
      (∀ passes, 5 ≤ passes → line.clipWithin frame passes = line.clipWithin frame 5) ∧
      (s.castTo CheckedRat).clipTrail (.grid CheckedRat width height) clipPasses =
        (line.clipTrail frame clipPasses).map checked := by
  intro frame line
  have hframe : frame.Proper := Frame.grid_proper hwidth hheight
  have hpending : line.pending frame ≤ 4 := line.pending_le frame
  have hpasses : line.pending frame < clipPasses := hpending.trans_lt (by decide)
  have hanswer := (Trims.refl frame line).clipWithin hframe hpasses
  refine ⟨?_, fun clipped hclipped => ?_, ?_, fun passes hpasses => ?_, ?_⟩
  · rw [clip_eq_map hwidth hheight s, Option.map_eq_none_iff, ← line.visible_eq_empty_iff]
    cases hpart : line.clipWithin frame clipPasses with
    | none =>
        rw [hpart] at hanswer
        exact iff_of_true rfl hanswer
    | some part =>
        rw [hpart] at hanswer
        obtain ⟨first, last, hfirst, -, -⟩ := hanswer
        exact iff_of_false (Option.some_ne_none _)
          (Set.nonempty_iff_ne_empty.mp ⟨first, hfirst.1⟩)
  · rw [clip_eq_map hwidth hheight s, Option.map_eq_some_iff] at hclipped
    obtain ⟨part, hpart, rfl⟩ := hclipped
    change line.clipWithin frame clipPasses = some part at hpart
    rw [hpart] at hanswer
    obtain ⟨first, last, hfirst, hlast, rfl⟩ := hanswer
    refine ⟨first, last, hfirst, hlast, ?_⟩
    exact congrArg₂ Segment.mk (nearestWithin_of_contains hfirst.1.2.2)
      (nearestWithin_of_contains hlast.1.2.2)
  · exact (length_clipTrail_le hframe clipPasses line).trans (Nat.succ_le_succ hpending)
  · exact clipWithin_eq hframe (hpending.trans_lt hpasses) (hpending.trans_lt (by decide))
  · exact clipTrail_checked hframe clipPasses line

theorem clip_visible_ends_four_moves :
    let s : Segment Int := ⟨⟨-4, 3⟩, ⟨8, -1⟩⟩
    let line : Segment ℚ := s.castTo ℚ
    0 < 5 ∧ 0 < 3 ∧ s.clip ℚ 5 3 = some ⟨⟨0, 2⟩, ⟨4, 0⟩⟩ ∧
      (line.clipTrail (.grid ℚ 5 3) clipPasses).length = 5 ∧
      ∃ first last, IsLeast (line.visible (.grid ℚ 5 3)) first ∧
        IsGreatest (line.visible (.grid ℚ 5 3)) last ∧
        (line.pointAt first).map NearestInteger.nearestInteger = ⟨0, 2⟩ ∧
        (line.pointAt last).map NearestInteger.nearestInteger = ⟨4, 0⟩ := by
  intro s line
  have hclip : s.clip ℚ 5 3 = some ⟨⟨0, 2⟩, ⟨4, 0⟩⟩ := by decide +kernel
  have hlength : (line.clipTrail (.grid ℚ 5 3) clipPasses).length = 5 := by decide +kernel
  obtain ⟨-, hends, -⟩ :=
    clip_eq_visible_ends (show 0 < 5 by decide) (show 0 < 3 by decide) s
  obtain ⟨first, last, hfirst, hlast, hpoints⟩ := hends _ hclip
  refine ⟨by decide, by decide, hclip, hlength, first, last, hfirst, hlast, ?_, ?_⟩
  · exact (congrArg Segment.start hpoints).symm
  · exact (congrArg Segment.finish hpoints).symm

end Segment

end Wireframe
