import Wireframe.Proofs.Raster.Outcode

/-!
Clipping pass by pass. A pass finds the answer or moves one endpoint onto a border.
-/

namespace Wireframe

namespace Segment

section

variable {α : Type} [Add α] [Sub α] [Mul α] [Div α] [IntCast α]

/-- Where the line through a segment meets a border. -/
def onto (frame : Frame α) (s : Segment α) : Border → Point α
  | .left => s.atAbscissa ((0 : Int) : α)
  | .right => s.atAbscissa frame.right
  | .bottom => s.atHeight ((0 : Int) : α)
  | .top => s.atHeight frame.top

theorem crossing_eq_onto (frame : Frame α) (s : Segment α) (code : Outcode) :
    s.crossing frame code = s.onto frame code.border := by
  obtain ⟨x, y⟩ := code
  cases y with
  | above => rfl
  | below => rfl
  | inside => cases x <;> rfl

variable [LT α] [DecidableLT α]

/-- What a pass makes of a segment, unless it finds the answer. -/
def clipOnce (frame : Frame α) (s : Segment α) : Option (Segment α) :=
  let code := frame.outcode s.start
  let finishCode := frame.outcode s.finish
  if code = .inside ∧ finishCode = .inside then none
  else if code.shareBorder finishCode then none
  else if code ≠ .inside then some ⟨s.crossing frame code, s.finish⟩
  else some ⟨s.start, s.crossing frame finishCode⟩

/-- The segments that the passes begin with, up to the pass that finds the answer. -/
def clipTrail (frame : Frame α) : (passes : Nat) → Segment α → List (Segment α)
  | 0, _ => []
  | passes + 1, s => s :: (s.clipOnce frame).elim [] (clipTrail frame passes)

theorem clipWithin_succ (frame : Frame α) (passes : Nat) (s : Segment α) :
    s.clipWithin frame (passes + 1) =
      (s.clipOnce frame).elim
        (if frame.outcode s.start = .inside ∧ frame.outcode s.finish = .inside then
          some s else none)
        (clipWithin frame passes) := by
  simp only [clipWithin, clipOnce]
  split
  · rfl
  · split
    · rfl
    · split <;> rfl

theorem clipOnce_eq_none_iff {frame : Frame α} {s : Segment α} :
    s.clipOnce frame = none ↔
      (frame.outcode s.start = .inside ∧ frame.outcode s.finish = .inside) ∨
        (frame.outcode s.start).shareBorder (frame.outcode s.finish) := by
  simp only [clipOnce]
  split
  · simp [*]
  · split
    · simp [*]
    · split <;> simp [*]

theorem clipOnce_eq_some_iff {frame : Frame α} {s moved : Segment α} :
    s.clipOnce frame = some moved ↔
      (frame.outcode s.start ≠ .inside ∧
        ¬ (frame.outcode s.start).shareBorder (frame.outcode s.finish) ∧
        moved = ⟨s.onto frame (frame.outcode s.start).border, s.finish⟩) ∨
      (frame.outcode s.start = .inside ∧ frame.outcode s.finish ≠ .inside ∧
        moved = ⟨s.start, s.onto frame (frame.outcode s.finish).border⟩) := by
  simp only [clipOnce, crossing_eq_onto]
  split
  · rename_i hinside
    simp [hinside.1, hinside.2]
  · rename_i hinside
    split
    · rename_i hshare
      have hstart : frame.outcode s.start ≠ .inside := fun hstart =>
        Outcode.not_inside_shareBorder _ (hstart ▸ hshare)
      simp [hshare, hstart]
    · rename_i hshare
      split
      · rename_i hstart
        constructor
        · intro h
          cases h
          exact .inl ⟨hstart, hshare, rfl⟩
        · rintro (⟨-, -, rfl⟩ | ⟨hfalse, -⟩)
          · rfl
          · exact absurd hfalse hstart
      · rename_i hstart
        have hstart : frame.outcode s.start = .inside := not_ne_iff.mp hstart
        have hfinish : frame.outcode s.finish ≠ .inside :=
          fun hfinish => hinside ⟨hstart, hfinish⟩
        constructor
        · intro h
          cases h
          exact .inr ⟨hstart, hfinish, rfl⟩
        · rintro (⟨hfalse, -⟩ | ⟨-, -, rfl⟩)
          · exact absurd hstart hfalse
          · rfl

end

variable {frame : Frame ℚ} {s moved : Segment ℚ} {border : Border}

def divisor (s : Segment ℚ) : Border → ℚ
  | .left => s.finish.x - s.start.x
  | .right => s.finish.x - s.start.x
  | .bottom => s.finish.y - s.start.y
  | .top => s.finish.y - s.start.y

/-- When a segment passes a border, by the margins of its ends. -/
def crossingTime (frame : Frame ℚ) (border : Border) (s : Segment ℚ) : ℚ :=
  frame.margin border s.start /
    (frame.margin border s.start - frame.margin border s.finish)

theorem divisor_ne_zero (h : frame.margin border s.start ≠ frame.margin border s.finish) :
    s.divisor border ≠ 0 := by
  intro hzero
  apply h
  cases border <;> simp [Frame.margin, sub_eq_zero.mp hzero]

theorem onto_eq_pointAt (h : frame.margin border s.start ≠ frame.margin border s.finish) :
    s.onto frame border = s.pointAt (s.crossingTime frame border) := by
  have hdivisor := divisor_ne_zero h
  cases border with
  | left =>
      refine (atAbscissa_eq_pointAt s hdivisor _).trans (congrArg s.pointAt ?_)
      rw [crossingTime, ← neg_div_neg_eq]
      simp [Frame.margin]
  | right =>
      refine (atAbscissa_eq_pointAt s hdivisor _).trans (congrArg s.pointAt ?_)
      simp [crossingTime, Frame.margin]
  | bottom =>
      refine (atHeight_eq_pointAt s hdivisor _).trans (congrArg s.pointAt ?_)
      rw [crossingTime, ← neg_div_neg_eq]
      simp [Frame.margin]
  | top =>
      refine (atHeight_eq_pointAt s hdivisor _).trans (congrArg s.pointAt ?_)
      simp [crossingTime, Frame.margin]

def Straddles (frame : Frame ℚ) (border : Border) (s : Segment ℚ) : Prop :=
  (frame.margin border s.start < 0 ∧ 0 ≤ frame.margin border s.finish) ∨
    (0 ≤ frame.margin border s.start ∧ frame.margin border s.finish < 0)

namespace Straddles

variable (h : s.Straddles frame border)
include h

theorem margin_ne : frame.margin border s.start ≠ frame.margin border s.finish := by
  rcases h with ⟨hneg, hnonneg⟩ | ⟨hnonneg, hneg⟩
  · exact (hneg.trans_le hnonneg).ne
  · exact (hneg.trans_le hnonneg).ne'

theorem crossingTime_mem :
    0 ≤ s.crossingTime frame border ∧ s.crossingTime frame border ≤ 1 := by
  unfold crossingTime
  rcases h with ⟨hstart, hfinish⟩ | ⟨hstart, hfinish⟩
  · have hneg : frame.margin border s.start - frame.margin border s.finish < 0 :=
      by linarith
    exact ⟨div_nonneg_of_nonpos hstart.le hneg.le,
      (div_le_one_of_neg hneg).mpr (by linarith)⟩
  · have hpos : 0 < frame.margin border s.start - frame.margin border s.finish :=
      by linarith
    exact ⟨div_nonneg hstart hpos.le, (div_le_one hpos).mpr (by linarith)⟩

theorem margin_crossing :
    frame.margin border (s.pointAt (s.crossingTime frame border)) = 0 := by
  have hne : frame.margin border s.start - frame.margin border s.finish ≠ 0 :=
    sub_ne_zero.mpr h.margin_ne
  rw [Frame.margin_pointAt, crossingTime]
  field_simp
  ring

end Straddles

/-- A pass moves an endpoint that lies beyond a border onto it, if the
other endpoint does not. -/
theorem margins_of_clipOnce (hframe : frame.Proper) (h : s.clipOnce frame = some moved) :
    (∃ border, border = (frame.outcode s.start).border ∧ frame.outcode s.start ≠ .inside ∧
      (frame.margin border s.start < 0 ∧ 0 ≤ frame.margin border s.finish) ∧
      moved = ⟨s.onto frame border, s.finish⟩) ∨
    ∃ border, border = (frame.outcode s.finish).border ∧ frame.outcode s.start = .inside ∧
      frame.outcode s.finish ≠ .inside ∧
      (0 ≤ frame.margin border s.start ∧ frame.margin border s.finish < 0) ∧
      moved = ⟨s.start, s.onto frame border⟩ := by
  rcases clipOnce_eq_some_iff.mp h with ⟨hstart, hshare, rfl⟩ | ⟨hstart, hfinish, rfl⟩
  · have hneg := Frame.margin_border_neg hframe hstart
    have hnonneg := Frame.margin_border_nonneg hframe hstart hshare
    exact .inl ⟨_, rfl, hstart, ⟨hneg, hnonneg⟩, rfl⟩
  · have hcontains := Frame.outcode_eq_inside_iff.mp hstart
    have hnonneg := Frame.contains_iff_margin_nonneg.mp hcontains
    exact .inr ⟨_, rfl, hstart, hfinish,
      ⟨hnonneg _, Frame.margin_border_neg hframe hfinish⟩, rfl⟩

end Segment

end Wireframe
