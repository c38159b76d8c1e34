import Wireframe.Proofs.Binary.Zero
import Wireframe.Proofs.Raster.Ends
import Wireframe.Proofs.Raster.Pixels

/-!
Rows and columns. Clipping in double precision moves the ends of a segment along a
row or column exactly, from however far away, and the pixels between two ends are
all that lie between them.
-/

namespace Wireframe

def Point.intoGrid (width height : Nat) (p : Point Int) : Point Int :=
  ⟨max 0 (min (width - 1) p.x), max 0 (min (height - 1) p.y)⟩

theorem Point.InGrid.intoGrid_eq {width height : Nat} {p : Point Int}
    (h : p.InGrid width height) :
    p.intoGrid width height = p := by
  obtain ⟨hx, hx_lt, hy, hy_lt⟩ := h
  obtain ⟨x, y⟩ := p
  simp only [intoGrid, Point.mk.injEq] at *
  omega

theorem Point.inGrid_intoGrid {width height : Nat} (hsize : ¬ (width = 0 ∨ height = 0))
    (p : Point Int) :
    (p.intoGrid width height).InGrid width height := by
  constructor <;> simp only [intoGrid] <;> omega

structure Point.InReach (p : Point Int) : Prop where
  x_le : p.x.natAbs ≤ 2 ^ 63
  y_le : p.y.natAbs ≤ 2 ^ 63

namespace Segment

variable {s : Segment Int} {width height : Nat}

def Straight (s : Segment Int) : Prop :=
  s.start.y = s.finish.y ∨ s.start.x = s.finish.x

structure Spans (s : Segment Int) (p : Point Int) : Prop where
  min_x_le : min s.start.x s.finish.x ≤ p.x
  le_max_x : p.x ≤ max s.start.x s.finish.x
  min_y_le : min s.start.y s.finish.y ≤ p.y
  le_max_y : p.y ≤ max s.start.y s.finish.y

/-! Interpolation in double precision. -/

theorem interpolate_cast {fixed border first last threshold : Int}
    (hfixed : fixed.natAbs < 2 ^ 53) (hborder : border.natAbs < 2 ^ 53)
    (hthreshold : threshold.natAbs < 2 ^ 53) (hfirst : first.natAbs ≤ 2 ^ 63)
    (hlast : last.natAbs ≤ 2 ^ 63)
    (h : (first < threshold ∧ threshold ≤ last) ∨
      (last < threshold ∧ threshold ≤ first)) :
    (fixed : Double) + ((fixed : Double) - fixed) *
      ((border : Double) - first) / ((last : Double) - first) =
      fixed := by
  have hroom := Binary.Format.double_room
  have hreach : Binary.Format.double.scale + (63 + 1) + Binary.Format.double.precision <
      Binary.Format.double.width := by decide
  have hexact : (fixed : Double) =
      .finite (fixed < 0) (fixed.natAbs * 2 ^ Binary.Format.double.scale) _ :=
    Binary.cast_eq_finite hroom hfixed.le
  have hsign : (fixed : Double) ≠ Binary.zero true := by
    rw [hexact, Binary.zero]
    intro hzero
    injection hzero with hneg hunits
    have hpos : 0 < 2 ^ Binary.Format.double.scale := Nat.two_pow_pos _
    have hlt := of_decide_eq_true hneg
    rcases Nat.mul_eq_zero.mp hunits with hnone | hnone
    · omega
    · omega
  -- Far away the two ends may be rounded, but not to the same number, since
  -- the threshold is exact.
  have hlevel : (last : Double).level ≠ (first : Double).level := by
    rcases h with ⟨hbelow, hreached⟩ | ⟨hbelow, hreached⟩
    · exact (Binary.level_cast_lt hroom hthreshold hbelow hreached).ne'
    · exact (Binary.level_cast_lt hroom hthreshold hbelow hreached).ne
  have hfirst_finite : (first : Double).IsFinite :=
    (Binary.cast_within_reach hreach hfirst).finite
  have hlast_finite : (last : Double).IsFinite :=
    (Binary.cast_within_reach hreach hlast).finite
  exact Binary.interpolate_self ⟨_, _, _, hexact⟩ hsign
    (Binary.cast_sub_cast_isFinite hreach (by omega) hfirst)
    (Binary.cast_sub_cast_isFinite hreach hlast hfirst)
    (Binary.sub_toRat_ne_zero hlast_finite hfirst_finite hlevel)

end Segment

/-! Codes of ends on one row or column. -/

namespace Side

theorem exists_threshold {high u v : Int} (hhigh : 0 ≤ high)
    (h : Side.of high u ≠ Side.of high v) :
    ∃ threshold, 0 ≤ threshold ∧ threshold ≤ high + 1 ∧
      ((u < threshold ∧ threshold ≤ v) ∨ (v < threshold ∧ threshold ≤ u)) := by
  by_cases hneg : u < 0 ∨ v < 0
  · refine ⟨0, le_rfl, by omega, ?_⟩
    by_contra hsame
    apply h
    rw [of_eq_below_iff.mpr (show u < 0 by omega),
      of_eq_below_iff.mpr (show v < 0 by omega)]
  · refine ⟨high + 1, by omega, le_rfl, ?_⟩
    by_contra hsame
    apply h
    by_cases hu : high < u
    · rw [(of_eq_above_iff hhigh).mpr hu,
        (of_eq_above_iff hhigh).mpr (show high < v by omega)]
    · rw [of_eq_inside_iff.mpr (show 0 ≤ u ∧ u ≤ high by omega),
        of_eq_inside_iff.mpr (show 0 ≤ v ∧ v ≤ high by omega)]

theorem ne_of_outside {high u v w : Int} (hw : w = u ∨ w = v)
    (hout : Side.of high w ≠ .inside)
    (h : ¬ (Side.of high u = Side.of high v ∧ Side.of high u ≠ .inside)) :
    Side.of high u ≠ Side.of high v := by
  intro hsame
  refine h ⟨hsame, ?_⟩
  rcases hw with rfl | rfl
  · exact hout
  · exact hsame.trans_ne hout

end Side

namespace Segment

variable {s : Segment Int} {width height : Nat}

/-! Passes over segments between whole points. -/

section

variable {α : Type} [LT α] [DecidableLT α] [IntCast α] [Add α] [Sub α] [Mul α] [Div α]
  {frame : Frame α}
  (hcode : ∀ p : Point Int, frame.outcode (p.map Int.cast) =
    (Frame.grid Int width height).outcode p)
include hcode

theorem clipWithin_castTo_of_inGrid (hstart : s.start.InGrid width height)
    (hfinish : s.finish.InGrid width height) (passes : Nat) :
    (s.castTo α).clipWithin frame (passes + 1) = some (s.castTo α) := by
  have hinside : frame.outcode (s.castTo α).start = .inside ∧
      frame.outcode (s.castTo α).finish = .inside :=
    ⟨(hcode _).trans (Frame.outcode_grid_eq_inside_iff.mpr hstart),
      (hcode _).trans (Frame.outcode_grid_eq_inside_iff.mpr hfinish)⟩
  rw [clipWithin_succ, clipOnce_eq_none_iff.mpr (.inl hinside), Option.elim_none,
    if_pos hinside]

theorem clipWithin_castTo_start
    (hout : (Frame.grid Int width height).outcode s.start ≠ .inside)
    (hshare : ¬ ((Frame.grid Int width height).outcode s.start).shareBorder
      ((Frame.grid Int width height).outcode s.finish))
    {p : Point Int}
    (hp : (s.castTo α).onto frame ((Frame.grid Int width height).outcode s.start).border =
      p.map Int.cast)
    (passes : Nat) :
    (s.castTo α).clipWithin frame (passes + 1) =
      ((Segment.mk p s.finish).castTo α).clipWithin frame passes := by
  rw [← hcode] at hout hp
  rw [← hcode, ← hcode] at hshare
  have hpass : (s.castTo α).clipOnce frame = some ((Segment.mk p s.finish).castTo α) :=
    clipOnce_eq_some_iff.mpr (.inl ⟨hout, hshare, congrArg (Segment.mk · _) hp.symm⟩)
  rw [clipWithin_succ, hpass, Option.elim_some]

theorem clipWithin_castTo_finish (hstart : s.start.InGrid width height)
    (hout : (Frame.grid Int width height).outcode s.finish ≠ .inside) {p : Point Int}
    (hp : (s.castTo α).onto frame ((Frame.grid Int width height).outcode s.finish).border
      = p.map Int.cast)
    (passes : Nat) :
    (s.castTo α).clipWithin frame (passes + 1) =
      ((Segment.mk s.start p).castTo α).clipWithin frame passes := by
  have hinside := Frame.outcode_grid_eq_inside_iff.mpr hstart
  rw [← hcode] at hout hp hinside
  have hpass : (s.castTo α).clipOnce frame = some ((Segment.mk s.start p).castTo α) :=
    clipOnce_eq_some_iff.mpr (.inr ⟨hinside, hout, congrArg (Segment.mk _) hp.symm⟩)
  rw [clipWithin_succ, hpass, Option.elim_some]

end

theorem Straight.cases (h : s.Straight)
    (hshare : ¬ ((Frame.grid Int width height).outcode s.start).shareBorder
      ((Frame.grid Int width height).outcode s.finish)) :
    (s.start.y = s.finish.y ∧ 0 ≤ s.start.y ∧ s.start.y < height) ∨
      (s.start.x = s.finish.x ∧ 0 ≤ s.start.x ∧ s.start.x < width) := by
  rw [Outcode.shareBorder_iff, not_or] at hshare
  obtain ⟨hx, hy⟩ := hshare
  rcases h with hrow | hcolumn
  · have hside : Side.of (height - 1 : Int) s.start.y = .inside := by
      by_contra hout
      exact hy ⟨congrArg (Side.of (height - 1 : Int)) hrow, hout⟩
    obtain ⟨hnonneg, hle⟩ := Side.of_eq_inside_iff.mp hside
    exact .inl ⟨hrow, hnonneg, Int.lt_of_le_sub_one hle⟩
  · have hside : Side.of (width - 1 : Int) s.start.x = .inside := by
      by_contra hout
      exact hx ⟨congrArg (Side.of (width - 1 : Int)) hcolumn, hout⟩
    obtain ⟨hnonneg, hle⟩ := Side.of_eq_inside_iff.mp hside
    exact .inr ⟨hcolumn, hnonneg, Int.lt_of_le_sub_one hle⟩

variable (hwidth : width < 2 ^ 53) (hheight : height < 2 ^ 53) (hstart : s.start.InReach)
  (hfinish : s.finish.InReach)
include hwidth hheight hstart hfinish

theorem atAbscissa_castTo
    (hrow : s.start.y = s.finish.y ∧ 0 ≤ s.start.y ∧ s.start.y < height)
    (hx : Side.of (width - 1 : Int) s.start.x ≠ Side.of (width - 1 : Int) s.finish.x)
    {border : Int} (hborder : 0 ≤ border ∧ border < width) :
    (s.castTo Double).atAbscissa border = (Point.mk border s.start.y).map Int.cast := by
  obtain ⟨threshold, hnonneg, hle, hsplit⟩ := Side.exists_threshold (by omega) hx
  have hkeep :=
    @interpolate_cast s.start.y border _ _ threshold (by omega) (by omega) (by omega)
      hstart.x_le hfinish.x_le hsplit
  refine congrArg (Point.mk (border : Double)) ?_
  simp only [castTo, map, Point.map, ← hrow.1]
  exact hkeep

theorem atHeight_castTo
    (hcolumn : s.start.x = s.finish.x ∧ 0 ≤ s.start.x ∧ s.start.x < width)
    (hy : Side.of (height - 1 : Int) s.start.y ≠ Side.of (height - 1 : Int) s.finish.y)
    {border : Int} (hborder : 0 ≤ border ∧ border < height) :
    (s.castTo Double).atHeight border = (Point.mk s.start.x border).map Int.cast := by
  obtain ⟨threshold, hnonneg, hle, hsplit⟩ := Side.exists_threshold (by omega) hy
  have hkeep :=
    @interpolate_cast s.start.x border _ _ threshold (by omega) (by omega) (by omega)
      hstart.y_le hfinish.y_le hsplit
  refine congrArg (Point.mk · (border : Double)) ?_
  simp only [castTo, map, Point.map, ← hcolumn.1]
  exact hkeep

theorem onto_castTo_of_row
    (hrow : s.start.y = s.finish.y ∧ 0 ≤ s.start.y ∧ s.start.y < height)
    (hdiffer : Side.of (width - 1 : Int) s.start.x ≠ Side.of (width - 1 : Int) s.finish.x)
    {p : Point Int} (hp : p.y = s.start.y)
    (hout : Side.of (width - 1 : Int) p.x ≠ .inside) (hpos : 0 < width) :
    (s.castTo Double).onto (.grid Double width height)
      ((Frame.grid Int width height).outcode p).border =
      (p.intoGrid width height).map Int.cast := by
  have hmove :=
    @atAbscissa_castTo s width height hwidth hheight hstart hfinish hrow hdiffer
  have hy : Side.of (height - 1 : Int) p.y = .inside :=
    Side.of_eq_inside_iff.mpr (by omega)
  cases hside : Side.of (width - 1 : Int) p.x with
  | inside => exact absurd hside hout
  | below =>
      have hneg := Side.of_eq_below_iff.mp hside
      have hborder : ((Frame.grid Int width height).outcode p).border = .left := by
        simp [Outcode.border, Frame.outcode, Frame.grid, hside, hy]
      have hinto : p.intoGrid width height = ⟨0, s.start.y⟩ := by
        rw [Point.intoGrid, Point.mk.injEq]
        omega
      rw [hborder, hinto]
      exact @hmove 0 (by omega)
  | above =>
      have hbeyond := (Side.of_eq_above_iff (by omega)).mp hside
      have hborder : ((Frame.grid Int width height).outcode p).border = .right := by
        simp [Outcode.border, Frame.outcode, Frame.grid, hside, hy]
      have hinto : p.intoGrid width height = ⟨width - 1, s.start.y⟩ := by
        rw [Point.intoGrid, Point.mk.injEq]
        omega
      rw [hborder, hinto]
      exact @hmove (width - 1) (by omega)

theorem onto_castTo_of_column
    (hcolumn : s.start.x = s.finish.x ∧ 0 ≤ s.start.x ∧ s.start.x < width)
    (hdiffer : Side.of (height - 1 : Int) s.start.y ≠
      Side.of (height - 1 : Int) s.finish.y)
    {p : Point Int} (hp : p.x = s.start.x)
    (hout : Side.of (height - 1 : Int) p.y ≠ .inside) (hpos : 0 < height) :
    (s.castTo Double).onto (.grid Double width height)
      ((Frame.grid Int width height).outcode p).border =
      (p.intoGrid width height).map Int.cast := by
  have hmove :=
    @atHeight_castTo s width height hwidth hheight hstart hfinish hcolumn hdiffer
  cases hside : Side.of (height - 1 : Int) p.y with
  | inside => exact absurd hside hout
  | below =>
      have hneg := Side.of_eq_below_iff.mp hside
      have hborder : ((Frame.grid Int width height).outcode p).border = .bottom := by
        simp [Outcode.border, Frame.outcode, Frame.grid, hside]
      have hinto : p.intoGrid width height = ⟨s.start.x, 0⟩ := by
        rw [Point.intoGrid, Point.mk.injEq]
        omega
      rw [hborder, hinto]
      exact @hmove 0 (by omega)
  | above =>
      have hbeyond := (Side.of_eq_above_iff (by omega)).mp hside
      have hborder : ((Frame.grid Int width height).outcode p).border = .top := by
        simp [Outcode.border, Frame.outcode, Frame.grid, hside]
      have hinto : p.intoGrid width height = ⟨s.start.x, height - 1⟩ := by
        rw [Point.intoGrid, Point.mk.injEq]
        omega
      rw [hborder, hinto]
      exact @hmove (height - 1) (by omega)

variable (hsize : ¬ (width = 0 ∨ height = 0)) (hs : s.Straight)
  (hshare : ¬ ((Frame.grid Int width height).outcode s.start).shareBorder
    ((Frame.grid Int width height).outcode s.finish))
include hsize hs hshare

/-- An end that lies outside is moved to the nearest point of the grid. -/
theorem onto_castTo {p : Point Int} (hp : p = s.start ∨ p = s.finish)
    (hout : (Frame.grid Int width height).outcode p ≠ .inside) :
    (s.castTo Double).onto (.grid Double width height)
      ((Frame.grid Int width height).outcode p).border =
      (p.intoGrid width height).map Int.cast := by
  have hends := hshare
  rw [Outcode.shareBorder_iff, not_or] at hends
  obtain ⟨hsame_x, hsame_y⟩ := hends
  obtain ⟨hpos, hpos_height⟩ := not_or.mp hsize
  rcases hs.cases hshare with hrow | hcolumn
  · have hpy : p.y = s.start.y :=
      hp.elim (congrArg Point.y) fun h => (congrArg Point.y h).trans hrow.1.symm
    have hy : Side.of (height - 1 : Int) p.y = .inside :=
      Side.of_eq_inside_iff.mpr (by omega)
    have hx : Side.of (width - 1 : Int) p.x ≠ .inside :=
      fun hx => hout (congrArg₂ Outcode.mk hx hy)
    have hdiffer :=
      Side.ne_of_outside (hp.imp (congrArg Point.x) (congrArg Point.x)) hx hsame_x
    exact onto_castTo_of_row hwidth hheight hstart hfinish hrow hdiffer hpy hx
      (Nat.pos_of_ne_zero hpos)
  · have hpx : p.x = s.start.x :=
      hp.elim (congrArg Point.x) fun h => (congrArg Point.x h).trans hcolumn.1.symm
    have hx : Side.of (width - 1 : Int) p.x = .inside :=
      Side.of_eq_inside_iff.mpr (by omega)
    have hy : Side.of (height - 1 : Int) p.y ≠ .inside :=
      fun hy => hout (congrArg₂ Outcode.mk hx hy)
    have hdiffer :=
      Side.ne_of_outside (hp.imp (congrArg Point.y) (congrArg Point.y)) hy hsame_y
    exact onto_castTo_of_column hwidth hheight hstart hfinish hcolumn hdiffer hpx hy
      (Nat.pos_of_ne_zero hpos_height)

omit hshare in
theorem clipWithin_castTo_of_start_inGrid (hin : s.start.InGrid width height)
    (passes : Nat) :
    (s.castTo Double).clipWithin (.grid Double width height) (passes + 2) =
      some ((s.map (Point.intoGrid width height)).castTo Double) := by
  have hcode := Frame.outcode_cast exactIntegers_double hwidth hheight hsize
  by_cases hfinish_in : s.finish.InGrid width height
  · rw [clipWithin_castTo_of_inGrid hcode hin hfinish_in, map, hin.intoGrid_eq,
      hfinish_in.intoGrid_eq]
  · have hout : (Frame.grid Int width height).outcode s.finish ≠ .inside := fun h =>
      hfinish_in (Frame.outcode_grid_eq_inside_iff.mp h)
    have hshare : ¬ ((Frame.grid Int width height).outcode s.start).shareBorder
        ((Frame.grid Int width height).outcode s.finish) := by
      rw [Frame.outcode_grid_eq_inside_iff.mpr hin]
      exact Outcode.not_inside_shareBorder _
    have honto :=
      onto_castTo hwidth hheight hstart hfinish hsize hs hshare (.inr rfl) hout
    have hlast :=
      clipWithin_castTo_of_inGrid (s := ⟨s.start, s.finish.intoGrid width height⟩)
        hcode hin
        (Point.inGrid_intoGrid hsize s.finish) passes
    rw [clipWithin_castTo_finish hcode hin hout honto, hlast, map, hin.intoGrid_eq]

theorem clipWithin_castTo (passes : Nat) :
    (s.castTo Double).clipWithin (.grid Double width height) (passes + 3) =
      some ((s.map (Point.intoGrid width height)).castTo Double) := by
  have hcode := Frame.outcode_cast exactIntegers_double hwidth hheight hsize
  by_cases hstart_in : s.start.InGrid width height
  · exact clipWithin_castTo_of_start_inGrid hwidth hheight hstart hfinish hsize hs
      hstart_in (passes + 1)
  · have hout : (Frame.grid Int width height).outcode s.start ≠ .inside := fun h =>
      hstart_in (Frame.outcode_grid_eq_inside_iff.mp h)
    have honto :=
      onto_castTo hwidth hheight hstart hfinish hsize hs hshare (.inl rfl) hout
    have hmoved := Point.inGrid_intoGrid hsize s.start
    have hstraight : (Segment.mk (s.start.intoGrid width height) s.finish).Straight := by
      rcases hs.cases hshare with hrow | hcolumn
      · left
        simp only [Point.intoGrid]
        omega
      · right
        simp only [Point.intoGrid]
        omega
    have hreach : (s.start.intoGrid width height).InReach := by
      constructor
      · simp only [Point.intoGrid]
        omega
      · simp only [Point.intoGrid]
        omega
    have hrest :=
      clipWithin_castTo_of_start_inGrid
        (s := ⟨s.start.intoGrid width height, s.finish⟩) hwidth
        hheight hreach hfinish hsize hstraight hmoved passes
    rw [clipWithin_castTo_start hcode hout hshare honto, hrest, map, map,
      hmoved.intoGrid_eq]

theorem clip_of_straight :
    s.clip Double width height = some (s.map (Point.intoGrid width height)) := by
  have hpasses := clipWithin_castTo hwidth hheight hstart hfinish hsize hs hshare 5
  have hnearest := fun p => nearestWithin_cast exactIntegers_double hwidth hheight
    (Point.inGrid_intoGrid hsize p)
  rw [clip_eq_clipWithin hsize, clipPasses, hpasses, Option.map_some]
  exact congrArg some (congrArg₂ Segment.mk (hnearest s.start) (hnearest s.finish))

end Segment

/-- Both ends lie beyond the same border. -/
def Segment.Beyond (width height : Nat) (s : Segment Int) : Prop :=
  (s.start.x < 0 ∧ s.finish.x < 0) ∨
    ((width : Int) ≤ s.start.x ∧ (width : Int) ≤ s.finish.x) ∨
    (s.start.y < 0 ∧ s.finish.y < 0) ∨
      ((height : Int) ≤ s.start.y ∧ (height : Int) ≤ s.finish.y)

theorem Segment.shareBorder_iff_beyond {s : Segment Int} {width height : Nat}
    (hsize : ¬ (width = 0 ∨ height = 0)) :
    ((Frame.grid Int width height).outcode s.start).shareBorder
      ((Frame.grid Int width height).outcode s.finish) ↔ s.Beyond width height := by
  refine ⟨fun h => ?_, Frame.shareBorder_of_beyond hsize⟩
  have hbeyond : ∀ {size : Nat} {u v : Int}, ¬ size = 0 →
      Side.of (size - 1 : Int) u = Side.of (size - 1 : Int) v →
      Side.of (size - 1 : Int) u ≠ .inside →
      (u < 0 ∧ v < 0) ∨ ((size : Int) ≤ u ∧ (size : Int) ≤ v) := by
    intro size u v hpos hsame hout
    cases hside : Side.of (size - 1 : Int) u with
    | inside => exact absurd hside hout
    | below =>
        exact .inl ⟨Side.of_eq_below_iff.mp hside,
          Side.of_eq_below_iff.mp (hsame ▸ hside)⟩
    | above =>
        have hu := (Side.of_eq_above_iff (by omega)).mp hside
        have hv := (Side.of_eq_above_iff (by omega)).mp (hsame ▸ hside)
        omega
  obtain ⟨hwidth, hheight⟩ := not_or.mp hsize
  rcases Outcode.shareBorder_iff.mp h with ⟨hsame, hout⟩ | ⟨hsame, hout⟩
  · exact (hbeyond hwidth hsame hout).imp_right .inl
  · exact .inr (.inr (hbeyond hheight hsame hout))

/-! Pixels. -/

namespace Segment

variable {s : Segment Int}

theorem nearestStep_zero_minor {major i : Int} (hi : 0 ≤ i) (hle : i ≤ major) :
    Raster.nearestStep major 0 i = 0 :=
  le_antisymm (Raster.nearestStep_le le_rfl (hi.trans hle) hle)
    (Raster.nearestStep_nonneg le_rfl (hi.trans hle) hi)

theorem rise_eq_zero_iff : s.rise = 0 ↔ s.start.y = s.finish.y := by
  rw [rise, abs_eq_zero, sub_eq_zero]
  exact eq_comm

theorem spans_of_mem_nearestPixels (hrun : 0 ≤ s.run) {p : Point Int}
    (h : p ∈ s.nearestPixels) :
    s.Spans p := by
  obtain ⟨i, hi, hle, rfl⟩ := s.mem_nearestPixels_iff.mp h
  obtain ⟨hx, hx_le, hy, hy_le⟩ := pixelAt_mem hrun hi hle
  exact ⟨min_le_of_left_le hx, le_max_of_le_right hx_le, hy, hy_le⟩

theorem mem_nearestPixels_of_straight (hs : s.Straight) (hrun : 0 ≤ s.run)
    {p : Point Int} :
    p ∈ s.nearestPixels ↔ s.Spans p := by
  have hrun_eq : s.run = s.finish.x - s.start.x := rfl
  constructor
  · exact spans_of_mem_nearestPixels hrun
  · obtain ⟨x, y⟩ := p
    rintro ⟨hx, hx_le, hy, hy_le⟩
    rw [mem_nearestPixels_iff]
    dsimp only at hx hx_le hy hy_le
    by_cases hrow : s.start.y = s.finish.y
    · have hflat := rise_eq_zero_iff.mpr hrow
      refine ⟨x - s.start.x, by omega, le_max_of_le_left (by omega), ?_⟩
      rw [pixelAt, if_pos (hflat.trans_le hrun), hflat,
        nearestStep_zero_minor (by omega) (by omega), Point.mk.injEq]
      omega
    · have hupright : s.run = 0 := by
        have hcolumn := hs.resolve_left hrow
        omega
      have hsteep : ¬ s.rise ≤ s.run := fun hle =>
        hrow (rise_eq_zero_iff.mp (le_antisymm (hle.trans_eq hupright) s.rise_nonneg))
      have hsteps : 0 ≤ s.direction * (y - s.start.y) ∧
          s.direction * (y - s.start.y) ≤ s.rise := by
        have hrise := s.direction_mul_rise
        by_cases hdown : s.finish.y < s.start.y
        · rw [direction, if_pos hdown] at hrise ⊢
          omega
        · rw [direction, if_neg hdown] at hrise ⊢
          omega
      have hy_eq : y = s.start.y + s.direction * (s.direction * (y - s.start.y)) := by
        rw [← mul_assoc, direction_mul_direction, one_mul, add_sub_cancel]
      refine ⟨s.direction * (y - s.start.y), hsteps.1, le_max_of_le_right hsteps.2, ?_⟩
      rw [pixelAt, if_neg hsteep, hupright, nearestStep_zero_minor hsteps.1 hsteps.2,
        Point.mk.injEq]
      exact ⟨by omega, hy_eq⟩

end Segment

end Wireframe
