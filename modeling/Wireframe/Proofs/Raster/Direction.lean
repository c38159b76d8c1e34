import Wireframe.Proofs.Binary.Interpolate
import Wireframe.Proofs.Raster.Clipping
import Wireframe.Proofs.Raster.Straight

/-!
Segments and their reverses. Clipping moves the start before the finish, so that the
reverse of a segment goes through other formulas. Over the rational numbers they agree; in
double precision they agree while the rounding stays too small to be seen.
-/

namespace Wireframe.Segment

section

variable (α : Type) [Add α] [Sub α] [Mul α] [Div α] [LT α] [DecidableLT α] [IntCast α]
  [NearestInteger α]

/-- Clipping leaves the same ends, in either order, or nothing, with
whichever end it begins. -/
def EitherWay (width height : Nat) (s : Segment Int) : Prop :=
  s.reverse.clip α width height = s.clip α width height ∨
    s.reverse.clip α width height = (s.clip α width height).map reverse

instance (width height : Nat) (s : Segment Int) :
    Decidable (s.EitherWay α width height) :=
  inferInstanceAs (Decidable (_ ∨ _))

variable {α} {width height : Nat} {s : Segment Int}

theorem EitherWay.reverse (h : s.EitherWay α width height) :
    s.reverse.EitherWay α width height := by
  rcases h with hsame | hreverse
  · exact .inl hsame.symm
  · right
    rw [hreverse, reverse_reverse]
    cases s.clip α width height with
    | none => rfl
    | some clipped => rfl

end

/-! Over the rational numbers. -/

theorem exactIntegers_rat (bound : Nat) : ExactIntegers ℚ bound where
  cast_lt_cast_iff := fun _ _ => Int.cast_lt
  lt_cast_mono := fun h hlt => hlt.trans_le (Int.cast_le.mpr h)
  cast_lt_mono := fun h hlt => (Int.cast_le.mpr h).trans_lt hlt
  nearestInteger_cast := fun {n} _ => by
    have hfloor : ⌊(n : ℚ) + 1 / 2⌋ = n := by
      rw [Int.floor_eq_iff]
      constructor <;> linarith
    have hceil : ⌈(n : ℚ) - 1 / 2⌉ = n := by
      rw [Int.ceil_eq_iff]
      constructor <;> linarith
    change (if (n : ℚ) < 0 then ⌈(n : ℚ) - 1 / 2⌉ else ⌊(n : ℚ) + 1 / 2⌋) = n
    rw [hfloor, hceil, ite_self]

section

variable {frame : Frame ℚ}

theorem pointAt_reverse (s : Segment ℚ) (t : ℚ) :
    s.reverse.pointAt t = s.pointAt (1 - t) := by
  simp only [pointAt, reverse, Point.mk.injEq]
  constructor <;> ring

theorem mem_visible_reverse_iff {s : Segment ℚ} {t : ℚ} :
    t ∈ s.reverse.visible frame ↔ 1 - t ∈ s.visible frame := by
  simp only [visible, Set.mem_ofPred_eq, pointAt_reverse]
  constructor
  · rintro ⟨hnonneg, hle, hcontains⟩
    exact ⟨by linarith, by linarith, hcontains⟩
  · rintro ⟨hnonneg, hle, hcontains⟩
    exact ⟨by linarith, by linarith, hcontains⟩

theorem isLeast_visible_reverse {s : Segment ℚ} {last : ℚ}
    (h : IsGreatest (s.visible frame) last) :
    IsLeast (s.reverse.visible frame) (1 - last) := by
  refine ⟨mem_visible_reverse_iff.mpr (by rw [sub_sub_cancel]; exact h.1), fun t ht => ?_⟩
  have hle := h.2 (mem_visible_reverse_iff.mp ht)
  linarith

theorem isGreatest_visible_reverse {s : Segment ℚ} {first : ℚ}
    (h : IsLeast (s.visible frame) first) :
    IsGreatest (s.reverse.visible frame) (1 - first) := by
  refine ⟨mem_visible_reverse_iff.mpr (by rw [sub_sub_cancel]; exact h.1), fun t ht => ?_⟩
  have hle := h.2 (mem_visible_reverse_iff.mp ht)
  linarith

theorem onto_reverse {s : Segment ℚ} {border : Border}
    (h : frame.margin border s.start ≠ frame.margin border s.finish) :
    s.reverse.onto frame border = s.onto frame border := by
  have htime : 1 - s.reverse.crossingTime frame border = s.crossingTime frame border := by
    have hne_reverse := sub_ne_zero.mpr h.symm
    simp only [crossingTime, reverse]
    rw [one_sub_div hne_reverse, ← neg_div_neg_eq, neg_sub, sub_sub_cancel, neg_sub]
  rw [onto_eq_pointAt h, @onto_eq_pointAt frame s.reverse border h.symm,
    pointAt_reverse, htime]

theorem clipWithin_reverse (hframe : frame.Proper) (s : Segment ℚ) :
    s.reverse.clipWithin frame clipPasses =
      (s.clipWithin frame clipPasses).map reverse := by
  have hpasses : ∀ t : Segment ℚ, t.pending frame < clipPasses := fun t =>
    (t.pending_le frame).trans_lt (by decide)
  -- Each run leaves what is visible of its own segment, and both see the same part.
  have hforward := (Trims.refl frame s).clipWithin hframe (hpasses s)
  have hbackward := (Trims.refl frame s.reverse).clipWithin hframe (hpasses s.reverse)
  cases hs : s.clipWithin frame clipPasses with
  | none =>
      cases hreverse : s.reverse.clipWithin frame clipPasses with
      | none => rfl
      | some part =>
          rw [hs] at hforward
          rw [hreverse] at hbackward
          obtain ⟨first, last, hfirst, -, -⟩ := hbackward
          have hvisible := mem_visible_reverse_iff.mp hfirst.1
          rw [hforward] at hvisible
          exact absurd hvisible (Set.notMem_empty _)
  | some part =>
      rw [hs] at hforward
      obtain ⟨first, last, hfirst, hlast, rfl⟩ := hforward
      cases hreverse : s.reverse.clipWithin frame clipPasses with
      | none =>
          rw [hreverse] at hbackward
          have hvisible := (isLeast_visible_reverse hlast).1
          rw [hbackward] at hvisible
          exact absurd hvisible (Set.notMem_empty _)
      | some other =>
          rw [hreverse] at hbackward
          obtain ⟨start, finish, hstart, hfinish, rfl⟩ := hbackward
          rw [hstart.unique (isLeast_visible_reverse hlast),
            hfinish.unique (isGreatest_visible_reverse hfirst), pointAt_reverse,
            pointAt_reverse, sub_sub_cancel, sub_sub_cancel]
          rfl

theorem eitherWay_rat (width height : Nat) (s : Segment Int) :
    s.EitherWay ℚ width height := by
  by_cases hsize : width = 0 ∨ height = 0
  · left
    rw [clip, clip, if_pos hsize, if_pos hsize]
  · right
    have hframe : (Frame.grid ℚ width height).Proper :=
      Frame.grid_proper (by omega) (by omega)
    have hreverse := clipWithin_reverse hframe (s.castTo ℚ)
    change (s.reverse.castTo ℚ).clipWithin _ _ = _ at hreverse
    rw [clip_eq_clipWithin hsize, clip_eq_clipWithin hsize, hreverse, Option.map_map,
      Option.map_map]
    rfl

end

/-! In double precision. -/

section

variable {width height : Nat} {s : Segment Int}

theorem Beyond.reverse (h : s.Beyond width height) : s.reverse.Beyond width height := by
  rcases h with h | h | h | h
  · exact .inl h.symm
  · exact .inr (.inl h.symm)
  · exact .inr (.inr (.inl h.symm))
  · exact .inr (.inr (.inr h.symm))

theorem eitherWay_of_settles {α : Type} [Add α] [Sub α] [Mul α] [Div α] [LT α]
    [DecidableLT α] [IntCast α] [NearestInteger α]
    (hsettles : SettlesEnds width height (clip α width height))
    (h : (width = 0 ∨ height = 0) ∨ s.Beyond width height ∨
      (s.start.InGrid width height ∧ s.finish.InGrid width height)) :
    s.EitherWay α width height := by
  rcases h with hsize | hbeyond | ⟨hstart, hfinish⟩
  · left
    rw [hsettles.eq_none_of_empty hsize, hsettles.eq_none_of_empty hsize]
  · left
    rw [hsettles.eq_none_of_beyond hbeyond, hsettles.eq_none_of_beyond hbeyond.reverse]
  · right
    rw [hsettles.eq_some_of_inGrid hstart hfinish]
    exact hsettles.eq_some_of_inGrid hfinish hstart

variable (hwidth : width < 2 ^ 53) (hheight : height < 2 ^ 53)
include hwidth hheight

theorem eitherWay_of_straight (hs : s.Straight) (hstart : s.start.InReach)
    (hfinish : s.finish.InReach) :
    s.EitherWay Double width height := by
  have hsettles := settlesEnds_clip exactIntegers_double hwidth hheight
  by_cases hempty : width = 0 ∨ height = 0
  · exact eitherWay_of_settles hsettles (.inl hempty)
  · by_cases hbeyond : s.Beyond width height
    · exact eitherWay_of_settles hsettles (.inr (.inl hbeyond))
    · right
      have hshare := (shareBorder_iff_beyond hempty).not.mpr hbeyond
      have hshare_reverse :=
        (@shareBorder_iff_beyond s.reverse width height hempty).not.mpr fun hreverse =>
          hbeyond hreverse.reverse
      rw [clip_of_straight hwidth hheight hstart hfinish hempty hs hshare]
      exact clip_of_straight hwidth hheight hfinish hstart hempty (hs.imp Eq.symm Eq.symm)
        hshare_reverse

end

/-! A line that crosses one border. -/

/-- Across, the sides and the coordinates have at most `a` bits, and up at most `b`. -/
structure HasBits (a b width height : Nat) (s : Segment Int) : Prop where
  width_le : width ≤ 2 ^ a
  height_le : height ≤ 2 ^ b
  start_x_le : s.start.x.natAbs ≤ 2 ^ a
  start_y_le : s.start.y.natAbs ≤ 2 ^ b
  finish_x_le : s.finish.x.natAbs ≤ 2 ^ a
  finish_y_le : s.finish.y.natAbs ≤ 2 ^ b

/-- The line starts on the grid and leaves it where it meets the border that its
finish is moved onto. -/
structure Leaves (width height : Nat) (s : Segment Int) : Prop where
  start_inGrid : s.start.InGrid width height
  finish_not_inGrid : ¬ s.finish.InGrid width height
  contains : (Frame.grid ℚ width height).Contains
    ((s.castTo ℚ).onto (.grid ℚ width height)
      ((Frame.grid Int width height).outcode s.finish).border)

section

variable {a b width height : Nat} {s : Segment Int}

theorem side_of_within {z : Double} {high : Int} (hhigh : high.natAbs ≤ 2 ^ 53)
    (hz : z.Within 0 high) :
    Side.of (high : Double) z = .inside := by
  have hzero := Binary.within_cast_self Binary.Format.double_room (n := 0) (Nat.zero_le _)
  have hmost := Binary.within_cast_self Binary.Format.double_room (n := high) hhigh
  have hnonneg : ¬ z < ((0 : Int) : Double) := by
    rw [Binary.lt_iff_toRat_lt hz.finite hzero.finite, hzero.toRat_eq, Int.cast_zero]
    exact not_lt.mpr hz.low_le
  have hle : ¬ (high : Double) < z := by
    rw [Binary.lt_iff_toRat_lt hmost.finite hz.finite, hmost.toRat_eq]
    exact not_lt.mpr hz.le_high
  rw [Side.of, if_neg hnonneg, if_neg hle]

/-- A coordinate that double precision and exact arithmetic place on the same
pixel inside the grid. -/
structure Agrees (high : Int) (z : Double) (q : ℚ) : Prop where
  inside : Side.of (high : Double) z = .inside
  nearest : NearestInteger.nearestInteger z = NearestInteger.nearestInteger q

theorem agrees_cast {high n : Int} (hhigh : high.natAbs ≤ 2 ^ 53) (hn : 0 ≤ n)
    (hle : n ≤ high) :
    Agrees high (n : Double) (n : ℚ) := by
  have hsmall : n.natAbs ≤ 2 ^ Binary.Format.double.precision := by
    change n.natAbs ≤ 2 ^ 53
    omega
  have hexact := Binary.within_cast_self Binary.Format.double_room hsmall
  have hnonneg : (0 : ℚ) ≤ n := Int.cast_nonneg hn
  have hle_high : (n : ℚ) ≤ high := Int.cast_le.mpr hle
  refine ⟨side_of_within hhigh ⟨hexact.finite, hnonneg.trans hexact.low_le,
    hexact.le_high.trans hle_high⟩, ?_⟩
  rw [(exactIntegers_rat (n.natAbs + 1)).nearestInteger_cast (Nat.lt_succ_self _)]
  exact Binary.nearestInteger_cast Binary.Format.double_room hsmall

theorem agrees_interpolate {a b : Nat} (hab : a + b ≤ 50)
    {first last low high place most : Int}
    (hbits : Binary.FewBits a b first last low high place) (hmost : most < (2 ^ a : Nat))
    (hnonneg : 0 ≤ Binary.interpolated first last low high place)
    (hle : Binary.interpolated first last low high place ≤ most) :
    Agrees most (Binary.interpolate .double first last low high place)
      (Binary.interpolated first last low high place) := by
  have hroom := Binary.Format.double_roomFor hab
  have hbound : 2 ^ a ≤ 2 ^ 53 := Nat.pow_le_pow_right two_pos (by omega)
  have hmost_nonneg : (0 : Int) ≤ most := by
    exact_mod_cast hnonneg.trans hle
  refine ⟨side_of_within (by omega) ?_, ?_⟩
  · exact Binary.within_interpolate_range hroom hbits hmost hnonneg hle
  · rw [nearestInteger_of_nonneg hnonneg]
    exact Binary.nearestInteger_interpolate hroom hbits hmost hnonneg hle

variable (hbits : s.HasBits a b width height) (hab : a + b ≤ 50)
include hbits hab

theorem agrees_atHeight (hne : s.finish.y ≠ s.start.y) {border : Int}
    (hborder : 0 ≤ border ∧ border < height)
    (hcontains : (Frame.grid ℚ width height).Contains ((s.castTo ℚ).atHeight border)) :
    Agrees (width - 1) ((s.castTo Double).atHeight border).x
      ((s.castTo ℚ).atHeight border).x ∧
      Agrees (height - 1) ((s.castTo Double).atHeight border).y
        ((s.castTo ℚ).atHeight border).y := by
  obtain ⟨hwidth, hheight, hstart_x, hstart_y, hfinish_x, hfinish_y⟩ := hbits
  have hbound : 2 ^ b ≤ 2 ^ 53 := Nat.pow_le_pow_right two_pos (by omega)
  constructor
  · exact agrees_interpolate hab ⟨hstart_x, hfinish_x, hstart_y, hfinish_y,
        by omega, hne⟩ (by omega)
      hcontains.x_nonneg hcontains.x_le
  · exact agrees_cast (by omega) hborder.1 (by omega)

theorem agrees_atAbscissa (hne : s.finish.x ≠ s.start.x) {border : Int}
    (hborder : 0 ≤ border ∧ border < width)
    (hcontains : (Frame.grid ℚ width height).Contains ((s.castTo ℚ).atAbscissa border)) :
    Agrees (width - 1) ((s.castTo Double).atAbscissa border).x
      ((s.castTo ℚ).atAbscissa border).x ∧
      Agrees (height - 1) ((s.castTo Double).atAbscissa border).y
        ((s.castTo ℚ).atAbscissa border).y := by
  obtain ⟨hwidth, hheight, hstart_x, hstart_y, hfinish_x, hfinish_y⟩ := hbits
  have hbound : 2 ^ a ≤ 2 ^ 53 := Nat.pow_le_pow_right two_pos (by omega)
  constructor
  · exact agrees_cast (by omega) hborder.1 (by omega)
  · exact agrees_interpolate ((Nat.add_comm b a).trans_le hab)
      ⟨hstart_y, hfinish_y, hstart_x, hfinish_x,
        by omega, hne⟩ (by omega) hcontains.y_nonneg hcontains.y_le

variable (hsize : ¬ (width = 0 ∨ height = 0))
include hsize

theorem agrees_onto {border : Border} (hne : (s.castTo ℚ).divisor border ≠ 0)
    (hcontains : (Frame.grid ℚ width height).Contains
      ((s.castTo ℚ).onto (.grid ℚ width height) border)) :
    (Frame.grid Double width height).outcode
      ((s.castTo Double).onto (.grid Double width height) border) =
        .inside ∧
      nearestWithin ⟨width - 1, height - 1⟩
        ((s.castTo Double).onto (.grid Double width height) border) =
        nearestWithin ⟨width - 1, height - 1⟩
          ((s.castTo ℚ).onto (.grid ℚ width height) border) := by
  have hpair : ∀ {p : Point Double} {q : Point ℚ}, Agrees (width - 1) p.x q.x →
    Agrees (height - 1) p.y q.y →
      (Frame.grid Double width height).outcode p = .inside ∧
        nearestWithin ⟨width - 1, height - 1⟩ p =
            nearestWithin ⟨width - 1, height - 1⟩ q := by
    intro p q hx hy
    refine ⟨congrArg₂ Outcode.mk hx.inside hy.inside, ?_⟩
    rw [nearestWithin, nearestWithin, hx.nearest, hy.nearest]
  have hacross : ((s.finish.x : ℚ) - s.start.x ≠ 0) → s.finish.x ≠ s.start.x :=
    fun hne heq =>
      hne (by rw [heq, sub_self])
  have hup : ((s.finish.y : ℚ) - s.start.y ≠ 0) → s.finish.y ≠ s.start.y := fun hne heq =>
    hne (by rw [heq, sub_self])
  cases border with
  | left =>
      obtain ⟨hx, hy⟩ :=
        agrees_atAbscissa hbits hab (hacross hne) ⟨le_rfl, by omega⟩ hcontains
      exact hpair hx hy
  | right =>
      obtain ⟨hx, hy⟩ := agrees_atAbscissa hbits hab (hacross hne) (by omega) hcontains
      exact hpair hx hy
  | bottom =>
      obtain ⟨hx, hy⟩ := agrees_atHeight hbits hab (hup hne) ⟨le_rfl, by omega⟩ hcontains
      exact hpair hx hy
  | top =>
      obtain ⟨hx, hy⟩ := agrees_atHeight hbits hab (hup hne) (by omega) hcontains
      exact hpair hx hy

end

/-! Clipping that moves one end once. -/

section

variable {α : Type} [LT α] [DecidableLT α] [IntCast α] [Add α] [Sub α] [Mul α] [Div α]

theorem clipWithin_of_clipOnce {frame : Frame α} {s moved : Segment α}
    (hpass : s.clipOnce frame = some moved) (hstart : frame.outcode moved.start = .inside)
    (hfinish : frame.outcode moved.finish = .inside) (passes : Nat) :
    s.clipWithin frame (passes + 2) = some moved := by
  rw [clipWithin_succ, hpass, Option.elim_some, clipWithin_succ,
    clipOnce_eq_none_iff.mpr (.inl ⟨hstart, hfinish⟩), Option.elim_none,
      if_pos ⟨hstart, hfinish⟩]

variable [NearestInteger α] {width height : Nat} (hsize : ¬ (width = 0 ∨ height = 0))
  (hcode : ∀ p : Point Int,
    (Frame.grid α width height).outcode (p.map Int.cast) =
      (Frame.grid Int width height).outcode p)
  {s : Segment Int}
include hsize hcode

theorem clip_of_leaves (hstart : s.start.InGrid width height)
    (hfinish : ¬ s.finish.InGrid width height)
    (hinside : (Frame.grid α width height).outcode
      ((s.castTo α).onto (.grid α width height)
        ((Frame.grid Int width height).outcode s.finish).border) = .inside) :
    s.clip α width height =
      some ⟨nearestWithin ⟨width - 1, height - 1⟩ (s.start.map Int.cast : Point α),
      nearestWithin ⟨width - 1, height - 1⟩ ((s.castTo α).onto (.grid α width height)
        ((Frame.grid Int width height).outcode s.finish).border)⟩ := by
  have hin : (Frame.grid α width height).outcode (s.start.map Int.cast) = .inside :=
    (hcode _).trans (Frame.outcode_grid_eq_inside_iff.mpr hstart)
  have hout : (Frame.grid α width height).outcode (s.finish.map Int.cast) ≠ .inside :=
    (hcode _).trans_ne (Frame.outcode_grid_eq_inside_iff.not.mpr hfinish)
  rw [← hcode] at hinside ⊢
  have hpass : (s.castTo α).clipOnce (.grid α width height) =
      some ⟨s.start.map Int.cast, _⟩ :=
    clipOnce_eq_some_iff.mpr (.inr ⟨hin, hout, rfl⟩)
  rw [clip_eq_clipWithin hsize, clipPasses, clipWithin_of_clipOnce hpass hin hinside 6,
    Option.map_some]
  rfl

theorem clip_reverse_of_leaves (hstart : s.start.InGrid width height)
    (hfinish : ¬ s.finish.InGrid width height)
    (hinside : (Frame.grid α width height).outcode
      ((s.reverse.castTo α).onto (.grid α width height)
        ((Frame.grid Int width height).outcode s.finish).border) = .inside) :
    s.reverse.clip α width height = some ⟨nearestWithin ⟨width - 1, height - 1⟩
        ((s.reverse.castTo α).onto (.grid α width height)
          ((Frame.grid Int width height).outcode s.finish).border),
      nearestWithin ⟨width - 1, height - 1⟩ (s.start.map Int.cast : Point α)⟩ := by
  have hin : (Frame.grid α width height).outcode (s.start.map Int.cast) = .inside :=
    (hcode _).trans (Frame.outcode_grid_eq_inside_iff.mpr hstart)
  have hout : (Frame.grid α width height).outcode (s.finish.map Int.cast) ≠ .inside :=
    (hcode _).trans_ne (Frame.outcode_grid_eq_inside_iff.not.mpr hfinish)
  have hshare :
      ¬ ((Frame.grid α width height).outcode (s.finish.map Int.cast)).shareBorder
        ((Frame.grid α width height).outcode (s.start.map Int.cast)) := by
    rw [hin]
    exact Outcode.not_shareBorder_inside _
  rw [← hcode] at hinside ⊢
  have hpass : (s.reverse.castTo α).clipOnce (.grid α width height) =
      some ⟨_, s.start.map Int.cast⟩ :=
    clipOnce_eq_some_iff.mpr (.inl ⟨hout, hshare, rfl⟩)
  rw [clip_eq_clipWithin hsize, clipPasses, clipWithin_of_clipOnce hpass hinside hin 6,
    Option.map_some]
  rfl

end

section

variable {a b width height : Nat} {s : Segment Int}

theorem Leaves.not_empty (h : s.Leaves width height) : ¬ (width = 0 ∨ height = 0) := by
  obtain ⟨hx, hx_lt, hy, hy_lt⟩ := h.start_inGrid
  omega

theorem Leaves.margin_ne (h : s.Leaves width height) :
    (Frame.grid ℚ width height).margin
      ((Frame.grid Int width height).outcode s.finish).border
        (s.castTo ℚ).start ≠
      (Frame.grid ℚ width height).margin
        ((Frame.grid Int width height).outcode s.finish).border
        (s.castTo ℚ).finish := by
  have hsize := h.not_empty
  have hframe : (Frame.grid ℚ width height).Proper :=
    Frame.grid_proper (by omega) (by omega)
  have hcode :=
    Frame.outcode_cast (exactIntegers_rat (width + height + 1)) (by omega)
      (by omega) hsize
  have hstart : (Frame.grid ℚ width height).outcode (s.castTo ℚ).start = .inside :=
    (hcode s.start).trans (Frame.outcode_grid_eq_inside_iff.mpr h.start_inGrid)
  have hfinish : (Frame.grid ℚ width height).outcode (s.castTo ℚ).finish ≠ .inside :=
    (hcode s.finish).trans_ne fun hinside =>
      h.finish_not_inGrid (Frame.outcode_grid_eq_inside_iff.mp hinside)
  have hnonneg :=
    Frame.contains_iff_margin_nonneg.mp (Frame.outcode_eq_inside_iff.mp hstart)
  have hneg := Frame.margin_border_neg hframe hfinish
  change (Frame.grid ℚ width height).margin ((Frame.grid ℚ width height).outcode
    (s.finish.map Int.cast)).border _ < 0 at hneg
  rw [hcode] at hneg
  exact (hneg.trans_le (hnonneg _)).ne'

theorem HasBits.reverse (h : s.HasBits a b width height) :
    s.reverse.HasBits a b width height :=
  ⟨h.width_le, h.height_le, h.finish_x_le, h.finish_y_le, h.start_x_le, h.start_y_le⟩

/-- In double precision a line that crosses one border comes to the same pixel of it as in
exact arithmetic, with whichever end clipping begins. -/
theorem eitherWay_of_leaves (h : s.Leaves width height)
    (hbits : s.HasBits a b width height) (hab : a + b ≤ 50) :
    s.EitherWay Double width height := by
  have hsize := h.not_empty
  have hpower : 2 ^ a ≤ 2 ^ 50 ∧ 2 ^ b ≤ 2 ^ 50 :=
    ⟨Nat.pow_le_pow_right two_pos (by omega), Nat.pow_le_pow_right two_pos (by omega)⟩
  have hwidth : width < 2 ^ 53 := by
    have hle := hbits.width_le
    omega
  have hheight : height < 2 ^ 53 := by
    have hle := hbits.height_le
    omega
  have hcode := Frame.outcode_cast exactIntegers_double hwidth hheight hsize
  have hne := h.margin_ne
  have hsame : (s.reverse.castTo ℚ).onto (.grid ℚ width height) _ = _ := onto_reverse hne
  obtain ⟨hforward, hforward_nearest⟩ :=
    agrees_onto hbits hab hsize (divisor_ne_zero hne) h.contains
  obtain ⟨hbackward, hbackward_nearest⟩ :=
    @agrees_onto a b width height s.reverse hbits.reverse hab hsize _
      (@divisor_ne_zero _ (s.castTo ℚ).reverse _ hne.symm) (hsame.symm ▸ h.contains)
  have hclip := clip_of_leaves hsize hcode h.start_inGrid h.finish_not_inGrid hforward
  have hclip_reverse :=
    clip_reverse_of_leaves hsize hcode h.start_inGrid h.finish_not_inGrid hbackward
  right
  rw [hclip, hclip_reverse, hforward_nearest, hbackward_nearest, hsame,
    Option.map_some, reverse]

/-- Reasons for which double precision cannot tell a line from its reverse. -/
inductive Steady (width height : Nat) (s : Segment Int) : Prop
  | empty (hempty : width = 0 ∨ height = 0)
  | beyond (hbeyond : s.Beyond width height)
  | inGrid (hstart : s.start.InGrid width height) (hfinish : s.finish.InGrid width height)
  | straight (hs : s.Straight) (hstart : s.start.InReach) (hfinish : s.finish.InReach)
  | leaves {a b : Nat} (hab : a + b ≤ 50) (hbits : s.HasBits a b width height)
      (hleaves : s.Leaves width height)
  | enters {a b : Nat} (hab : a + b ≤ 50) (hbits : s.HasBits a b width height)
      (hleaves : s.reverse.Leaves width height)

theorem Steady.eitherWay (h : s.Steady width height) (hwidth : width < 2 ^ 53)
    (hheight : height < 2 ^ 53) :
    s.EitherWay Double width height := by
  have hsettles := settlesEnds_clip exactIntegers_double hwidth hheight
  cases h with
  | empty hempty => exact eitherWay_of_settles hsettles (.inl hempty)
  | beyond hbeyond => exact eitherWay_of_settles hsettles (.inr (.inl hbeyond))
  | inGrid hstart hfinish =>
      exact eitherWay_of_settles hsettles (.inr (.inr ⟨hstart, hfinish⟩))
  | straight hs hstart hfinish =>
      exact eitherWay_of_straight hwidth hheight hs hstart hfinish
  | leaves hab hbits hleaves => exact eitherWay_of_leaves hleaves hbits hab
  | enters hab hbits hleaves =>
      exact (eitherWay_of_leaves hleaves hbits.reverse hab).reverse

end

end Wireframe.Segment
